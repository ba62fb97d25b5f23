import Issuance.Proofs.Crowd.Soundness
import Issuance.Proofs.Provisioner.KeptPairs
import Issuance.Proofs.Run.Commission
import Issuance.Proofs.Run.Ending

/- When stores do not fail and all others answer by what they are asked, a reconciliation has one
verdict. -/
namespace Issuance

/-- Builds and authorities answer by what they are asked, and the clock stands still. -/
structure Behaviour where
  stamp : String
  build : AuthorityKey → IssuerSpec → Except ProvisionerFailure Unit
  sign : AuthorityKey → IssuerSpec → CertificateRequest → Except ProvisionerFailure String
  collect : AuthorityKey → IssuerSpec → CertificateRequest → String →
    Except ProvisionerFailure IssuedCertificate

/-- What a reconciliation comes to: the identifier that it records, the decision that it writes, and
its outcome. -/
structure Verdict where
  recorded : Option String
  update : StatusUpdate
  outcome : Reconcile.Outcome

namespace Verdict

/-- The request waits, and the failure is reported. -/
def postponed (failure : ReconcileFailure) : Verdict :=
  ⟨none, .pending failure.message, .error failure⟩

/-- The request has failed for good. -/
def rejected (failure : ReconcileFailure) : Verdict :=
  ⟨none, .failed failure.message, .error failure⟩

/-- The request is looked at again after the poll interval. -/
def polled (config : ControllerConfig) (recorded : Option String) (message : String) : Verdict :=
  ⟨recorded, .pending message, .ok (.delayed config.issuancePollInterval)⟩

/-- A certificate that was collected is stored, awaited or refused. -/
def ofCollection (config : ControllerConfig)
    (answer : Except ProvisionerFailure IssuedCertificate) : Verdict :=
  match answer.bind Reconcile.checkIssued with
  | .ok issued => ⟨none, .issued issued, .ok .none⟩
  | .error .inProgress => polled config none Reconcile.waitingMessage
  | .error failure => rejected (.get failure)

/-- An order is recorded or refused. -/
def ofOrder (config : ControllerConfig) (answer : Except ProvisionerFailure String) : Verdict :=
  match answer with
  | .ok arn => polled config (some arn) Reconcile.orderedMessage
  | .error failure => rejected (.sign failure)

def annotated (verdict : Verdict) (request : CertificateRequest) : CertificateRequest :=
  match verdict.recorded with
  | none => request
  | some arn => request.annotateArn arn

/-- The request with the decision about it. -/
def apply (verdict : Verdict) (stamp : String) (request : CertificateRequest) :
    CertificateRequest :=
  (verdict.annotated request).mergeStatus (project request.status verdict.update stamp)

end Verdict

namespace Cluster

/-- The authority of a request, which has to be there and to be ready. -/
def resolved (cluster : Cluster) (request : CertificateRequest) :
    Except ReconcileFailure Authority :=
  match AuthorityKey.ofRequest request with
  | .error failure => .error failure
  | .ok key => Reconcile.checkAuthority key (.ok (cluster.authority? key))

end Cluster

namespace Behaviour

variable (behaviour : Behaviour) (config : ControllerConfig)

/-- Stores do not fail, and the others keep to the behaviour. -/
def Grants : Observation → Prop
  | ⟨.readRequest _ _, answer⟩ => ∃ found, answer = .ok found
  | ⟨.readIssuer _ _, answer⟩ => ∃ found, answer = .ok found
  | ⟨.readClusterIssuer _, answer⟩ => ∃ found, answer = .ok found
  | ⟨.finishBuild provisioner, answer⟩ =>
    answer = behaviour.build provisioner.key provisioner.spec
  | ⟨.sign provisioner request, answer⟩ =>
    answer = behaviour.sign provisioner.key provisioner.spec request
  | ⟨.collect provisioner request arn, answer⟩ =>
    answer = behaviour.collect provisioner.key provisioner.spec request arn
  | ⟨.stamp, answer⟩ => answer = behaviour.stamp
  | ⟨.annotate _ _, answer⟩ => answer = .ok ()
  | ⟨.writeStatus _ _, answer⟩ => answer = .ok ()
  | _ => True

/-- A provisioner is kept, or a build decides about it. -/
def provided (cache : ProvisionerCache) (key : AuthorityKey) (spec : IssuerSpec) :
    Except ProvisionerFailure Unit :=
  if cache.isKept key spec then .ok () else behaviour.build key spec

/-- The verdict on a request with a provisioner of its authority. -/
def judge (authority : Authority) (request : CertificateRequest) : Verdict :=
  match request.certificateArn? with
  | some arn => .ofCollection config (behaviour.collect authority.key authority.spec request arn)
  | none =>
    match request.signingRequest with
    | .error fault => .rejected (Reconcile.malformedRequest fault)
    | .ok _ => .ofOrder config (behaviour.sign authority.key authority.spec request)

/-- The verdict on a request that is not settled. -/
def verdict (shared : SharedState) (request : CertificateRequest) : Verdict :=
  match shared.cluster.resolved request with
  | .error failure => .postponed failure
  | .ok authority =>
    match behaviour.provided shared.cache authority.key authority.spec with
    | .error failure => .rejected (.provisioner failure)
    | .ok _ => behaviour.judge config authority request

/-- Whether a provisioner is kept after the verdict on a request. -/
def keeps (shared : SharedState) (request : CertificateRequest) (key : AuthorityKey)
    (spec : IssuerSpec) : Bool :=
  match shared.cluster.resolved request with
  | .error _ => shared.cache.isKept key spec
  | .ok authority =>
    if key = authority.key then
      decide (spec = authority.spec) &&
        (behaviour.provided shared.cache authority.key authority.spec).isOk
    else shared.cache.isKept key spec

section Resolved

variable {behaviour : Behaviour} {config : ControllerConfig} {shared : SharedState}
  {request : CertificateRequest}

theorem keeps_of_error {failure : ReconcileFailure}
    (known : shared.cluster.resolved request = .error failure) (key : AuthorityKey)
    (spec : IssuerSpec) :
    behaviour.keeps shared request key spec = shared.cache.isKept key spec := by
  rw [keeps, known]

theorem keeps_of_ok {authority : Authority}
    (known : shared.cluster.resolved request = .ok authority) (key : AuthorityKey)
    (spec : IssuerSpec) :
    behaviour.keeps shared request key spec =
      if key = authority.key then
        decide (spec = authority.spec) &&
          (behaviour.provided shared.cache authority.key authority.spec).isOk
      else shared.cache.isKept key spec := by
  rw [keeps, known]

theorem verdict_of_error {failure : ReconcileFailure}
    (known : shared.cluster.resolved request = .error failure) :
    behaviour.verdict config shared request = .postponed failure := by
  rw [verdict, known]

end Resolved

end Behaviour

namespace Reconcile

variable {behaviour : Behaviour} {config : ControllerConfig} {shared : SharedState}
  {request : CertificateRequest} {trace : List Observation}

/-- The authority of a request is found where the request refers to. -/
theorem Resolves.eq_resolved {result : Except ReconcileFailure Authority}
    (resolves : Resolves request trace result) (admitted : shared.AdmitsAll trace)
    (granted : ∀ observation ∈ trace, behaviour.Grants observation) :
    result = shared.cluster.resolved request ∧ shared.afterAll trace = shared := by
  unfold Cluster.resolved
  cases resolves with
  | unknown key => exact ⟨by rw [key], rfl⟩
  | @issuer namespaceName name key answer =>
    obtain ⟨there, rfl⟩ := granted _ List.mem_cons_self
    obtain rfl : there = shared.cluster.issuer? ⟨namespaceName, name⟩ := admitted.1
    rw [key]
    exact ⟨rfl, rfl⟩
  | @clusterIssuer name key answer =>
    obtain ⟨there, rfl⟩ := granted _ List.mem_cons_self
    obtain rfl : there = shared.cluster.clusterIssuer? name := admitted.1
    rw [key]
    exact ⟨rfl, rfl⟩

/-- Nothing keeps a request from the search for its authority. -/
theorem exists_resolves_resolved (behaviour : Behaviour) (shared : SharedState)
    (request : CertificateRequest) :
    ∃ trace, Resolves request trace (shared.cluster.resolved request) ∧ shared.AdmitsAll trace ∧
      ∀ observation ∈ trace, behaviour.Grants observation := by
  have finish {trace : List Observation} {result : Except ReconcileFailure Authority}
      (resolves : Resolves request trace result) (admitted : shared.AdmitsAll trace)
      (granted : ∀ observation ∈ trace, behaviour.Grants observation) :
      ∃ trace, Resolves request trace (shared.cluster.resolved request) ∧
        shared.AdmitsAll trace ∧ ∀ observation ∈ trace, behaviour.Grants observation := by
    obtain ⟨rfl, _⟩ := resolves.eq_resolved admitted granted
    exact ⟨trace, resolves, admitted, granted⟩
  cases known : AuthorityKey.ofRequest request with
  | error failure => exact finish (.unknown known) trivial (List.forall_mem_nil _)
  | ok key =>
    obtain ⟨_, same⟩ | ⟨_, same⟩ := ofRequest_cases known
    · rw [same] at known
      exact finish (.issuer known (.ok _)) ⟨rfl, trivial⟩ (List.forall_mem_singleton.mpr ⟨_, rfl⟩)
    · rw [same] at known
      exact finish (.clusterIssuer known (.ok _)) ⟨rfl, trivial⟩
        (List.forall_mem_singleton.mpr ⟨_, rfl⟩)

variable {key : AuthorityKey} {spec : IssuerSpec} {result : Except ProvisionerFailure Provisioner}

/-- A call for a provisioner comes to what the behaviour provides. -/
theorem Provides.eq_provided (provides : Provides key spec trace result)
    (admitted : shared.AdmitsAll trace)
    (granted : ∀ observation ∈ trace, behaviour.Grants observation) :
    result.map (fun _ => ()) = behaviour.provided shared.cache key spec := by
  have kept := provides.isKept_iff admitted
  unfold Behaviour.provided
  cases provides with
  | kept slot provisioner => simp [kept, Except.map]
  | broken slot number failure =>
    have decided : .error failure = behaviour.build key spec :=
      granted ⟨.finishBuild ⟨number, key, spec⟩, .error failure⟩ (by simp)
    simp [kept, Except.map, decided]
  | built slot number =>
    have decided : .ok () = behaviour.build key spec :=
      granted ⟨.finishBuild ⟨number, key, spec⟩, .ok ()⟩ (by simp)
    simp [kept, Except.map, decided]

/-- Where no build is under way, a call for a provisioner comes to an end. -/
theorem exists_provides_provided (behaviour : Behaviour) (free : shared.cache.IsFree key spec) :
    ∃ trace result, Provides key spec trace result ∧ shared.AdmitsAll trace ∧
      ∀ observation ∈ trace, behaviour.Grants observation := by
  have matched := shared.cache.matching?_enter key spec
  rcases free.enter.acquire? matched with ⟨provisioner, keeps, held⟩ | task
  · refine ⟨_, _, .kept (shared.cache.enter key spec).1 provisioner, ?_, ?_⟩
    · exact ⟨rfl, congrArg (Option.map Prod.fst) held, trivial⟩
    · simp [Behaviour.Grants]
  · obtain ⟨number, unused⟩ :=
      Infinite.exists_notMem_finset (shared.started.map Provisioner.number).toFinset
    have fresh : ∀ provisioner ∈ shared.started, provisioner.number ≠ number := by
      simpa using unused
    have acquired := congrArg (Option.map Prod.fst) task
    cases decided : behaviour.build key spec with
    | error failure =>
      refine ⟨_, _, .broken (shared.cache.enter key spec).1 number failure, ?_, ?_⟩
      · exact ⟨rfl, acquired, fresh, trivial, trivial, trivial⟩
      · simp [Behaviour.Grants, decided]
    | ok _ =>
      refine ⟨_, _, .built (shared.cache.enter key spec).1 number, ?_, ?_⟩
      · exact ⟨rfl, acquired, fresh, trivial, trivial, trivial⟩
      · simp [Behaviour.Grants, decided]

variable {provisioner : Provisioner} {update : StatusUpdate} {decided : Outcome}
  {equipped : List Observation}

/-- The way to a provisioner leads through the authority of the request. -/
theorem Equips.of_grants (equips : Equips request provisioner equipped)
    (admitted : shared.AdmitsAll equipped)
    (granted : ∀ observation ∈ equipped, behaviour.Grants observation)
    (sound : shared.cache.IsSound shared.finished) :
    ∃ authority, shared.cluster.resolved request = .ok authority ∧
      behaviour.provided shared.cache authority.key authority.spec = .ok () ∧
      provisioner.key = authority.key ∧ provisioner.spec = authority.spec ∧
      (∀ key spec, (shared.afterAll equipped).cache.isKept key spec =
        behaviour.keeps shared request key spec) ∧
      ∀ key spec, shared.cache.IsFree key spec →
        (shared.afterAll equipped).cache.IsFree key spec := by
  cases equips with
  | @intro authority found provided resolves provides =>
    obtain ⟨first, second⟩ := SharedState.admitsAll_append.mp admitted
    obtain ⟨grantedFirst, grantedSecond⟩ := List.forall_mem_append.mp granted
    obtain ⟨known, unchanged⟩ := resolves.eq_resolved first grantedFirst
    rw [unchanged] at second
    have comes := provides.eq_provided second grantedSecond
    obtain ⟨_, ⟨key, spec⟩, _⟩ := provides.of_isFree second (provides.isFree second) sound
    rw [SharedState.afterAll_append, unchanged]
    refine ⟨authority, known.symm, comes.symm, key, spec, fun wanted made => ?_,
      fun _ _ => provides.isFree_after second sound⟩
    rw [provides.isKept_after second sound, Behaviour.keeps_of_ok known.symm, ← comes]
    rfl

/-- A decision is the verdict of the behaviour. -/
structure IsVerdict (behaviour : Behaviour) (config : ControllerConfig) (shared : SharedState)
    (request : CertificateRequest) (trace : List Observation) (update : StatusUpdate)
    (decided : Outcome) : Prop where
  update : update = (behaviour.verdict config shared request).update
  outcome : decided = (behaviour.verdict config shared request).outcome
  annotated : Observation.rewriteAll trace request =
    (behaviour.verdict config shared request).annotated request
  kept : ∀ key spec, (shared.afterAll trace).cache.isKept key spec =
    behaviour.keeps shared request key spec
  free : ∀ key spec, shared.cache.IsFree key spec → (shared.afterAll trace).cache.IsFree key spec

/-- With a provisioner, the last answers of a decision decide about the verdict. -/
theorem Equips.isVerdict (equips : Equips request provisioner equipped)
    {asked : List Observation} (admitted : shared.AdmitsAll (equipped ++ asked))
    (granted : ∀ observation ∈ equipped, behaviour.Grants observation)
    (sound : shared.cache.IsSound shared.finished)
    (others : ∀ observation ∈ asked, observation.isPreparation = false)
    (judged : ∀ authority, provisioner.key = authority.key → provisioner.spec = authority.spec →
      update = (behaviour.judge config authority request).update ∧
        decided = (behaviour.judge config authority request).outcome ∧
        Observation.rewriteAll asked request =
          (behaviour.judge config authority request).annotated request) :
    IsVerdict behaviour config shared request (equipped ++ asked) update decided := by
  obtain ⟨first, _⟩ := SharedState.admitsAll_append.mp admitted
  obtain ⟨authority, known, provided, key, spec, kept, free⟩ :=
    equips.of_grants first granted sound
  have verdict : behaviour.verdict config shared request =
      behaviour.judge config authority request := by
    simp [Behaviour.verdict, known, provided]
  obtain ⟨sameUpdate, sameOutcome, sameRequest⟩ := judged authority key spec
  constructor
  case update => rw [verdict, sameUpdate]
  case outcome => rw [verdict, sameOutcome]
  case annotated =>
    rw [verdict, Observation.rewriteAll_append,
      Observation.rewriteAll_of_isPreparation equips.isPreparation, sameRequest]
  case kept =>
    intro wanted made
    rw [SharedState.afterAll_append, (SharedState.cache_afterAll others).1, kept]
  case free =>
    rw [SharedState.afterAll_append, (SharedState.cache_afterAll others).1]
    exact free

/-- With a provisioner, an order ends by the answer of the authority. -/
theorem Equips.isVerdict_of_sign (equips : Equips request provisioner equipped)
    {answer : Except ProvisionerFailure String} {rest : List Observation} {bytes : List UInt8}
    {recorded : Option String} (unordered : request.certificateArn? = none)
    (decoded : request.signingRequest = .ok bytes)
    (admitted : shared.AdmitsAll (equipped ++ ⟨.sign provisioner request, answer⟩ :: rest))
    (granted : ∀ observation ∈ equipped ++ ⟨.sign provisioner request, answer⟩ :: rest,
      behaviour.Grants observation)
    (sound : shared.cache.IsSound shared.finished)
    (others : ∀ observation ∈ rest, observation.isPreparation = false)
    (comes : Verdict.ofOrder config answer = ⟨recorded, update, decided⟩)
    (rewritten : Observation.rewriteAll rest request =
      (Verdict.ofOrder config answer).annotated request) :
    IsVerdict behaviour config shared request
      (equipped ++ ⟨.sign provisioner request, answer⟩ :: rest) update decided := by
  obtain ⟨first, last⟩ := List.forall_mem_append.mp granted
  have answered : answer = behaviour.sign provisioner.key provisioner.spec request :=
    last _ List.mem_cons_self
  refine equips.isVerdict admitted first sound (List.forall_mem_cons.mpr ⟨rfl, others⟩) ?_
  intro authority key spec
  rw [key, spec] at answered
  have judged : behaviour.judge config authority request = .ofOrder config answer := by
    simp [Behaviour.judge, unordered, decoded, answered]
  rw [judged]
  exact ⟨by rw [comes], by rw [comes], rewritten⟩

/-- With a provisioner, a collection ends by the answer of the authority. -/
theorem Equips.isVerdict_of_collect (equips : Equips request provisioner equipped) {arn : String}
    {answer : Except ProvisionerFailure IssuedCertificate}
    (ordered : request.certificateArn? = some arn)
    (admitted : shared.AdmitsAll (equipped ++ [⟨.collect provisioner request arn, answer⟩]))
    (granted : ∀ observation ∈ equipped ++ [⟨.collect provisioner request arn, answer⟩],
      behaviour.Grants observation)
    (sound : shared.cache.IsSound shared.finished)
    (comes : Verdict.ofCollection config answer = ⟨none, update, decided⟩) :
    IsVerdict behaviour config shared request
      (equipped ++ [⟨.collect provisioner request arn, answer⟩]) update decided := by
  obtain ⟨first, last⟩ := List.forall_mem_append.mp granted
  have answered : answer = behaviour.collect provisioner.key provisioner.spec request arn :=
    last _ List.mem_cons_self
  refine equips.isVerdict admitted first sound (List.forall_mem_singleton.mpr rfl) ?_
  intro authority key spec
  rw [key, spec] at answered
  have judged : behaviour.judge config authority request = .ofCollection config answer := by
    simp [Behaviour.judge, ordered, answered]
  rw [judged, comes]
  exact ⟨rfl, rfl, rfl⟩

theorem Decides.isVerdict (decides : Decides config request trace update decided)
    (admitted : shared.AdmitsAll trace)
    (granted : ∀ observation ∈ trace, behaviour.Grants observation)
    (sound : shared.cache.IsSound shared.finished) :
    IsVerdict behaviour config shared request trace update decided := by
  cases decides with
  | unresolved resolves =>
    obtain ⟨known, unchanged⟩ := resolves.eq_resolved admitted granted
    have verdict : behaviour.verdict config shared request = _ :=
      Behaviour.verdict_of_error known.symm
    refine ⟨by rw [verdict]; rfl, by rw [verdict]; rfl, ?_, fun key spec => ?_, ?_⟩
    · rw [verdict, Observation.rewriteAll_of_isPreparation resolves.isPreparation]
      rfl
    · rw [unchanged, Behaviour.keeps_of_error known.symm]
    · rw [unchanged]
      exact fun _ _ => id
  | @unprovided authority found provided failure resolves provides =>
    obtain ⟨first, second⟩ := SharedState.admitsAll_append.mp admitted
    obtain ⟨grantedFirst, grantedSecond⟩ := List.forall_mem_append.mp granted
    obtain ⟨known, unchanged⟩ := resolves.eq_resolved first grantedFirst
    rw [unchanged] at second
    have comes : .error failure = behaviour.provided shared.cache authority.key authority.spec :=
      provides.eq_provided second grantedSecond
    have verdict : behaviour.verdict config shared request =
        .rejected (.provisioner failure) := by
      simp [Behaviour.verdict, ← known, ← comes]
    refine ⟨by rw [verdict]; rfl, by rw [verdict]; rfl, ?_, fun key spec => ?_, ?_⟩
    · rw [verdict, Observation.rewriteAll_of_isPreparation (List.forall_mem_append.mpr
        ⟨resolves.isPreparation, provides.isPreparation⟩)]
      rfl
    · rw [SharedState.afterAll_append, unchanged, provides.isKept_after second sound,
        Behaviour.keeps_of_ok known.symm, ← comes]
      rfl
    · rw [SharedState.afterAll_append, unchanged]
      exact fun _ _ => provides.isFree_after second sound
  | malformed equips unordered decoded =>
    rw [← List.append_nil trace]
    rw [← List.append_nil trace] at admitted
    refine equips.isVerdict admitted granted sound (List.forall_mem_nil _) fun authority _ _ => ?_
    simp [Behaviour.judge, unordered, decoded, Verdict.rejected, Verdict.annotated]
  | refused equips unordered decoded failure =>
    exact equips.isVerdict_of_sign unordered decoded admitted granted sound (List.forall_mem_nil _)
      rfl rfl
  | ordered equips unordered decoded arn =>
    exact equips.isVerdict_of_sign unordered decoded admitted granted sound
      (List.forall_mem_singleton.mpr rfl) rfl rfl
  | issued equips ordered certificate ca =>
    refine equips.isVerdict_of_collect ordered admitted granted sound ?_
    simp [Verdict.ofCollection, Except.bind, checkIssued, certificate, ca]
  | waiting equips ordered =>
    exact equips.isVerdict_of_collect ordered admitted granted sound rfl
  | lost equips ordered failed final =>
    refine equips.isVerdict_of_collect ordered admitted granted sound ?_
    simp [Verdict.ofCollection, failed, Verdict.rejected]

end Reconcile

/-- The request of a name, when there is something to do about it. -/
def SharedState.active? (shared : SharedState) (name : ResourceName) :
    Option CertificateRequest :=
  (shared.cluster.request? name).filter fun request => !Reconcile.isSettled request

theorem SharedState.active?_eq_some {shared : SharedState} {name : ResourceName}
    {request : CertificateRequest} : shared.active? name = some request ↔
      shared.cluster.request? name = some request ∧ Reconcile.isSettled request = false := by
  simp [active?, Option.filter_eq_some_iff]

namespace Reconciliation

variable {behaviour : Behaviour} {config : ControllerConfig} {step : Reconciliation}

/-- A reconciliation takes place with the answers of a behaviour. -/
structure RunsAs (behaviour : Behaviour) (config : ControllerConfig) (step : Reconciliation) :
    Prop where
  takesPlace : step.TakesPlace config
  granted : ∀ observation ∈ step.trace, behaviour.Grants observation

/-- A reconciliation has nothing to do, or it brings its request the verdict of the behaviour. -/
inductive Follows (behaviour : Behaviour) (config : ControllerConfig) (step : Reconciliation) :
    Prop where
  | idle (nothing : step.before.active? step.place = none) (same : step.after = step.before)
      (ended : step.outcome = .ok .none)
  | active {request : CertificateRequest}
      (present : step.before.active? step.place = some request)
      (ended : step.outcome = (behaviour.verdict config step.before request).outcome)
      (written : step.after.cluster.request? step.place =
        some ((behaviour.verdict config step.before request).apply behaviour.stamp request))
      (kept : ∀ key spec, step.after.cache.isKept key spec =
        behaviour.keeps step.before request key spec)
      (free : ∀ key spec, step.before.cache.IsFree key spec →
        step.after.cache.IsFree key spec)

theorem RunsAs.follows (runs : step.RunsAs behaviour config) (named : step.before.cluster.IsNamed)
    (sound : step.before.cache.IsSound step.before.finished) : step.Follows behaviour config := by
  have admitted := runs.takesPlace.admitted
  have granted := runs.granted
  cases runs.takesPlace.ending with
  | unread reason observed =>
    rw [observed] at granted
    obtain ⟨_, same⟩ := granted _ List.mem_cons_self
    cases same
  | absent missing observed ended =>
    refine .idle ?_ (after_of_looks observed) ended
    rw [SharedState.active?, missing, Option.filter_none]
  | idle stored settled observed ended =>
    refine .idle ?_ (after_of_looks observed) ended
    simp [SharedState.active?, stored, settled]
  | @unrecorded request _ _ stored unsettled equips unordered _ decoded arn reason observed =>
    rw [observed] at granted
    have recorded := granted ⟨.annotate request arn, .error reason⟩ (by simp)
    cases recorded
  | @unwritten request _ update _ stored unsettled decides stamp reason observed =>
    rw [observed] at granted
    have written := granted
      ⟨.writeStatus request (project request.status update stamp), .error reason⟩ (by simp)
    cases written
  | @written request before update stored unsettled stamp decides observed =>
    have left := request?_after_of_written named stored decides observed
    rw [observed] at admitted granted
    obtain ⟨admittedBefore, _⟩ := SharedState.admitsAll_append.mp admitted.2
    obtain ⟨_, grantedRest⟩ := List.forall_mem_cons.mp granted
    obtain ⟨grantedBefore, grantedAfter⟩ := List.forall_mem_append.mp grantedRest
    obtain rfl : stamp = behaviour.stamp := grantedAfter _ List.mem_cons_self
    have verdict := decides.isVerdict admittedBefore grantedBefore sound
    have cache : step.after.cache = (step.before.afterAll before).cache := by
      rw [after, observed, SharedState.afterAll_cons, SharedState.afterAll_append,
        (SharedState.cache_afterAll (by simp [Observation.isPreparation])).1]
      rfl
    refine .active (SharedState.active?_eq_some.mpr ⟨stored, unsettled⟩) verdict.outcome ?_ ?_ ?_
    · rw [left, verdict.annotated, verdict.update]
      rfl
    · rw [cache]
      exact verdict.kept
    · rw [cache]
      exact verdict.free

end Reconciliation

namespace Reconcile

variable {shared : SharedState} {request : CertificateRequest} {provisioner : Provisioner}
  {equipped : List Observation}

/-- With a provisioner, nothing keeps a request from a decision. -/
theorem Equips.exists_decides (equips : Equips request provisioner equipped)
    (behaviour : Behaviour) (config : ControllerConfig)
    (stored : (shared.cluster.request? request.metadata.resourceName).isSome = true) :
    ∃ asked update decided, Decides config request (equipped ++ asked) update decided ∧
      (shared.afterAll equipped).AdmitsAll asked ∧
      ∀ observation ∈ asked, behaviour.Grants observation := by
  cases found : request.certificateArn? with
  | none =>
    cases decoded : request.signingRequest with
    | error fault =>
      have decides : Decides config request equipped _ _ := .malformed equips found decoded
      rw [← List.append_nil equipped] at decides
      exact ⟨[], _, _, decides, trivial, List.forall_mem_nil _⟩
    | ok bytes =>
      cases answered : behaviour.sign provisioner.key provisioner.spec request with
      | error failure =>
        exact ⟨_, _, _, .refused equips found decoded failure, ⟨trivial, trivial⟩,
          by simp [Behaviour.Grants, answered]⟩
      | ok arn =>
        refine ⟨_, _, _, .ordered equips found decoded arn, ⟨trivial, ?_, trivial⟩,
          by simp [Behaviour.Grants, answered]⟩
        change ((shared.afterAll equipped).cluster.request? _).isSome = true
        rw [SharedState.cluster_afterAll equips.isPreparation]
        exact stored
  | some arn =>
    cases answered : behaviour.collect provisioner.key provisioner.spec request arn with
    | error failure =>
      by_cases early : failure = .inProgress
      · subst early
        exact ⟨_, _, _, .waiting equips found, ⟨trivial, trivial⟩,
          by simp [Behaviour.Grants, answered]⟩
      · have failed : Except.bind (.error failure) checkIssued = .error failure := rfl
        exact ⟨_, _, _, .lost equips found failed early, ⟨trivial, trivial⟩,
          by simp [Behaviour.Grants, answered]⟩
    | ok issued =>
      obtain ⟨checked, certificate, ca⟩ | ⟨failure, checked, final⟩ := checkIssued_cases issued
      · exact ⟨_, _, _, .issued equips found certificate ca, ⟨trivial, trivial⟩,
          by simp [Behaviour.Grants, answered]⟩
      · have failed : Except.bind (.ok issued) checkIssued = .error failure := checked
        exact ⟨_, _, _, .lost equips found failed final, ⟨trivial, trivial⟩,
          by simp [Behaviour.Grants, answered]⟩

/-- Where no build is under way, nothing keeps a request from a decision. -/
theorem exists_decides (behaviour : Behaviour) (config : ControllerConfig)
    (stored : (shared.cluster.request? request.metadata.resourceName).isSome = true)
    (free : ∀ authority, shared.cluster.resolved request = .ok authority →
      shared.cache.IsFree authority.key authority.spec) :
    ∃ trace update decided, Decides config request trace update decided ∧
      shared.AdmitsAll trace ∧ ∀ observation ∈ trace, behaviour.Grants observation := by
  obtain ⟨found, resolves, first, granted⟩ := exists_resolves_resolved behaviour shared request
  obtain ⟨_, unchanged⟩ := resolves.eq_resolved first granted
  cases known : shared.cluster.resolved request with
  | error failure =>
    rw [known] at resolves
    exact ⟨found, _, _, .unresolved resolves, first, granted⟩
  | ok authority =>
    rw [known] at resolves
    obtain ⟨provided, result, provides, second, grantedSecond⟩ :=
      exists_provides_provided behaviour (free authority known)
    have admitted : shared.AdmitsAll (found ++ provided) := by
      rw [SharedState.admitsAll_append, unchanged]
      exact ⟨first, second⟩
    have grantedBoth := List.forall_mem_append.mpr ⟨granted, grantedSecond⟩
    cases result with
    | error failure =>
      exact ⟨_, _, _, .unprovided resolves provides, admitted, grantedBoth⟩
    | ok provisioner =>
      obtain ⟨asked, update, decided, decides, last, grantedLast⟩ :=
        (Equips.intro resolves provides).exists_decides behaviour config stored
      exact ⟨_, update, decided, decides, SharedState.admitsAll_append.mpr ⟨admitted, last⟩,
        List.forall_mem_append.mpr ⟨grantedBoth, grantedLast⟩⟩

end Reconcile

namespace Reconciliation

/-- Where no build is under way, nothing keeps a reconciliation from its end. -/
theorem exists_runsAs {before : SharedState} {place : ResourceName} (behaviour : Behaviour)
    (config : ControllerConfig) (named : before.cluster.IsNamed)
    (free : ∀ request authority, before.active? place = some request →
      before.cluster.resolved request = .ok authority →
        before.cache.IsFree authority.key authority.spec) :
    ∃ step : Reconciliation, step.before = before ∧ step.place = place ∧
      step.RunsAs behaviour config := by
  have looks {found : Option CertificateRequest} {outcome : Reconcile.Outcome}
      (stored : before.cluster.request? place = found)
      (transcript : Reconcile.Transcript config place.namespaceName place.name
        [⟨.readRequest place.namespaceName place.name, .ok found⟩] outcome) :
      ∃ step : Reconciliation, step.before = before ∧ step.place = place ∧
        step.RunsAs behaviour config :=
    ⟨⟨place, before, _, outcome⟩, rfl, rfl,
      ⟨⟨Reconcile.returns_reconcile.mpr transcript, stored.symm, trivial⟩,
        List.forall_mem_singleton.mpr ⟨found, rfl⟩⟩⟩
  cases stored : before.cluster.request? place with
  | none => exact looks stored .absent
  | some request =>
    cases settled : Reconcile.isSettled request with
    | true => exact looks stored (.idle settled)
    | false =>
      have placed := named _ _ stored
      have there : (before.cluster.request? request.metadata.resourceName).isSome = true := by
        rw [placed, stored]
        rfl
      obtain ⟨trace, update, decided, decides, admitted, granted⟩ :=
        Reconcile.exists_decides behaviour config there fun authority =>
          free request authority (SharedState.active?_eq_some.mpr ⟨stored, settled⟩)
      have proceeds := Reconcile.Proceeds.decided decides (.written behaviour.stamp)
      have transcript : Reconcile.Transcript config place.namespaceName place.name _ decided :=
        .active settled proceeds
      have written : ((before.afterAll trace).cluster.request?
          request.metadata.resourceName).isSome = true := by
        rw [SharedState.request?_afterAll_of_target? fun observation member =>
          (decides.suits observation member).target?, Option.isSome_map, there]
      refine ⟨⟨place, before, _, decided⟩, rfl, rfl,
        ⟨Reconcile.returns_reconcile.mpr transcript, stored.symm, ?_⟩, ?_⟩
      · exact SharedState.admitsAll_append.mpr ⟨admitted, trivial, written, trivial, trivial⟩
      · refine List.forall_mem_cons.mpr ⟨⟨_, rfl⟩, List.forall_mem_append.mpr ⟨granted, ?_⟩⟩
        simp [Behaviour.Grants]

end Reconciliation

/-- A reconciliation by itself may join any crowd. -/
theorem Crowd.Reachable.exists_after {config : ControllerConfig} {step : Reconciliation}
    {callers : List Caller} (reachable : Crowd.Reachable config ⟨step.before, callers⟩)
    (takesPlace : step.TakesPlace config) :
    ∃ callers, Crowd.Reachable config ⟨step.after, callers⟩ :=
  ⟨_, (reachable.step (.join step.before callers step.place)).performAll takesPlace.returns
    takesPlace.admitted⟩

end Issuance
