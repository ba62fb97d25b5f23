import Mathlib.Data.Finset.Insert
import Mathlib.Data.Fintype.EquivFin
import Issuance.Proofs.Provisioner.Keeping
import Issuance.Proofs.Reconcile.Writes

namespace Issuance

namespace Cluster

/-- The authority under a key. -/
def authority? (cluster : Cluster) (key : AuthorityKey) : Option Authority :=
  match key.kind, key.namespaceName with
  | .issuer, some namespaceName => (cluster.issuer? ⟨namespaceName, key.name⟩).map .issuer
  | _, _ => (cluster.clusterIssuer? key.name).map .clusterIssuer

end Cluster

/-- A request at a place refers to a ready authority, which names its order and issues a certificate
after a number of polls. -/
structure Commission where
  place : ResourceName
  key : AuthorityKey
  authority : Authority
  arn : String
  polls : Nat
  issued : IssuedCertificate
  ready : authority.isReady = true
  named : arn ≠ ""
  certificate : issued.certificate ≠ []
  ca : issued.ca ≠ []

namespace Commission

variable (commission : Commission)

/-- What the authority answers after it was polled some times. -/
def collection (polled : Nat) : Except ProvisionerFailure IssuedCertificate :=
  if polled < commission.polls then .error .inProgress else .ok commission.issued

/-- Stores and builds succeed, and the authority keeps to the commission. -/
def Grants (polled : Nat) : Observation → Prop
  | ⟨.readRequest _ _, answer⟩ => ∃ found, answer = .ok found
  | ⟨.readIssuer _ _, answer⟩ => ∃ found, answer = .ok found
  | ⟨.readClusterIssuer _, answer⟩ => ∃ found, answer = .ok found
  | ⟨.finishBuild _, answer⟩ => answer = .ok ()
  | ⟨.sign _ _, answer⟩ => answer = .ok commission.arn
  | ⟨.collect _ _ _, answer⟩ => answer = commission.collection polled
  | ⟨.annotate _ _, answer⟩ => answer = .ok ()
  | ⟨.writeStatus _ _, answer⟩ => answer = .ok ()
  | _ => True

/-- The request is meant for this controller, it can be signed, and it refers to the authority. -/
structure Serves (request : CertificateRequest) : Prop where
  ours : request.isOurs = true
  decoded : ∃ bytes, request.signingRequest = .ok bytes
  known : AuthorityKey.ofRequest request = .ok commission.key

/-- The request and its authority are stored. -/
structure Stands (shared : SharedState) (request : CertificateRequest) : Prop where
  named : shared.cluster.IsNamed
  stored : shared.cluster.request? commission.place = some request
  serves : commission.Serves request
  found : shared.cluster.authority? commission.key = some commission.authority

end Commission

namespace Observation

def builds : Observation → Bool
  | ⟨.startBuild _ _, _⟩ => true
  | _ => false

end Observation

variable {commission : Commission} {shared : SharedState} {request : CertificateRequest}
  {trace : List Observation} {polled : Nat}

theorem Observation.builds_eq_false {observation : Observation}
    (other : observation.isPreparation = false) : observation.builds = false := by
  obtain ⟨effect, answer⟩ := observation
  cases effect <;> first | rfl | cases other

namespace SharedState

/-- No observation changes an authority. -/
theorem authority?_afterAll (trace : List Observation) (key : AuthorityKey) :
    (shared.afterAll trace).cluster.authority? key = shared.cluster.authority? key := by
  induction trace generalizing shared with
  | nil => rfl
  | cons observation trace ih =>
      rw [afterAll_cons, ih]
      obtain ⟨effect, answer⟩ := observation
      cases effect with
      | finishBuild provisioner => cases answer <;> rfl
      | annotate request arn => cases answer <;> rfl
      | writeStatus request status => cases answer <;> rfl
      | _ => rfl

end SharedState

/-- A request goes on to be served as long as its specification and its name stay. -/
theorem Commission.Serves.congr (serves : commission.Serves request) {other : CertificateRequest}
    (spec : other.spec = request.spec)
    (name : other.metadata.resourceName = request.metadata.resourceName) :
    commission.Serves other := by
  have place : other.metadata.namespaceName.getD "" = request.metadata.namespaceName.getD "" :=
    congrArg ResourceName.namespaceName name
  constructor
  · simpa only [CertificateRequest.isOurs, spec] using serves.ours
  · simpa only [CertificateRequest.signingRequest, spec] using serves.decoded
  · simpa only [AuthorityKey.ofRequest, spec, place] using serves.known

namespace Reconcile

/-- The authority of a request is found where the request refers to. -/
theorem Resolves.of_grants {result : Except ReconcileFailure Authority}
    (resolves : Resolves request trace result) (stands : commission.Stands shared request)
    (admitted : shared.AdmitsAll trace)
    (granted : ∀ observation ∈ trace, commission.Grants polled observation) :
    result = .ok commission.authority ∧ shared.afterAll trace = shared := by
  have known := stands.serves.known
  have found := stands.found
  cases resolves with
  | unknown key => cases known.symm.trans key
  | @issuer namespaceName name key answer =>
    obtain ⟨there, rfl⟩ := granted _ List.mem_cons_self
    obtain rfl : there = shared.cluster.issuer? ⟨namespaceName, name⟩ := admitted.1
    rw [← Except.ok.inj (key.symm.trans known)] at found
    refine ⟨?_, rfl⟩
    change (shared.cluster.issuer? ⟨namespaceName, name⟩).map Authority.issuer = _ at found
    simp [Except.map, found, checkAuthority, commission.ready]
  | @clusterIssuer name key answer =>
    obtain ⟨there, rfl⟩ := granted _ List.mem_cons_self
    obtain rfl : there = shared.cluster.clusterIssuer? name := admitted.1
    rw [← Except.ok.inj (key.symm.trans known)] at found
    refine ⟨?_, rfl⟩
    change (shared.cluster.clusterIssuer? name).map Authority.clusterIssuer = _ at found
    simp [Except.map, found, checkAuthority, commission.ready]

theorem Resolves.countP_builds {result : Except ReconcileFailure Authority}
    (resolves : Resolves request trace result) : trace.countP (·.builds) = 0 := by
  cases resolves <;> rfl

/-- Nothing keeps a request from its authority. -/
theorem exists_resolves (stands : commission.Stands shared request) (polled : Nat) :
    ∃ trace, Resolves request trace (.ok commission.authority) ∧ shared.AdmitsAll trace ∧
      (∀ observation ∈ trace, commission.Grants polled observation) ∧
      shared.afterAll trace = shared := by
  have known := stands.serves.known
  have finish {trace : List Observation} {result : Except ReconcileFailure Authority}
      (resolves : Resolves request trace result) (admitted : shared.AdmitsAll trace)
      (granted : ∀ observation ∈ trace, commission.Grants polled observation) :
      ∃ trace, Resolves request trace (.ok commission.authority) ∧ shared.AdmitsAll trace ∧
        (∀ observation ∈ trace, commission.Grants polled observation) ∧
        shared.afterAll trace = shared := by
    obtain ⟨rfl, same⟩ := resolves.of_grants stands admitted granted
    exact ⟨trace, resolves, admitted, granted, same⟩
  obtain ⟨_, same⟩ | ⟨_, same⟩ := ofRequest_cases known
  · rw [same] at known
    exact finish (.issuer known (.ok _)) ⟨rfl, trivial⟩
      (List.forall_mem_singleton.mpr ⟨_, rfl⟩)
  · rw [same] at known
    exact finish (.clusterIssuer known (.ok _)) ⟨rfl, trivial⟩
      (List.forall_mem_singleton.mpr ⟨_, rfl⟩)

variable {key : AuthorityKey} {spec : IssuerSpec} {provisioner : Provisioner}
  {result : Except ProvisionerFailure Provisioner}

/-- A build that succeeds provides. -/
theorem Provides.not_error {failure : ProvisionerFailure}
    (provides : Provides key spec trace (.error failure))
    (granted : ∀ observation ∈ trace, commission.Grants polled observation) : False := by
  cases provides with
  | broken slot number =>
    have built := granted ⟨.finishBuild ⟨number, key, spec⟩, .error failure⟩ (by simp)
    cases built

/-- A provisioner that is kept is used again. -/
theorem Provides.of_keeps (provides : Provides key spec trace result)
    (admitted : shared.AdmitsAll trace) (keeps : shared.cache.Keeps key spec provisioner) :
    result = .ok provisioner ∧ (shared.afterAll trace).cache = shared.cache ∧
      trace.countP (·.builds) = 0 := by
  obtain ⟨same, held⟩ := keeps.enter
  have acquires {slot : Nat} {answer : Option Provisioner}
      (entered : slot = (shared.cache.enter key spec).1)
      (acquired : ((shared.cache.enter key spec).2.acquire? slot).map Prod.fst = some answer) :
      answer = some provisioner := by
    rw [entered, same, held] at acquired
    exact (Option.some.inj acquired).symm
  cases provides with
  | kept slot other =>
    obtain ⟨entered, acquired, _⟩ := admitted
    obtain rfl := Option.some.inj (acquires entered acquired)
    obtain rfl : slot = (shared.cache.enter key spec).1 := entered
    refine ⟨rfl, ?_, rfl⟩
    simp [SharedState.after, same, held]
  | broken slot number failure =>
    obtain ⟨entered, acquired, _⟩ := admitted
    cases acquires entered acquired
  | built slot number =>
    obtain ⟨entered, acquired, _⟩ := admitted
    cases acquires entered acquired

/-- Where no build is under way, a fitting provisioner is kept from then on, and at most one is
built. -/
theorem Provides.of_isFree (provides : Provides key spec trace (.ok provisioner))
    (admitted : shared.AdmitsAll trace) (free : shared.cache.IsFree key spec)
    (sound : shared.cache.IsSound shared.finished) :
    (shared.afterAll trace).cache.Keeps key spec provisioner ∧
      (provisioner.key = key ∧ provisioner.spec = spec) ∧ trace.countP (·.builds) ≤ 1 := by
  have matched := shared.cache.matching?_enter key spec
  cases provides with
  | kept slot =>
    obtain ⟨rfl, acquired, _⟩ : slot = (shared.cache.enter key spec).1 ∧
      ((shared.cache.enter key spec).2.acquire? slot).map Prod.fst = some (some provisioner) ∧
        True := admitted
    rcases free.enter.acquire? matched with ⟨other, keeps, held⟩ | task
    · rw [held] at acquired
      obtain rfl := Option.some.inj (Option.some.inj acquired)
      refine ⟨?_, keeps.fits (sound.enter key spec), Nat.zero_le 1⟩
      simpa [SharedState.after, held] using keeps
    · rw [task] at acquired
      cases acquired
  | built slot number =>
    obtain ⟨rfl, acquired, _⟩ : slot = (shared.cache.enter key spec).1 ∧
      ((shared.cache.enter key spec).2.acquire? slot).map Prod.fst = some none ∧ _ := admitted
    refine ⟨?_, ⟨rfl, rfl⟩, Nat.le_refl 1⟩
    rcases free.enter.acquire? matched with ⟨other, keeps, held⟩ | task
    · rw [held] at acquired
      cases acquired
    · have taken : ((shared.cache.enter key spec).2.setState (shared.cache.enter key spec).1
          .building).matching? key spec = some (shared.cache.enter key spec).1 := by
        rw [ProvisionerCache.matching?_setState, matched]
      simpa [SharedState.after, task] using
        ProvisionerCache.keeps_settle taken ⟨number, key, spec⟩

/-- Where no build is under way, nothing keeps a request from a provisioner. -/
theorem exists_provides (commission : Commission) (polled : Nat)
    (free : shared.cache.IsFree key spec) :
    ∃ trace provisioner, Provides key spec trace (.ok provisioner) ∧ shared.AdmitsAll trace ∧
      ∀ observation ∈ trace, commission.Grants polled observation := by
  have matched := shared.cache.matching?_enter key spec
  rcases free.enter.acquire? matched with ⟨provisioner, keeps, held⟩ | task
  · refine ⟨_, provisioner, .kept (shared.cache.enter key spec).1 provisioner, ?_, ?_⟩
    · exact ⟨rfl, congrArg (Option.map Prod.fst) held, trivial⟩
    · simp [Commission.Grants]
  · obtain ⟨number, unused⟩ :=
      Infinite.exists_notMem_finset (shared.started.map Provisioner.number).toFinset
    have fresh : ∀ provisioner ∈ shared.started, provisioner.number ≠ number := by
      simpa using unused
    refine ⟨_, _, .built (shared.cache.enter key spec).1 number, ?_, ?_⟩
    · exact ⟨rfl, congrArg (Option.map Prod.fst) task, fresh, trivial, trivial, trivial⟩
    · simp [Commission.Grants]

/-- The way to a provisioner leads through the authority of the commission. -/
theorem Equips.provides {equipped : List Observation} (equips : Equips request provisioner equipped)
    (stands : commission.Stands shared request) (admitted : shared.AdmitsAll equipped)
    (granted : ∀ observation ∈ equipped, commission.Grants polled observation) :
    ∃ provided,
      Provides commission.authority.key commission.authority.spec provided (.ok provisioner) ∧
        shared.AdmitsAll provided ∧ shared.afterAll equipped = shared.afterAll provided ∧
        equipped.countP (·.builds) = provided.countP (·.builds) := by
  cases equips with
  | @intro authority found provided resolves provides =>
    obtain ⟨first, second⟩ := SharedState.admitsAll_append.mp admitted
    obtain ⟨same, unchanged⟩ := resolves.of_grants stands first fun observation member =>
      granted observation (List.mem_append_left _ member)
    obtain rfl := Except.ok.inj same
    rw [unchanged] at second
    refine ⟨provided, provides, second, ?_, ?_⟩
    · rw [SharedState.afterAll_append, unchanged]
    · rw [List.countP_append, resolves.countP_builds, Nat.zero_add]

theorem exists_equips (stands : commission.Stands shared request)
    (free : shared.cache.IsFree commission.authority.key commission.authority.spec) (polled : Nat) :
    ∃ provisioner equipped, Equips request provisioner equipped ∧ shared.AdmitsAll equipped ∧
      ∀ observation ∈ equipped, commission.Grants polled observation := by
  obtain ⟨found, resolves, first, grantedFirst, unchanged⟩ := exists_resolves stands polled
  obtain ⟨provided, provisioner, provides, second, grantedSecond⟩ :=
    exists_provides commission polled free
  refine ⟨provisioner, found ++ provided, .intro resolves provides, ?_,
    List.forall_mem_append.mpr ⟨grantedFirst, grantedSecond⟩⟩
  rw [SharedState.admitsAll_append, unchanged]
  exact ⟨first, second⟩

/-- What a request that is served does next: it orders its certificate, it waits for it, or it gets
it. -/
inductive Advances (commission : Commission) (config : ControllerConfig) (polled : Nat)
    (request : CertificateRequest) (provisioner : Provisioner) (equipped : List Observation) :
    List Observation → StatusUpdate → Outcome → Prop where
  | orders (unordered : request.certificateArn? = none) :
      Advances commission config polled request provisioner equipped
        (equipped ++ [⟨.sign provisioner request, .ok commission.arn⟩,
          ⟨.annotate request commission.arn, .ok ()⟩])
        (.pending orderedMessage) (.ok (.delayed config.issuancePollInterval))
  | waits {arn : String} (ordered : request.certificateArn? = some arn)
      (early : polled < commission.polls) :
      Advances commission config polled request provisioner equipped
        (equipped ++ [⟨.collect provisioner request arn, .error .inProgress⟩])
        (.pending waitingMessage) (.ok (.delayed config.issuancePollInterval))
  | collects {arn : String} (ordered : request.certificateArn? = some arn)
      (late : commission.polls ≤ polled) :
      Advances commission config polled request provisioner equipped
        (equipped ++ [⟨.collect provisioner request arn, .ok commission.issued⟩])
        (.issued commission.issued) (.ok .none)

variable {config : ControllerConfig} {update : StatusUpdate} {decided : Outcome}
  {equipped : List Observation}

/-- Decisions about a request that is served are those of the commission. -/
theorem Decides.advances (decides : Decides config request trace update decided)
    (stands : commission.Stands shared request) (admitted : shared.AdmitsAll trace)
    (granted : ∀ observation ∈ trace, commission.Grants polled observation) :
    ∃ provisioner equipped, Equips request provisioner equipped ∧
      Advances commission config polled request provisioner equipped trace update decided := by
  -- what the authority answers comes last
  have answered {earlier : List Observation} {observation : Observation}
      (last : trace = earlier ++ [observation]) : commission.Grants polled observation :=
    granted observation (last ▸ List.mem_append_right _ (List.mem_singleton_self _))
  cases decides with
  | unresolved resolves =>
    cases (resolves.of_grants stands admitted granted).1
  | unprovided resolves provides =>
    exact (provides.not_error fun observation member =>
      granted observation (List.mem_append_right _ member)).elim
  | malformed equips unordered decoded =>
    obtain ⟨bytes, fine⟩ := stands.serves.decoded
    cases fine.symm.trans decoded
  | refused equips unordered decoded failure =>
    cases answered rfl
  | ordered equips unordered decoded arn =>
    have named := granted _ (List.mem_append_right _ List.mem_cons_self)
    obtain rfl := Except.ok.inj named
    exact ⟨_, _, equips, .orders unordered⟩
  | @issued _ _ _ issued equips ordered certificate ca =>
    have collected : .ok issued = commission.collection polled := answered rfl
    unfold Commission.collection at collected
    split at collected
    · cases collected
    · next late =>
      obtain rfl := Except.ok.inj collected
      exact ⟨_, _, equips, .collects ordered (Nat.le_of_not_lt late)⟩
  | waiting equips ordered =>
    have collected : .error .inProgress = commission.collection polled := answered rfl
    unfold Commission.collection at collected
    split at collected
    · next early => exact ⟨_, _, equips, .waits ordered early⟩
    · cases collected
  | @lost _ _ _ answer failure equips ordered failed final =>
    obtain rfl : answer = commission.collection polled := answered rfl
    unfold Commission.collection at failed
    split at failed
    · exact absurd (Except.error.inj failed).symm final
    · simp [Except.bind, checkIssued, commission.certificate, commission.ca] at failed

/-- Every advance is a decision. -/
theorem Advances.decides
    (advances : Advances commission config polled request provisioner equipped trace update decided)
    (serves : commission.Serves request) (equips : Equips request provisioner equipped) :
    Decides config request trace update decided := by
  obtain ⟨bytes, decoded⟩ := serves.decoded
  cases advances with
  | orders unordered => exact .ordered equips unordered decoded commission.arn
  | waits ordered early => exact .waiting equips ordered
  | collects ordered late => exact .issued equips ordered commission.certificate commission.ca

/-- A request that is served can always advance. -/
theorem exists_advances (stands : commission.Stands shared request)
    (free : shared.cache.IsFree commission.authority.key commission.authority.spec)
    (config : ControllerConfig) (polled : Nat) :
    ∃ provisioner equipped trace update decided, Equips request provisioner equipped ∧
      Advances commission config polled request provisioner equipped trace update decided ∧
      shared.AdmitsAll trace ∧ ∀ observation ∈ trace, commission.Grants polled observation := by
  obtain ⟨provisioner, equipped, equips, admitted, granted⟩ := exists_equips stands free polled
  have same : (shared.afterAll equipped).cluster = shared.cluster :=
    SharedState.cluster_afterAll equips.isPreparation
  cases found : request.certificateArn? with
  | none =>
    have placed := stands.named _ _ stands.stored
    have there : (shared.cluster.request? request.metadata.resourceName).isSome = true := by
      rw [placed, stands.stored]
      rfl
    refine ⟨provisioner, equipped, _, _, _, equips, .orders found, ?_, ?_⟩
    · refine SharedState.admitsAll_append.mpr ⟨admitted, trivial, ?_, trivial⟩
      simpa [SharedState.Admits, SharedState.after, same] using there
    · exact List.forall_mem_append.mpr ⟨granted, by simp [Commission.Grants]⟩
  | some arn =>
    rcases Nat.lt_or_ge polled commission.polls with early | late
    · refine ⟨provisioner, equipped, _, _, _, equips, .waits found early, ?_, ?_⟩
      · exact SharedState.admitsAll_append.mpr ⟨admitted, trivial, trivial⟩
      · refine List.forall_mem_append.mpr ⟨granted, ?_⟩
        simp [Commission.Grants, Commission.collection, early]
    · refine ⟨provisioner, equipped, _, _, _, equips, .collects found late, ?_, ?_⟩
      · exact SharedState.admitsAll_append.mpr ⟨admitted, trivial, trivial⟩
      · refine List.forall_mem_append.mpr ⟨granted, ?_⟩
        simp [Commission.Grants, Commission.collection, Nat.not_lt.mpr late]

end Reconcile

end Issuance
