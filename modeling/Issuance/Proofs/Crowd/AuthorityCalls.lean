import Issuance.Proofs.Crowd.Soundness
import Issuance.Proofs.Run.History

namespace Issuance

namespace IssuerKind

/-- The kinds of references to issuers beside a request. -/
theorem ofReference?_issuer {kind : Option String} (known : ofReference? kind = some issuer) :
    kind ∈ [none, some "", some "AWSPCAIssuer", some "Issuer"] := by
  cases kind with
  | none => exact List.mem_cons_self
  | some name =>
    simp only [ofReference?, Option.getD_some] at known
    split at known <;> simp_all

/-- The kinds of references to issuers of the cluster. -/
theorem ofReference?_clusterIssuer {kind : Option String}
    (known : ofReference? kind = some clusterIssuer) :
    kind ∈ [some "AWSPCAClusterIssuer", some "ClusterIssuer"] := by
  cases kind with
  | none => simp [ofReference?] at known
  | some name =>
    simp only [ofReference?, Option.getD_some] at known
    split at known <;> simp_all

end IssuerKind

namespace Reconcile

/-- The authority of a request was read in the place that the request refers to, and it is ready. -/
inductive Finds (request : CertificateRequest) (observed : List Observation) :
    Authority → Prop where
  | issuer {issuer : Issuer}
      (kind : request.spec.issuerRef.kind ∈
        [none, some "", some "AWSPCAIssuer", some "Issuer"])
      (read : ⟨.readIssuer (request.metadata.namespaceName.getD "") request.spec.issuerRef.name,
        .ok (some issuer)⟩ ∈ observed)
      (ready : (Authority.issuer issuer).isReady = true) :
      Finds request observed (.issuer issuer)
  | clusterIssuer {issuer : ClusterIssuer}
      (kind : request.spec.issuerRef.kind ∈ [some "AWSPCAClusterIssuer", some "ClusterIssuer"])
      (read : ⟨.readClusterIssuer request.spec.issuerRef.name, .ok (some issuer)⟩ ∈ observed)
      (ready : (Authority.clusterIssuer issuer).isReady = true) :
      Finds request observed (.clusterIssuer issuer)

/-- A request may use a provisioner after what was observed: the request was read, it is meant for
this controller and is not finished, and the provisioner was built for the key and the
specification of the authority that was found. -/
structure MayUse (shared : SharedState) (place : ResourceName) (observed : List Observation)
    (request : CertificateRequest) (provisioner : Provisioner) : Prop where
  read : ⟨.readRequest place.namespaceName place.name, .ok (some request)⟩ ∈ observed
  ours : request.spec.issuerRef.group ∈ [none, some "", some CertificateRequest.issuerGroup]
  unissued : request.hasReady .true Condition.issuedReason = false
  unfailed : request.hasReady .false Condition.failedReason = false
  found : ∃ authority, Finds request observed authority ∧ provisioner.key = authority.key ∧
    provisioner.spec = authority.spec
  built : provisioner ∈ shared.started ∧ provisioner ∈ shared.finished

variable {request : CertificateRequest} {trace : List Observation}

/-- Only an authority that is there and ready passes. -/
theorem checkAuthority_eq_ok {key : AuthorityKey} {answer : StoreAnswer (Option Authority)}
    {authority : Authority} (checked : checkAuthority key answer = .ok authority) :
    answer = .ok (some authority) ∧ authority.isReady = true := by
  unfold checkAuthority at checked
  split at checked
  · cases checked
  · cases checked
  · split at checked
    · next ready =>
      obtain rfl := Except.ok.inj checked
      exact ⟨rfl, ready⟩
    · cases checked

theorem Resolves.finds {authority : Authority} (resolves : Resolves request trace (.ok authority)) :
    Finds request trace authority := by
  generalize resolved : Except.ok authority = result at resolves
  cases resolves with
  | unknown key => cases resolved
  | issuer key answer =>
    obtain ⟨kind, same⟩ | ⟨_, same⟩ := ofRequest_cases key
    · obtain ⟨_, place, rfl⟩ := AuthorityKey.mk.inj same
      obtain rfl := Option.some.inj place
      obtain ⟨found, ready⟩ := checkAuthority_eq_ok resolved.symm
      match answer with
      | .ok (some there) =>
        obtain rfl := Option.some.inj (Except.ok.inj found)
        exact .issuer (IssuerKind.ofReference?_issuer kind) List.mem_cons_self ready
    · cases same
  | clusterIssuer key answer =>
    obtain ⟨_, same⟩ | ⟨kind, same⟩ := ofRequest_cases key
    · cases same
    · obtain ⟨_, _, rfl⟩ := AuthorityKey.mk.inj same
      obtain ⟨found, ready⟩ := checkAuthority_eq_ok resolved.symm
      match answer with
      | .ok (some there) =>
        obtain rfl := Option.some.inj (Except.ok.inj found)
        exact .clusterIssuer (IssuerKind.ofReference?_clusterIssuer kind) List.mem_cons_self ready

theorem Finds.mono {authority : Authority} (finds : Finds request trace authority)
    {observed : List Observation} (within : ∀ observation ∈ trace, observation ∈ observed) :
    Finds request observed authority := by
  cases finds with
  | issuer kind read ready => exact .issuer kind (within _ read) ready
  | clusterIssuer kind read ready => exact .clusterIssuer kind (within _ read) ready

/-- A provisioner was built for what the request asks for, whoever built it. -/
theorem Provides.isBuilt {key : AuthorityKey} {spec : IssuerSpec} {provisioner : Provisioner}
    (provides : Provides key spec trace (.ok provisioner)) {shared : SharedState}
    (holds : ∀ observation ∈ trace, observation.Holds shared) :
    provisioner.key = key ∧ provisioner.spec = spec ∧ provisioner ∈ shared.finished := by
  cases provides with
  | kept slot =>
    have entered : shared.cache.Offers slot key spec :=
      holds ⟨.enterSlot key spec, slot⟩ List.mem_cons_self
    have acquired : provisioner ∈ shared.finished ∧
        shared.cache.Offers slot provisioner.key provisioner.spec :=
      holds ⟨.acquireSlot slot, some provisioner⟩ (by simp)
    obtain ⟨made, found, rfl, rfl⟩ := entered
    obtain ⟨finished, offered, there, sameKey, sameSpec⟩ := acquired
    obtain rfl := Option.some.inj (found.symm.trans there)
    exact ⟨sameKey.symm, sameSpec.symm, finished⟩
  | built slot number =>
    have finished := holds ⟨.finishBuild ⟨number, key, spec⟩, .ok ()⟩ (by simp)
    exact ⟨rfl, rfl, finished⟩

/-- A request that is not settled is meant for this controller. -/
theorem group_of_unsettled (unsettled : isSettled request = false) :
    request.spec.issuerRef.group ∈ [none, some "", some CertificateRequest.issuerGroup] := by
  have ours : request.isOurs = true := by
    simp only [isSettled, Bool.or_eq_false_iff, Bool.not_eq_false'] at unsettled
    exact unsettled.1.1
  unfold CertificateRequest.isOurs at ours
  split at ours <;> simp_all

/-- What leads to a provisioner entitles the request to it. -/
theorem Leads.mayUse {place : ResourceName} {provisioner : Provisioner}
    {observed : List Observation} (leads : Leads place request provisioner observed)
    {shared : SharedState} (sound : shared.IsSound)
    (holds : ∀ observation ∈ observed, observation.Holds shared) :
    MayUse shared place observed request provisioner := by
  obtain ⟨unsettled, equipped, equips, rfl⟩ := leads
  cases equips with
  | @intro authority found provided resolves provides =>
    obtain ⟨sameKey, sameSpec, finished⟩ := provides.isBuilt fun observation member =>
      holds observation (List.mem_cons_of_mem _ (List.mem_append_right _ member))
    have finds := resolves.finds.mono fun observation member =>
      List.mem_cons_of_mem
        ⟨.readRequest place.namespaceName place.name, .ok (some request)⟩
        (List.mem_append_left provided member)
    exact
      { read := List.mem_cons_self
        ours := group_of_unsettled unsettled
        unissued := CertificateRequest.isIssued_eq_false unsettled
        unfailed := CertificateRequest.isFailed_eq_false unsettled
        found := ⟨authority, finds, sameKey, sameSpec⟩
        built := ⟨sound.finished provisioner finished, finished⟩ }

end Reconcile

/-- However reconciliations, changes of the cluster and of the cache and failures alternate, each
reconciliation calls its authority at most once, with a provisioner that its request may use. It
orders a certificate only without an identifier, and it collects one only by the identifier of its
request. -/
theorem authority_called_once {config : ControllerConfig} {crowd : Crowd}
    (reachable : Crowd.Reachable config crowd) :
    ∀ caller ∈ crowd.callers,
      caller.observed.countP Observation.isAuthorityCall ≤ 1 ∧
      (∀ before provisioner request, caller.Attempts before (.sign provisioner request) →
        before.countP Observation.isAuthorityCall = 0 ∧
        Reconcile.MayUse crowd.shared caller.place before request provisioner ∧
        (∀ arn, request.metadata.annotation? CertificateRequest.arnKey = some arn → arn = "") ∧
        ∃ bytes, request.signingRequest = .ok bytes) ∧
      ∀ before provisioner request arn, caller.Attempts before (.collect provisioner request arn) →
        before.countP Observation.isAuthorityCall = 0 ∧
        Reconcile.MayUse crowd.shared caller.place before request provisioner ∧
        request.metadata.annotation? CertificateRequest.arnKey = some arn ∧ arn ≠ "" := by
  intro caller member
  have sound := reachable.isSound
  have called := sound.callers caller member
  refine ⟨called.once, ?_, ?_⟩
  · intro before provisioner request attempts
    obtain ⟨⟨leads, unordered, decoded⟩, holds⟩ := called.attempted attempts
    refine ⟨leads.countP_isAuthorityCall, leads.mayUse sound.shared holds, fun arn found => ?_,
      decoded⟩
    by_cases empty : arn = ""
    · exact empty
    · have ordered := CertificateRequest.certificateArn?_eq_some.mpr ⟨found, empty⟩
      simp [unordered] at ordered
  · intro before provisioner request arn attempts
    obtain ⟨⟨leads, ordered⟩, holds⟩ := called.attempted attempts
    exact ⟨leads.countP_isAuthorityCall, leads.mayUse sound.shared holds,
      CertificateRequest.certificateArn?_eq_some.mp ordered⟩

/-- One reconciliation has built the provisioner that another one uses after it. -/
def Sample.crowd : Crowd :=
  ⟨unwritten.after, [⟨place, unwritten.trace, .pure unwritten.outcome⟩,
    ⟨place, unrecorded.trace, .pure unrecorded.outcome⟩]⟩

/-- The second reconciliation of the sample may use the provisioner of the first one. -/
theorem sample_provisioner_shared :
    Crowd.Reachable {} Sample.crowd ∧
      Reconcile.MayUse Sample.unwritten.after Sample.place
        (⟨.readRequest "team" "web", .ok (some Sample.request)⟩ :: Sample.kept) Sample.request
        Sample.provisioner := by
  have begun : Crowd.Reachable {} ⟨Sample.first, []⟩ := .start Sample.first.cluster
  have first := (begun.step (.join _ _ Sample.place)).performAll
    Sample.unrecorded_takesPlace.returns Sample.unrecorded_takesPlace.admitted
  have reachable : Crowd.Reachable {} Sample.crowd :=
    (first.step (.join _ _ Sample.place)).performAll
      Sample.unwritten_takesPlace.returns Sample.unwritten_takesPlace.admitted
  have attempts : Caller.Attempts
      ⟨Sample.place, Sample.unwritten.trace, .pure Sample.unwritten.outcome⟩
      (⟨.readRequest "team" "web", .ok (some Sample.request)⟩ :: Sample.kept)
      (.sign Sample.provisioner Sample.request) := .inl ⟨_, _, rfl⟩
  have called := authority_called_once reachable _ List.mem_cons_self
  exact ⟨reachable, (called.2.1 _ _ _ attempts).2.1⟩

end Issuance
