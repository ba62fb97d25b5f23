import Issuance.Proofs.Run.Ending

namespace Issuance

namespace Observation

def isStoreAccess : Observation → Bool
  | ⟨.readRequest _ _, _⟩ => true
  | ⟨.readIssuer _ _, _⟩ => true
  | ⟨.readClusterIssuer _, _⟩ => true
  | ⟨.annotate _ _, _⟩ => true
  | ⟨.writeStatus _ _, _⟩ => true
  | _ => false

/-- A status is written, with or without success. -/
def writesStatus : Observation → Bool
  | ⟨.writeStatus _ _, _⟩ => true
  | _ => false

def storesStatus : Observation → Bool
  | ⟨.writeStatus _ _, .ok _⟩ => true
  | _ => false

/-- The event that is published. -/
def event? : Observation → Option Event
  | ⟨.publish event, _⟩ => some event
  | _ => none

/-- The reason why a request is not read or not written. -/
def lostReason? : Observation → Option String
  | ⟨.readRequest _ _, .error reason⟩ => some reason
  | ⟨.annotate _ _, .error reason⟩ => some reason
  | ⟨.writeStatus _ _, .error reason⟩ => some reason
  | _ => none

/-- The store does not tell whether there is an authority. -/
def missesAuthority : Observation → Bool
  | ⟨.readIssuer _ _, .error _⟩ => true
  | ⟨.readClusterIssuer _, .error _⟩ => true
  | _ => false

/-- Neither a status nor an event comes from the observation, and no identifier is lost. -/
def isSilent : Observation → Bool
  | ⟨.annotate _ _, .error _⟩ => false
  | ⟨.writeStatus _ _, _⟩ => false
  | ⟨.publish _, _⟩ => false
  | _ => true

variable {observation : Observation} {prepared rest : List Observation}

theorem isSilent_of_isPreparation (preparation : observation.isPreparation = true) :
    observation.isSilent = true := by
  obtain ⟨effect, answer⟩ := observation
  cases effect <;> first | rfl | cases preparation

theorem writesStatus_of_isSilent (silent : observation.isSilent = true) :
    observation.writesStatus = false := by
  obtain ⟨effect, answer⟩ := observation
  cases effect <;> first | rfl | cases silent

theorem isSilent_of_storesStatus (stores : observation.storesStatus = true) :
    observation.isSilent = false := by
  obtain ⟨effect, answer⟩ := observation
  cases effect <;> first | rfl | cases stores

theorem event?_of_isSilent (silent : observation.isSilent = true) : observation.event? = none := by
  obtain ⟨effect, answer⟩ := observation
  cases effect <;> first | rfl | cases silent

section Silence

variable (silent : ∀ observation ∈ prepared, observation.isSilent = true)

include silent

/-- What is not silent comes after all that is. -/
theorem mem_of_isSilent (loud : observation.isSilent = false)
    (member : observation ∈ prepared ++ rest) : observation ∈ rest := by
  rcases List.mem_append.mp member with early | late
  · simp [silent observation early] at loud
  · exact late

theorem countP_writesStatus_append :
    (prepared ++ rest).countP (·.writesStatus) = rest.countP (·.writesStatus) := by
  have none : prepared.countP (·.writesStatus) = 0 := by
    refine List.countP_eq_zero.mpr fun observation member => ?_
    simp [writesStatus_of_isSilent (silent observation member)]
  rw [List.countP_append, none, Nat.zero_add]

theorem filterMap_event?_append :
    (prepared ++ rest).filterMap event? = rest.filterMap event? := by
  have none : prepared.filterMap event? = [] :=
    List.filterMap_eq_nil_iff.mpr fun observation member =>
      event?_of_isSilent (silent observation member)
  rw [List.filterMap_append, none, List.nil_append]

/-- Before a status is written, any store may be asked. -/
theorem pairwise_writesStatus_append
    (last : rest.Pairwise fun earlier later =>
      earlier.writesStatus = true → later.isStoreAccess = false) :
    (prepared ++ rest).Pairwise fun earlier later =>
      earlier.writesStatus = true → later.isStoreAccess = false := by
  have quiet : ∀ observation ∈ prepared, observation.writesStatus = false :=
    fun observation member => writesStatus_of_isSilent (silent observation member)
  refine List.pairwise_append.mpr ⟨?_, last, fun earlier early later _ written => ?_⟩
  · refine List.pairwise_of_forall_mem_list fun earlier early later _ written => ?_
    simp [quiet earlier early] at written
  · simp [quiet earlier early] at written

end Silence

end Observation

namespace SharedState

variable {shared : SharedState} {name : ResourceName}

/-- An identifier is stored beside the status. -/
theorem status_after {observation : Observation} (unstored : observation.storesStatus = false) :
    ((shared.after observation).cluster.request? name).map CertificateRequest.status =
      (shared.cluster.request? name).map CertificateRequest.status := by
  obtain ⟨effect, answer⟩ := observation
  cases effect with
  | annotate request arn =>
      cases answer with
      | error reason => rfl
      | ok _ =>
        rw [after, Cluster.request?_changeRequest]
        split
        · rw [Option.map_map]
          rfl
        · rfl
  | writeStatus request status =>
      cases answer with
      | error reason => rfl
      | ok _ => cases unstored
  | finishBuild provisioner => cases answer <;> rfl
  | _ => rfl

/-- Each status stays as it is until a status is stored. -/
theorem status_afterAll {trace : List Observation}
    (unstored : ∀ observation ∈ trace, observation.storesStatus = false) :
    ((shared.afterAll trace).cluster.request? name).map CertificateRequest.status =
      (shared.cluster.request? name).map CertificateRequest.status := by
  induction trace generalizing shared with
  | nil => rfl
  | cons observation trace ih =>
      rw [afterAll_cons, ih fun later member => unstored later (List.mem_cons_of_mem _ member)]
      exact status_after (unstored observation List.mem_cons_self)

end SharedState

namespace ReconcileFailure

/-- A request waits for an authority that can be used, and every other failure ends it. -/
def readyReason : ReconcileFailure → String
  | unknownIssuerKind _ => Condition.pendingReason
  | authorityNotFound _ => Condition.pendingReason
  | authorityNotReady _ => Condition.pendingReason
  | reconciliationFailed _ => Condition.pendingReason
  | provisioner _ => Condition.failedReason
  | sign _ => Condition.failedReason
  | get _ => Condition.failedReason
  | invalidRequest _ => Condition.failedReason

end ReconcileFailure

namespace Reconcile

variable {config : ControllerConfig} {request : CertificateRequest} {trace : List Observation}
  {update : StatusUpdate} {decided : Outcome}

theorem Decides.isSilent (decides : Decides config request trace update decided) :
    ∀ observation ∈ trace, observation.isSilent = true := by
  obtain ⟨prepared, asked, rfl, preparations, asks⟩ := decides.asks
  refine List.forall_mem_append.mpr ⟨fun observation member => ?_, ?_⟩
  · exact Observation.isSilent_of_isPreparation (preparations observation member)
  · cases asks <;> simp [Observation.isSilent]

theorem Decides.isSilent_stamped (decides : Decides config request trace update decided)
    (stamp : String) : ∀ observation ∈ trace ++ [⟨.stamp, stamp⟩], observation.isSilent = true :=
  List.forall_mem_append.mpr ⟨decides.isSilent, List.forall_mem_singleton.mpr rfl⟩

/-- Only a kind that nobody knows hides the key of a request. -/
theorem ofRequest_eq_error {failure : ReconcileFailure}
    (unknown : AuthorityKey.ofRequest request = .error failure) :
    ∃ kind, failure = .unknownIssuerKind kind := by
  simp only [AuthorityKey.ofRequest] at unknown
  split at unknown
  · exact ⟨_, (Except.error.inj unknown).symm⟩
  · cases unknown
  · cases unknown

/-- An authority that does not pass may pass later. -/
theorem checkAuthority_eq_error {key : AuthorityKey} {answer : StoreAnswer (Option Authority)}
    {failure : ReconcileFailure} (checked : checkAuthority key answer = .error failure) :
    failure.readyReason = Condition.pendingReason ∧
      ∀ reason, failure = .reconciliationFailed reason → ∃ cause, answer = .error cause := by
  unfold checkAuthority at checked
  split at checked
  · next cause =>
    obtain rfl := Except.error.inj checked
    exact ⟨rfl, fun _ _ => ⟨cause, rfl⟩⟩
  · obtain rfl := Except.error.inj checked
    exact ⟨rfl, nofun⟩
  · split at checked
    · cases checked
    · obtain rfl := Except.error.inj checked
      exact ⟨rfl, nofun⟩

/-- A failure to find an authority is one of the kinds that leave a request pending. -/
theorem Resolves.failure_cases {failure : ReconcileFailure}
    (resolves : Resolves request trace (.error failure)) :
    failure.readyReason = Condition.pendingReason ∧
      ∀ reason, failure = .reconciliationFailed reason →
        ∃ observation ∈ trace, observation.missesAuthority = true := by
  generalize resolved : Except.error failure = result at resolves
  cases resolves with
  | unknown key =>
    obtain rfl := Except.error.inj resolved
    obtain ⟨kind, rfl⟩ := ofRequest_eq_error key
    exact ⟨rfl, nofun⟩
  | issuer key answer =>
    obtain ⟨pending, missed⟩ := checkAuthority_eq_error resolved.symm
    refine ⟨pending, fun reason same => ⟨_, List.mem_cons_self, ?_⟩⟩
    cases answer with
    | error reason => rfl
    | ok found => exact absurd (missed reason same) nofun
  | clusterIssuer key answer =>
    obtain ⟨pending, missed⟩ := checkAuthority_eq_error resolved.symm
    refine ⟨pending, fun reason same => ⟨_, List.mem_cons_self, ?_⟩⟩
    cases answer with
    | error reason => rfl
    | ok found => exact absurd (missed reason same) nofun

/-- The message and the reason of a decision are those of the failure that it reports. -/
theorem Decides.failure_cases {failure : ReconcileFailure}
    (decides : Decides config request trace update (.error failure)) :
    update.message = failure.message ∧ update.reason = failure.readyReason ∧
      ∀ reason, failure = .reconciliationFailed reason →
        ∃ observation ∈ trace, observation.missesAuthority = true := by
  cases decides with
  | unresolved resolves =>
    obtain ⟨pending, missed⟩ := resolves.failure_cases
    exact ⟨rfl, pending.symm, missed⟩
  | unprovided resolves provides => exact ⟨rfl, rfl, nofun⟩
  | malformed equips unordered decoded => exact ⟨rfl, rfl, nofun⟩
  | refused equips unordered decoded => exact ⟨rfl, rfl, nofun⟩
  | lost equips ordered failed final => exact ⟨rfl, rfl, nofun⟩

end Reconcile

namespace Reconciliation

/-- The Ready condition that is stored, the only event and the outcome tell the same. -/
structure Announces (step : Reconciliation) (ready : Condition) (event : Event) : Prop where
  stored : (step.after.cluster.request? step.place).bind CertificateRequest.readyCondition? =
    some ready
  published : step.trace.filterMap Observation.event? = [event]
  reason : ready.reason = some event.reason
  note : ready.message = event.note
  warning : event.isWarning = true ↔ ready.status = .false
  told : ∀ failure, step.outcome = .error failure →
    ready.message = some failure.message ∧ ready.reason = some failure.readyReason
  missed : ∀ reason, step.outcome = .error (.reconciliationFailed reason) →
    ∃ observation ∈ step.trace, observation.missesAuthority = true

/-- A status is written at most once and after all else that a store does. A write that is lost
leaves neither a status nor an event behind, a status that is stored is announced, and every
failure comes with one or the other. -/
structure IsFaithful (step : Reconciliation) : Prop where
  once : step.trace.countP (·.writesStatus) ≤ 1
  last : step.trace.Pairwise fun earlier later =>
    earlier.writesStatus = true → later.isStoreAccess = false
  unwritten : ∀ request status reason, ⟨.writeStatus request status, .error reason⟩ ∈ step.trace →
    step.outcome = .error (.reconciliationFailed reason) ∧
      step.trace.filterMap Observation.event? = [] ∧
      ∀ name, (step.after.cluster.request? name).map CertificateRequest.status =
        (step.before.cluster.request? name).map CertificateRequest.status
  unrecorded : ∀ request arn reason, ⟨.annotate request arn, .error reason⟩ ∈ step.trace →
    step.outcome = .error (.reconciliationFailed reason) ∧
      ∀ observation ∈ step.trace, observation.writesStatus = false ∧ observation.event? = none
  written : (∃ observation ∈ step.trace, observation.storesStatus = true) →
    ∃ ready event, step.Announces ready event
  failed : ∀ failure, step.outcome = .error failure →
    (∃ observation ∈ step.trace, ∃ reason,
        observation.lostReason? = some reason ∧ failure = .reconciliationFailed reason) ∨
      ∃ observation ∈ step.trace, observation.storesStatus = true

variable {step : Reconciliation} {prepared rest : List Observation} {request : CertificateRequest}
  {status : CertificateRequestStatus} {arn reason : String}

section Silence

variable (silent : ∀ observation ∈ prepared, observation.isSilent = true)

include silent

/-- Only what comes after all silence matters. -/
theorem isFaithful_of_append (observed : step.trace = prepared ++ rest)
    (once : rest.countP (·.writesStatus) ≤ 1)
    (last : rest.Pairwise fun earlier later =>
      earlier.writesStatus = true → later.isStoreAccess = false)
    (unwritten : ∀ request status reason, ⟨.writeStatus request status, .error reason⟩ ∈ rest →
      step.outcome = .error (.reconciliationFailed reason) ∧
        rest.filterMap Observation.event? = [] ∧
        ∀ observation ∈ rest, observation.storesStatus = false)
    (unrecorded : ∀ request arn reason, ⟨.annotate request arn, .error reason⟩ ∈ rest →
      step.outcome = .error (.reconciliationFailed reason) ∧
        ∀ observation ∈ rest, observation.writesStatus = false ∧ observation.event? = none)
    (written : (∃ observation ∈ rest, observation.storesStatus = true) →
      ∃ ready event, step.Announces ready event)
    (failed : ∀ failure, step.outcome = .error failure →
      (∃ observation ∈ rest, ∃ reason,
          observation.lostReason? = some reason ∧ failure = .reconciliationFailed reason) ∨
        ∃ observation ∈ rest, observation.storesStatus = true) : step.IsFaithful := by
  have after {observation : Observation} (loud : observation.isSilent = false)
      (member : observation ∈ step.trace) : observation ∈ rest :=
    Observation.mem_of_isSilent silent loud (observed ▸ member)
  have within {observation : Observation} (member : observation ∈ rest) :
      observation ∈ step.trace := observed ▸ List.mem_append_right _ member
  constructor
  case once =>
    rw [observed, Observation.countP_writesStatus_append silent]
    exact once
  case last =>
    rw [observed]
    exact Observation.pairwise_writesStatus_append silent last
  case unwritten =>
    intro request status reason member
    obtain ⟨ended, unpublished, unstored⟩ := unwritten request status reason (after rfl member)
    refine ⟨ended, ?_, fun name => SharedState.status_afterAll fun observation member => ?_⟩
    · rw [observed, Observation.filterMap_event?_append silent, unpublished]
    · cases stores : observation.storesStatus with
      | false => rfl
      | true =>
        have later := after (Observation.isSilent_of_storesStatus stores) member
        cases stores.symm.trans (unstored observation later)
  case unrecorded =>
    intro request arn reason member
    obtain ⟨ended, quiet⟩ := unrecorded request arn reason (after rfl member)
    refine ⟨ended, fun observation member => ?_⟩
    rcases List.mem_append.mp (observed ▸ member) with early | late
    · have still := silent observation early
      exact ⟨Observation.writesStatus_of_isSilent still, Observation.event?_of_isSilent still⟩
    · exact quiet observation late
  case written =>
    rintro ⟨observation, member, stores⟩
    exact written ⟨observation, after (Observation.isSilent_of_storesStatus stores) member, stores⟩
  case failed =>
    intro failure ended
    rcases failed failure ended with ⟨observation, member, lost⟩ | ⟨observation, member, stores⟩
    · exact .inl ⟨observation, within member, lost⟩
    · exact .inr ⟨observation, within member, stores⟩

/-- An identifier that is lost is not followed by a status or an event. -/
theorem isFaithful_of_unrecorded
    (observed : step.trace = prepared ++ [⟨.annotate request arn, .error reason⟩])
    (ended : step.outcome = .error (.reconciliationFailed reason)) : step.IsFaithful := by
  refine isFaithful_of_append silent observed (Nat.zero_le 1) (List.pairwise_singleton _ _)
    (by simp) ?_ (by simp [Observation.storesStatus]) ?_
  · intro _ _ _ member
    cases List.mem_singleton.mp member
    exact ⟨ended, List.forall_mem_singleton.mpr ⟨rfl, rfl⟩⟩
  · intro failure failed
    obtain rfl := Except.error.inj (failed.symm.trans ended)
    exact .inl ⟨_, List.mem_singleton_self _, reason, rfl, rfl⟩

/-- A status that is lost is not followed by an event. -/
theorem isFaithful_of_unwritten
    (observed : step.trace = prepared ++ [⟨.writeStatus request status, .error reason⟩])
    (ended : step.outcome = .error (.reconciliationFailed reason)) : step.IsFaithful := by
  refine isFaithful_of_append silent observed (Nat.le_refl 1) (List.pairwise_singleton _ _)
    ?_ (by simp) (by simp [Observation.storesStatus]) ?_
  · intro _ _ _ member
    cases List.mem_singleton.mp member
    exact ⟨ended, rfl, List.forall_mem_singleton.mpr rfl⟩
  · intro failure failed
    obtain rfl := Except.error.inj (failed.symm.trans ended)
    exact .inl ⟨_, List.mem_singleton_self _, reason, rfl, rfl⟩

/-- A status that is stored is followed by its event, and nothing else. -/
theorem isFaithful_of_written {ready : Condition} {event : Event}
    (observed : step.trace =
      prepared ++ [⟨.writeStatus request status, .ok ()⟩, ⟨.publish event, ()⟩])
    (announces : step.Announces ready event) : step.IsFaithful := by
  refine isFaithful_of_append silent observed (Nat.le_refl 1)
    (List.pairwise_pair.mpr fun _ => rfl) (by simp) (by simp) (fun _ => ⟨ready, event, announces⟩)
    fun failure failed => ?_
  exact .inr ⟨_, List.mem_cons_self, rfl⟩

end Silence

/-- A reconciliation that only looks for its request has nothing to announce. -/
theorem isFaithful_of_looks {answer : StoreAnswer (Option CertificateRequest)}
    (observed : step.trace =
      [⟨.readRequest step.place.namespaceName step.place.name, answer⟩])
    (failed : ∀ failure, step.outcome = .error failure →
      ∃ reason, answer = .error reason ∧ failure = .reconciliationFailed reason) :
    step.IsFaithful := by
  refine isFaithful_of_append (List.forall_mem_nil _) observed (Nat.zero_le 1)
    (List.pairwise_singleton _ _) (by simp) (by simp) (by simp [Observation.storesStatus]) ?_
  intro failure ended
  obtain ⟨reason, rfl, rfl⟩ := failed failure ended
  exact .inl ⟨_, List.mem_singleton_self _, reason, rfl, rfl⟩

end Reconciliation

/-- A decision that is written is announced. -/
theorem Reconciliation.announces_of_written {config : ControllerConfig} {step : Reconciliation}
    (named : step.before.cluster.IsNamed) {request : CertificateRequest}
    (stored : step.before.cluster.request? step.place = some request)
    (unsettled : Reconcile.isSettled request = false) (single : request.HasSingleReady)
    {before : List Observation} {update : StatusUpdate} {stamp : String}
    (decides : Reconcile.Decides config request before update step.outcome)
    (observed : step.trace =
      ⟨.readRequest step.place.namespaceName step.place.name, .ok (some request)⟩ ::
        (before ++
          [⟨.stamp, stamp⟩,
            ⟨.writeStatus request (project request.status update stamp), .ok ()⟩,
            ⟨.publish (request.event update), ()⟩])) :
    step.Announces (request.ownStatus.readyCondition update stamp) (request.event update) := by
  have left := request?_after_of_written named stored decides observed
  have unissued := CertificateRequest.isIssued_eq_false unsettled
  have shown := CertificateRequest.readyCondition?_of_decided single unissued
    (request.ownStatus_mergeStatus_project (Observation.rewriteAll before request) update stamp)
  have within : ∀ observation ∈ before, observation ∈ step.trace := by
    intro observation member
    rw [observed]
    exact List.mem_cons_of_mem _ (List.mem_append_left _ member)
  constructor
  case stored => rw [left, Option.bind_some, shown]
  case published =>
    rw [observed, List.filterMap_cons, Observation.filterMap_event?_append decides.isSilent]
    rfl
  case reason => rfl
  case note => rfl
  case warning => exact beq_iff_eq
  case told =>
    intro failure failed
    rw [failed] at decides
    obtain ⟨message, reason, _⟩ := decides.failure_cases
    exact ⟨congrArg some message, congrArg some reason⟩
  case missed =>
    intro reason failed
    rw [failed] at decides
    obtain ⟨observation, member, misses⟩ := decides.failure_cases.2.2 reason rfl
    exact ⟨observation, within observation member, misses⟩

/-- A reconciliation writes its status once and last. When a write is lost, the reconciliation fails
and neither the stored status changes nor an event is published. When the status is written, the one
event and the failure that is reported tell what is stored. There are no other failures than reads
and writes that are lost and those that a stored status tells. -/
theorem reconciliation_is_faithful {config : ControllerConfig} {step : Reconciliation}
    (takesPlace : step.TakesPlace config) (named : step.before.cluster.IsNamed)
    (single : ∀ request, step.before.cluster.request? step.place = some request →
      request.HasSingleReady) : step.IsFaithful := by
  have opened {rest : List Observation} (answer : StoreAnswer (Option CertificateRequest))
      (silent : ∀ observation ∈ rest, observation.isSilent = true) :
      ∀ observation ∈ ⟨.readRequest step.place.namespaceName step.place.name, answer⟩ :: rest,
        observation.isSilent = true := List.forall_mem_cons.mpr ⟨rfl, silent⟩
  cases takesPlace.ending with
  | unread reason observed ended =>
    refine Reconciliation.isFaithful_of_looks observed fun failure failed => ?_
    obtain rfl := Except.error.inj (failed.symm.trans ended)
    exact ⟨reason, rfl, rfl⟩
  | absent missing observed ended =>
    refine Reconciliation.isFaithful_of_looks observed fun failure failed => ?_
    cases failed.symm.trans ended
  | idle stored settled observed ended =>
    refine Reconciliation.isFaithful_of_looks observed fun failure failed => ?_
    cases failed.symm.trans ended
  | @unrecorded request provisioner equipped stored unsettled equips unordered bytes decoded arn
      reason observed ended =>
    have equipping : ∀ observation ∈ equipped, observation.isSilent = true := by
      intro observation member
      exact Observation.isSilent_of_isPreparation (equips.isPreparation observation member)
    have ordering : ∀ observation ∈ equipped ++ [⟨.sign provisioner request, .ok arn⟩],
        observation.isSilent = true :=
      List.forall_mem_append.mpr ⟨equipping, List.forall_mem_singleton.mpr rfl⟩
    rw [List.append_cons] at observed
    exact Reconciliation.isFaithful_of_unrecorded (opened _ ordering) observed ended
  | unwritten stored unsettled decides stamp reason observed ended =>
    rw [List.append_cons] at observed
    exact Reconciliation.isFaithful_of_unwritten (opened _ (decides.isSilent_stamped stamp))
      observed ended
  | @written request before update stored unsettled stamp decides observed =>
    have announces := Reconciliation.announces_of_written named stored unsettled
      (single request stored) decides observed
    rw [List.append_cons] at observed
    exact Reconciliation.isFaithful_of_written (opened _ (decides.isSilent_stamped stamp))
      observed announces

namespace Sample

/-- The request is there without its issuer. -/
def alone : SharedState := { cluster := { requests := [(place, request)] } }

/-- The failure of a request whose issuer is not there. -/
def missing : ReconcileFailure := .authorityNotFound (.issuer "team" "ca")

/-- The request waits for its issuer. -/
def unfounded : Reconciliation :=
  reconciliation alone request
    ([⟨.readIssuer "team" "ca", .ok none⟩] ++
      [⟨.stamp, "now"⟩,
        ⟨.writeStatus request (project request.status (.pending missing.message) "now"), .ok ()⟩,
        ⟨.publish (request.event (.pending missing.message)), ()⟩])
    (.error missing)

theorem unfounded_takesPlace : unfounded.TakesPlace {} := by
  have resolves : Reconcile.Resolves request [⟨.readIssuer "team" "ca", .ok none⟩]
      (.error missing) := .issuer key_request (.ok none)
  have admitted : unfounded.before.AdmitsAll unfounded.trace :=
    ⟨rfl, rfl, trivial, rfl, trivial, trivial⟩
  exact takesPlace rfl (.decided (.unresolved resolves) (.written "now")) admitted

end Sample

/-- A request without its issuer is announced as waiting for it. -/
theorem sample_unfounded_announced :
    Sample.unfounded.TakesPlace {} ∧ Sample.unfounded.IsFaithful ∧
      ∃ ready event, Sample.unfounded.Announces ready event ∧
        ready.message = some Sample.missing.message := by
  have empty : ({} : Cluster).IsNamed := Cluster.isNamed_of_nil rfl
  have single request (stored : Sample.alone.cluster.request? Sample.place = some request) :
      request.HasSingleReady := Sample.hasSingleReady_first request stored
  have faithful := reconciliation_is_faithful Sample.unfounded_takesPlace
    (empty.putRequest Sample.request) single
  have stores : ∃ observation ∈ Sample.unfounded.trace, observation.storesStatus = true := by
    simp [Sample.unfounded, Sample.reconciliation, Observation.storesStatus]
  obtain ⟨ready, event, announces⟩ := faithful.written stores
  exact ⟨Sample.unfounded_takesPlace, faithful, ready, event, announces,
    (announces.told Sample.missing rfl).1⟩

end Issuance
