import Issuance.Proofs.Reconcile.Projection
import Issuance.Proofs.Run.Announcement

namespace Issuance

namespace CertificateRequestStatus

variable (stored written : CertificateRequestStatus)

/-- A decision that is made once is not made again. -/
theorem apply_apply (update : StatusUpdate) (earlier later : String) :
    (stored.apply update earlier).apply update later = stored.apply update earlier := by
  simpa only [amend_amendment] using stored.amend_amend update.amendment earlier later

/-- Nothing but the owned part of a written status reaches the stored one. -/
theorem merge_congr {first second : CertificateRequestStatus} (same : first.owned = second.owned) :
    stored.merge first = stored.merge second := by
  simp only [owned, mk.injEq] at same
  simp [merge, same]

/-- What is merged once is not merged again. -/
theorem merge_merge : (stored.merge written).merge written = stored.merge written := by
  simp [merge, List.filter_filter]

/-- A decision that does not change the owned part does not change what is stored either. -/
theorem merge_apply {update : StatusUpdate} {stamp : String}
    (steady : written.owned.apply update stamp = written.owned) :
    (stored.merge written).merge ((stored.merge written).apply update stamp) =
      stored.merge written := by
  have same : ((stored.merge written).apply update stamp).owned = written.owned := by
    rw [owned_apply, owned_merge, steady]
  rw [merge_congr _ same, merge_merge]

end CertificateRequestStatus

namespace CertificateRequest

/-- The own status is a part of the status. -/
theorem map_ownStatus (found : Option CertificateRequest) :
    found.map ownStatus = (found.map status).map fun status => (status.getD {}).owned := by
  rw [Option.map_map]
  rfl

/-- The own status of a decision is not changed by the same decision. -/
theorem owned_project_apply (request : CertificateRequest) (update : StatusUpdate)
    (earlier later : String) :
    (project request.status update earlier).owned.apply update later =
      (project request.status update earlier).owned := by
  rw [owned_project, CertificateRequestStatus.apply_apply]

end CertificateRequest

/-- What is silent stores nothing. -/
theorem Observation.storesStatus_append {prepared rest : List Observation}
    (silent : ∀ observation ∈ prepared, observation.isSilent = true)
    (unstored : ∀ observation ∈ rest, observation.storesStatus = false) :
    ∀ observation ∈ prepared ++ rest, observation.storesStatus = false := by
  intro observation member
  cases stores : observation.storesStatus with
  | false => rfl
  | true =>
    have late := mem_of_isSilent silent (isSilent_of_storesStatus stores) member
    cases stores.symm.trans (unstored observation late)

namespace Reconciliation

/-- A decision is written, with or without success. -/
def Writes (step : Reconciliation) (update : StatusUpdate) : Prop :=
  ∃ request stamp answer,
    ⟨.writeStatus request (project request.status update stamp), answer⟩ ∈ step.trace

/-- A decision is written with success. -/
def Stores (step : Reconciliation) (update : StatusUpdate) : Prop :=
  ∃ request stamp,
    ⟨.writeStatus request (project request.status update stamp), .ok ()⟩ ∈ step.trace

/-- No other decision is written. -/
def Repeats (step : Reconciliation) (update : StatusUpdate) : Prop :=
  ∀ request status answer, ⟨.writeStatus request status, answer⟩ ∈ step.trace →
    ∃ stamp, status = project request.status update stamp

/-- Once a decision is stored, the status stays as it is through the next reconciliation that writes
the same decision. The part that this controller writes stays through all that do not write another
one, whatever others do in between. -/
structure Endures (config : ControllerConfig) (step : Reconciliation) (update : StatusUpdate) :
    Prop where
  next : ∀ next : Reconciliation, next.TakesPlace config → next.before.cluster.IsNamed →
    next.place = step.place → next.Writes update →
      (next.before.cluster.request? step.place).map CertificateRequest.status =
        (step.after.cluster.request? step.place).map CertificateRequest.status →
      (next.after.cluster.request? step.place).map CertificateRequest.status =
        (step.after.cluster.request? step.place).map CertificateRequest.status
  further : ∀ steps last, History config step.place step.after steps last →
    (∀ next ∈ steps, next.place = step.place → next.Repeats update) →
      (last.cluster.request? step.place).map CertificateRequest.ownStatus =
        (step.after.cluster.request? step.place).map CertificateRequest.ownStatus

/-- The only status that a reconciliation writes is merged into the stored one. -/
structure Merges (step : Reconciliation) (request : CertificateRequest)
    (written : CertificateRequestStatus) : Prop where
  stored : step.before.cluster.request? step.place = some request
  observed : ⟨.writeStatus request written, .ok ()⟩ ∈ step.trace
  only : ∀ other status answer, ⟨.writeStatus other status, answer⟩ ∈ step.trace →
    other = request ∧ status = written
  left : (step.after.cluster.request? step.place).map CertificateRequest.status =
    some (some ((request.status.getD {}).merge written))

variable {config : ControllerConfig} {step : Reconciliation} {request : CertificateRequest}
  {written : CertificateRequestStatus} {update : StatusUpdate}

/-- A reconciliation stores no status, or it stores the one that it writes. -/
theorem TakesPlace.merges_cases (takesPlace : step.TakesPlace config)
    (named : step.before.cluster.IsNamed) :
    (∀ observation ∈ step.trace, observation.storesStatus = false) ∨
      ∃ request written, step.Merges request written := by
  have opened {rest : List Observation} (answer : StoreAnswer (Option CertificateRequest))
      (silent : ∀ observation ∈ rest, observation.isSilent = true) :
      ∀ observation ∈ ⟨.readRequest step.place.namespaceName step.place.name, answer⟩ :: rest,
        observation.isSilent = true := List.forall_mem_cons.mpr ⟨rfl, silent⟩
  cases takesPlace.ending with
  | unread reason observed => exact .inl (observed ▸ List.forall_mem_singleton.mpr rfl)
  | absent missing observed => exact .inl (observed ▸ List.forall_mem_singleton.mpr rfl)
  | idle stored settled observed => exact .inl (observed ▸ List.forall_mem_singleton.mpr rfl)
  | @unrecorded request provisioner equipped stored unsettled equips unordered bytes decoded arn
      reason observed =>
    have equipping : ∀ observation ∈ equipped, observation.isSilent = true := by
      intro observation member
      exact Observation.isSilent_of_isPreparation (equips.isPreparation observation member)
    rw [observed, ← List.cons_append]
    refine .inl (Observation.storesStatus_append (opened _ equipping) ?_)
    simp [Observation.storesStatus]
  | unwritten stored unsettled decides stamp reason observed =>
    rw [observed, ← List.cons_append]
    refine .inl (Observation.storesStatus_append (opened _ decides.isSilent) ?_)
    simp [Observation.storesStatus]
  | @written request before update stored unsettled stamp decides observed =>
    refine .inr ⟨request, project request.status update stamp, stored, ?_, ?_, ?_⟩
    · simp [observed]
    · intro other status answer member
      rw [observed, ← List.cons_append] at member
      have late := Observation.mem_of_isSilent (opened _ decides.isSilent) rfl member
      have same : (other = request ∧ status = project request.status update stamp) ∧
          answer = .ok () := by simpa using late
      exact same.1
    · have kept : (Observation.rewriteAll before request).status = request.status := by
        rcases decides.rewriteAll with same | ⟨arn, _, annotated⟩
        · rw [same]
        · rw [annotated]
          rfl
      rw [request?_after_of_written named stored decides observed, Option.map_some,
        CertificateRequest.mergeStatus, kept]

/-- What a decision that is stored leaves behind. -/
theorem TakesPlace.merges_of_stores (takesPlace : step.TakesPlace config)
    (named : step.before.cluster.IsNamed) (stores : step.Stores update) :
    ∃ request stamp, step.Merges request (project request.status update stamp) := by
  obtain ⟨request, stamp, member⟩ := stores
  rcases takesPlace.merges_cases named with unstored | ⟨stored, written, merges⟩
  · cases unstored _ member
  · obtain ⟨rfl, rfl⟩ := merges.only _ _ _ member
    exact ⟨request, stamp, merges⟩

/-- The own status after a write is the own part of what was written. -/
theorem Merges.ownStatus_left (merges : step.Merges request written) :
    (step.after.cluster.request? step.place).map CertificateRequest.ownStatus =
      some written.owned := by
  rw [CertificateRequest.map_ownStatus, merges.left, Option.map_some, Option.getD_some,
    CertificateRequestStatus.owned_merge]

/-- An own status that the decision does not change stays while no other decision is written. -/
theorem TakesPlace.ownStatus_of_repeats (takesPlace : step.TakesPlace config)
    (named : step.before.cluster.IsNamed) {own : CertificateRequestStatus}
    (begun : (step.before.cluster.request? step.place).map CertificateRequest.ownStatus = some own)
    (steady : ∀ stamp, own.apply update stamp = own) (repeats : step.Repeats update) :
    (step.after.cluster.request? step.place).map CertificateRequest.ownStatus = some own := by
  rcases takesPlace.merges_cases named with unstored | ⟨request, written, merges⟩
  · have same : (step.after.cluster.request? step.place).map CertificateRequest.status = _ :=
      SharedState.status_afterAll unstored
    rw [CertificateRequest.map_ownStatus, same, ← CertificateRequest.map_ownStatus, begun]
  · obtain ⟨stamp, rfl⟩ := repeats _ _ _ merges.observed
    rw [merges.stored, Option.map_some, Option.some.injEq] at begun
    rw [merges.ownStatus_left, CertificateRequest.owned_project, begun, steady]

end Reconciliation

/-- A run in which no other decision is written keeps an own status that the decision does not
change. -/
theorem History.ownStatus_of_repeats {config : ControllerConfig} {name : ResourceName}
    {first last : SharedState} {steps : List Reconciliation} {update : StatusUpdate}
    (history : History config name first steps last) (named : first.cluster.IsNamed)
    {own : CertificateRequestStatus}
    (begun : (first.cluster.request? name).map CertificateRequest.ownStatus = some own)
    (steady : ∀ stamp, own.apply update stamp = own)
    (repeats : ∀ step ∈ steps, step.place = name → step.Repeats update) :
    (last.cluster.request? name).map CertificateRequest.ownStatus = some own := by
  induction history with
  | start => exact begun
  | drift history spares ih =>
      exact (spares.map_request? fun _ _ same => congrArg (·.2.2) same).trans (ih repeats)
  | @reconcile steps step history takesPlace ih =>
      have reached := ih fun earlier member => repeats earlier (List.mem_append_left _ member)
      by_cases here : step.place = name
      · subst here
        have again := repeats step (List.mem_append_right _ (List.mem_singleton_self _)) rfl
        exact takesPlace.ownStatus_of_repeats (history.isNamed named) reached steady again
      · rw [takesPlace.request?_after (history.isNamed named) (Ne.symm here)]
        exact reached

/-- What is decided a second time changes nothing, neither in the projected status nor in the stored
one, and no clock matters. -/
theorem repeated_decision_changes_nothing :
    (∀ current (amendment : Amendment) earlier later,
      amended (some (amended current amendment earlier)) amendment later =
        amended current amendment earlier) ∧
      (∀ current (update : StatusUpdate) earlier later,
        project (some (project current update earlier)) update later =
          project current update earlier) ∧
      ∀ (config : ControllerConfig) (step : Reconciliation) (update : StatusUpdate),
        step.TakesPlace config → step.before.cluster.IsNamed → step.Stores update →
          step.Endures config update := by
  refine ⟨fun current amendment => (current.getD {}).amend_amend amendment,
    fun current update => (current.getD {}).apply_apply update, ?_⟩
  intro config step update takesPlace named stores
  obtain ⟨request, stamp, merges⟩ := takesPlace.merges_of_stores named stores
  have steady (later : String) := request.owned_project_apply update stamp later
  constructor
  case next =>
    intro next takesPlace named place writes same
    rcases takesPlace.merges_cases named with unstored | ⟨found, written, again⟩
    · exact (SharedState.status_afterAll unstored).trans same
    · obtain ⟨other, later, answer, member⟩ := writes
      obtain ⟨rfl, rfl⟩ := again.only _ _ _ member
      have stored : other.status = some ((request.status.getD {}).merge
          (project request.status update stamp)) := by
        rw [merges.left, ← place, again.stored] at same
        exact Option.some.inj same
      have left := again.left
      rw [place, stored] at left
      rw [left, merges.left]
      exact congrArg (fun status => some (some status))
        (CertificateRequestStatus.merge_apply _ _ (steady later))
  case further =>
    intro steps last history repeats
    have begun := merges.ownStatus_left
    have namedAfter : step.after.cluster.IsNamed := SharedState.isNamed_afterAll named _
    rw [begun]
    exact history.ownStatus_of_repeats namedAfter begun steady repeats

namespace Sample

/-- The request after the issuer was found missing. -/
def waitsAlone : CertificateRequest :=
  request.mergeStatus (project request.status (.pending missing.message) "now")

/-- The issuer is still missing when the request is looked at again. -/
def stillUnfounded : Reconciliation :=
  reconciliation unfounded.after waitsAlone
    ([⟨.readIssuer "team" "ca", .ok none⟩] ++
      [⟨.stamp, "later"⟩,
        ⟨.writeStatus waitsAlone (project waitsAlone.status (.pending missing.message) "later"),
          .ok ()⟩,
        ⟨.publish (waitsAlone.event (.pending missing.message)), ()⟩])
    (.error missing)

theorem stillUnfounded_takesPlace : stillUnfounded.TakesPlace {} := by
  have known : AuthorityKey.ofRequest waitsAlone = .ok (.issuer "team" "ca") := rfl
  have resolves : Reconcile.Resolves waitsAlone [⟨.readIssuer "team" "ca", .ok none⟩]
      (.error missing) := .issuer known (.ok none)
  have admitted : stillUnfounded.before.AdmitsAll stillUnfounded.trace :=
    ⟨rfl, rfl, trivial, rfl, trivial, trivial⟩
  exact takesPlace (by decide) (.decided (.unresolved resolves) (.written "later")) admitted

end Sample

/-- A request that waits for its issuer keeps its status however long it waits. -/
theorem sample_missing_issuer_repeated :
    Sample.unfounded.TakesPlace {} ∧ Sample.stillUnfounded.TakesPlace {} ∧
      (Sample.stillUnfounded.after.cluster.request? Sample.place).map CertificateRequest.status =
        (Sample.unfounded.after.cluster.request? Sample.place).map CertificateRequest.status := by
  have empty : ({} : Cluster).IsNamed := Cluster.isNamed_of_nil rfl
  have named : Sample.unfounded.before.cluster.IsNamed := empty.putRequest Sample.request
  have stores : Sample.unfounded.Stores (.pending Sample.missing.message) :=
    ⟨Sample.request, "now", by simp [Sample.unfounded, Sample.reconciliation]⟩
  have writes : Sample.stillUnfounded.Writes (.pending Sample.missing.message) :=
    ⟨Sample.waitsAlone, "later", .ok (),
      by simp [Sample.stillUnfounded, Sample.reconciliation]⟩
  have endures := repeated_decision_changes_nothing.2.2 {} Sample.unfounded _
    Sample.unfounded_takesPlace named stores
  have same := endures.next Sample.stillUnfounded Sample.stillUnfounded_takesPlace
    (SharedState.isNamed_afterAll named _) rfl writes rfl
  exact ⟨Sample.unfounded_takesPlace, Sample.stillUnfounded_takesPlace, same⟩

end Issuance
