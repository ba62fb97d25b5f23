import Issuance.Proofs.Run.History

namespace Issuance

namespace CertificateRequest

/-- The request names a group of issuers that this controller does not serve. -/
def IsForeign (request : CertificateRequest) : Prop :=
  ∃ group, request.spec.issuerRef.group = some group ∧ group ≠ "" ∧ group ≠ issuerGroup

/-- The Ready condition of the request says that it is issued or that it failed. -/
def IsTerminal (request : CertificateRequest) : Prop :=
  (request.status.getD {}).Says .true Condition.issuedReason ∨
    (request.status.getD {}).Says .false Condition.failedReason

variable {request : CertificateRequest}

theorem isSettled_of_isForeign (foreign : request.IsForeign) :
    Reconcile.isSettled request = true := by
  obtain ⟨group, found, filled, other⟩ := foreign
  have others : request.isOurs = false := by simp [isOurs, found, filled, other]
  rw [Reconcile.isSettled, others]
  rfl

/-- A terminal request is left alone, because its only Ready condition is the first one. -/
theorem HasSingleReady.isSettled_of_isTerminal (single : request.HasSingleReady)
    (terminal : request.IsTerminal) : Reconcile.isSettled request = true := by
  rcases terminal with issued | failed
  · have found : request.isIssued = true := single.says_iff.mp issued
    simp [Reconcile.isSettled, found]
  · have found : request.isFailed = true := single.says_iff.mp failed
    simp [Reconcile.isSettled, found]

end CertificateRequest

namespace Reconciliation

/-- Nothing happens but that the request is read, and then the reconciliation is done. -/
structure IsIdle (step : Reconciliation) : Prop where
  observed : ∃ answer, step.trace =
      [⟨.readRequest step.place.namespaceName step.place.name, answer⟩] ∧
    ∀ found, answer = .ok found → step.outcome = .ok .none
  unchanged : step.after = step.before

theorem TakesPlace.isIdle {config : ControllerConfig} {step : Reconciliation}
    (takesPlace : step.TakesPlace config) {request : CertificateRequest}
    (stored : step.before.cluster.request? step.place = some request)
    (settled : Reconcile.isSettled request = true) : step.IsIdle := by
  cases takesPlace.course with
  | looks answer observed done => exact ⟨⟨answer, observed, done⟩, after_of_looks observed⟩
  | proceeds found rest present unsettled =>
    obtain rfl := Option.some.inj (stored.symm.trans present)
    simp [settled] at unsettled

end Reconciliation

namespace History

variable {config : ControllerConfig} {name : ResourceName} {first last : SharedState}
  {steps : List Reconciliation} {request : CertificateRequest}

/-- A settled request keeps all that this controller writes. -/
theorem ownPart_of_settled (history : History config name first steps last)
    (named : first.cluster.IsNamed) (stored : first.cluster.request? name = some request)
    (settled : Reconcile.isSettled request = true) :
    ∃ kept, last.cluster.request? name = some kept ∧ kept.ownPart = request.ownPart := by
  induction history with
  | start => exact ⟨request, stored, rfl⟩
  | drift history spares ih =>
      obtain ⟨kept, present, same⟩ := ih
      have spared := spares.2
      rw [present, Option.map_some] at spared
      obtain ⟨later, left, unchanged⟩ := Option.map_eq_some_iff.mp spared
      exact ⟨later, left, unchanged.trans same⟩
  | @reconcile _ step history takesPlace ih =>
      obtain ⟨kept, present, same⟩ := ih
      refine ⟨kept, ?_, same⟩
      by_cases here : name = step.place
      · have idle := takesPlace.isIdle (here ▸ present)
          ((CertificateRequest.isSettled_congr same).trans settled)
        rw [idle.unchanged, present]
      · rw [takesPlace.request?_after (history.isNamed named) here, present]

end History

/-- Once a request is terminal or meant for others, each reconciliation of it only reads it and is
done, however the run goes on, and nothing that this controller writes changes. At any time, a
reconciliation changes no request but its own. -/
theorem settled_request_absorbs {config : ControllerConfig} {name : ResourceName}
    {first current last : SharedState} {steps further : List Reconciliation}
    (history : History config name first steps current)
    (later : History config name current further last) (named : first.cluster.IsNamed)
    (single : ∀ request, first.cluster.request? name = some request → request.HasSingleReady) :
    (∀ request, current.cluster.request? name = some request →
      request.IsTerminal ∨ request.IsForeign →
        (∀ step ∈ further, step.place = name → step.IsIdle) ∧
        ∃ kept, last.cluster.request? name = some kept ∧ kept.ownPart = request.ownPart ∧
          (⟨name, last, [⟨.readRequest name.namespaceName name.name, .ok (some kept)⟩],
            .ok .none⟩ : Reconciliation).TakesPlace config) ∧
    ∀ step ∈ steps ++ further, ∀ other ≠ step.place,
      step.after.cluster.request? other = step.before.cluster.request? other := by
  have namedCurrent := history.isNamed named
  constructor
  · intro request stored finished
    have settled : Reconcile.isSettled request = true := by
      rcases finished with terminal | foreign
      · exact (history.hasSingleReady named single request stored).isSettled_of_isTerminal terminal
      · exact CertificateRequest.isSettled_of_isForeign foreign
    constructor
    · rintro step member rfl
      obtain ⟨earlier, between, rfl⟩ := List.append_of_mem member
      obtain ⟨before, takesPlace⟩ := later.at_step
      obtain ⟨kept, present, same⟩ := before.ownPart_of_settled namedCurrent stored settled
      exact takesPlace.isIdle present ((CertificateRequest.isSettled_congr same).trans settled)
    · obtain ⟨kept, present, same⟩ := later.ownPart_of_settled namedCurrent stored settled
      have stays := (CertificateRequest.isSettled_congr same).trans settled
      exact ⟨kept, present, same, Reconcile.returns_reconcile.mpr (.idle stays), present.symm,
        trivial⟩
  · intro step member other elsewhere
    rcases List.mem_append.mp member with early | late
    · obtain ⟨earlier, between, rfl⟩ := List.append_of_mem early
      obtain ⟨before, takesPlace⟩ := history.at_step
      exact takesPlace.request?_after (before.isNamed named) elsewhere
    · obtain ⟨earlier, between, rfl⟩ := List.append_of_mem late
      obtain ⟨before, takesPlace⟩ := later.at_step
      exact takesPlace.request?_after (before.isNamed namedCurrent) elsewhere

/-- The issued request is all that is left after the sample run. -/
def Sample.bare : SharedState := { cluster := { requests := [(Sample.place, Sample.issued)] } }

/-- The issued request is read again. -/
def Sample.again : Reconciliation :=
  ⟨Sample.place, Sample.bare, [⟨.readRequest "team" "web", .ok (some Sample.issued)⟩], .ok .none⟩

/-- The issued request stays as it is, even when its issuer is gone. -/
theorem sample_issued_absorbs :
    Sample.issued.IsTerminal ∧
      History {} Sample.place Sample.collected.after [Sample.again] Sample.bare ∧
      Sample.again.IsIdle ∧
      ∃ kept, Sample.bare.cluster.request? Sample.place = some kept ∧
        kept.ownPart = Sample.issued.ownPart := by
  have settled : Reconcile.isSettled Sample.issued = true := by decide
  have terminal : Sample.issued.IsTerminal := .inl (by decide)
  have empty : ({} : Cluster).IsNamed := Cluster.isNamed_of_nil rfl
  have spares : Sample.collected.after.Spares Sample.place Sample.bare :=
    ⟨empty.putRequest Sample.issued, rfl⟩
  have takesPlace : Sample.again.TakesPlace {} :=
    ⟨Reconcile.returns_reconcile.mpr (.idle settled), rfl, trivial⟩
  have later : History {} Sample.place Sample.collected.after [Sample.again] Sample.bare :=
    .reconcile (.drift .start spares) takesPlace
  obtain ⟨idle, kept, present, same, _⟩ := (settled_request_absorbs Sample.history later
    Sample.isNamed_first Sample.hasSingleReady_first).1 Sample.issued Sample.request?_collected
    (.inl terminal)
  exact ⟨terminal, later, idle _ (List.mem_singleton_self _) rfl, kept, present, same⟩

end Issuance
