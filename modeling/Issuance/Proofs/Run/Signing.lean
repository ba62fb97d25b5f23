import Mathlib.Algebra.Ring.Nat
import Mathlib.Data.Bool.Basic
import Issuance.Proofs.Reconcile.Orders
import Issuance.Proofs.Run.History

namespace Issuance

namespace SharedState

/-- The identifier that is stored on the request of a name. -/
def arn? (shared : SharedState) (name : ResourceName) : Option String :=
  (shared.cluster.request? name).bind CertificateRequest.certificateArn?

/-- The request of a name still waits for its order. -/
def awaitsOrder (shared : SharedState) (name : ResourceName) : Bool :=
  (shared.cluster.request? name).any CertificateRequest.awaitsOrder

end SharedState

namespace Reconciliation

/-- The number of orders for the request of a name. -/
def orders (name : ResourceName) (step : Reconciliation) : Nat :=
  step.trace.countP (·.orders name)

/-- The number of writes to the request of a name that are lost after it was ordered. -/
def lostWrites (name : ResourceName) (step : Reconciliation) : Nat :=
  (step.trace.dropWhile fun observation => !observation.orders name).countP (·.losesWrite name)

end Reconciliation

/-- The identifier was there from the start, or a reconciliation has stored it. -/
def IsRecorded (name : ResourceName) (first : SharedState) (steps : List Reconciliation)
    (arn : String) : Prop :=
  first.arn? name = some arn ∨
    ∃ step ∈ steps, ∃ observation ∈ step.trace, observation.Records name arn

namespace Reconciliation.TakesPlace

variable {config : ControllerConfig} {step : Reconciliation} {name : ResourceName}
  (takesPlace : step.TakesPlace config) (named : step.before.cluster.IsNamed)

include takesPlace

/-- After the request is read, everything suits the stored one. -/
theorem suits {observation : Observation} (member : observation ∈ step.trace) :
    (∃ answer, observation =
        ⟨.readRequest step.place.namespaceName step.place.name, answer⟩) ∨
      ∃ request, step.before.cluster.request? step.place = some request ∧
        observation.Suits request := by
  cases takesPlace.course with
  | looks answer observed =>
    exact .inl ⟨answer, List.mem_singleton.mp (observed ▸ member)⟩
  | proceeds request rest stored unsettled observed proceeds =>
    rw [observed] at member
    rcases List.mem_cons.mp member with rfl | later
    · exact .inl ⟨_, rfl⟩
    · exact .inr ⟨request, stored, proceeds.suits observation later⟩

include named

/-- Nothing is ordered or recorded for a request with an identifier. -/
theorem arn?_eq_none {observation : Observation} (member : observation ∈ step.trace)
    (done : observation.orders name = true ∨ observation.annotates name = true) :
    step.place = name ∧ step.before.arn? name = none := by
  rcases takesPlace.suits member with ⟨answer, rfl⟩ | ⟨request, stored, suits⟩
  · simp [Observation.orders, Observation.annotates] at done
  · obtain ⟨rfl, unordered⟩ := suits.unordered done
    have placed := named _ _ stored
    rw [← placed] at stored
    exact ⟨placed.symm, by simp [SharedState.arn?, stored, unordered]⟩

/-- A certificate is collected by the stored identifier only. -/
theorem arn?_eq_some {observation : Observation} {arn : String}
    (member : observation ∈ step.trace) (collects : observation.Collects name arn) :
    step.before.arn? name = some arn := by
  rcases takesPlace.suits member with ⟨answer, rfl⟩ | ⟨request, stored, suits⟩
  · exact absurd collects id
  · obtain ⟨rfl, found⟩ := suits.collected collects
    rw [← named _ _ stored] at stored
    simp [SharedState.arn?, stored, found]

/-- A stored identifier stays, and a new one comes with its order. -/
theorem arn?_after (filled : ∀ observation ∈ step.trace, observation.IsFilled) (arn : String) :
    step.after.arn? name = some arn ↔
      step.before.arn? name = some arn ∨
        ∃ observation ∈ step.trace, observation.Records name arn := by
  by_cases here : name = step.place
  case neg =>
    have unrecorded : ¬∃ observation ∈ step.trace, observation.Records name arn := by
      rintro ⟨observation, member, recorded⟩
      exact here (takesPlace.arn?_eq_none named member (.inr recorded.annotates)).1.symm
    rw [SharedState.arn?, takesPlace.request?_after named here]
    simp [SharedState.arn?, unrecorded]
  case pos =>
    subst here
    cases takesPlace.course with
    | looks answer observed =>
      rw [after_of_looks observed, observed]
      simp [Observation.Records]
    | proceeds request rest stored unsettled observed proceeds =>
      rw [observed] at filled
      have placed := named _ _ stored
      have recorded := proceeds.certificateArn?_eq_some placed
        (fun observation member => filled observation (List.mem_cons_of_mem _ member)) arn
      simp only [SharedState.arn?, request?_after_of_proceeds named stored observed proceeds,
        stored, Option.bind_some, recorded, observed]
      simp [Observation.Records]

/-- Each order ends the waiting for one, or a write is lost after it. -/
theorem orders_le (filled : ∀ observation ∈ step.trace, observation.IsFilled)
    (single : ∀ request, step.before.cluster.request? name = some request →
      request.HasSingleReady) :
    step.orders name + (step.after.awaitsOrder name).toNat ≤
      (step.before.awaitsOrder name).toNat + step.lostWrites name := by
  by_cases here : name = step.place
  case neg =>
    have unordered : step.orders name = 0 := by
      refine List.countP_eq_zero.mpr fun observation member ordered => ?_
      exact here (takesPlace.arn?_eq_none named member (.inl ordered)).1.symm
    have same : step.after.awaitsOrder name = step.before.awaitsOrder name := by
      rw [SharedState.awaitsOrder, takesPlace.request?_after named here]
      rfl
    rw [unordered, same]
    omega
  case pos =>
    subst here
    cases takesPlace.course with
    | looks answer observed =>
      have unordered : step.orders step.place = 0 := by
        rw [orders, observed]
        rfl
      rw [after_of_looks observed]
      omega
    | proceeds request rest stored unsettled observed proceeds =>
      rw [observed] at filled
      have placed := named _ _ stored
      have filledRest := fun observation member =>
        filled observation (List.mem_cons_of_mem _ member)
      have counted : step.orders step.place = rest.countP (·.orders step.place) := by
        rw [orders, observed, List.countP_cons_of_neg (by simp [Observation.orders])]
      have lost : step.lostWrites step.place =
          (rest.dropWhile fun observation => !observation.orders step.place).countP
            (·.losesWrite step.place) := by
        rw [lostWrites, observed, List.dropWhile_cons_of_pos (by simp [Observation.orders])]
      have awaited : step.before.awaitsOrder step.place = request.awaitsOrder := by
        simp [SharedState.awaitsOrder, stored]
      have awaits : step.after.awaitsOrder step.place =
          (Observation.rewriteAll rest request).awaitsOrder := by
        simp [SharedState.awaitsOrder, request?_after_of_proceeds named stored observed proceeds]
      rw [counted, lost, awaited, awaits]
      have cases := proceeds.orders_cases placed (single request stored) unsettled filledRest
      rcases cases with unordered | ⟨ordered, waited, ended | missed⟩
      · have kept := Bool.toNat_le_toNat
          (proceeds.awaitsOrder_of_rewriteAll placed unsettled filledRest)
        omega
      · rw [ordered, waited, ended]
        exact Nat.le_add_right _ _
      · have atMost := Bool.toNat_le (Observation.rewriteAll rest request).awaitsOrder
        rw [ordered, waited, Bool.toNat_true]
        omega

end Reconciliation.TakesPlace

namespace SharedState.Spares

variable {name : ResourceName} {before after : SharedState} (spares : before.Spares name after)

include spares

theorem arn?_eq : after.arn? name = before.arn? name := by
  have same := spares.map_request? fun _ _ => CertificateRequest.certificateArn?_congr
  have joined := congrArg (fun found => found.bind id) same
  rwa [Option.bind_map, Option.bind_map] at joined

theorem awaitsOrder_eq : after.awaitsOrder name = before.awaitsOrder name := by
  have same := spares.map_request? fun later request kept =>
    show later.awaitsOrder = request.awaitsOrder by
      rw [CertificateRequest.awaitsOrder, CertificateRequest.isSettled_congr kept,
        CertificateRequest.certificateArn?_congr kept]
      rfl
  simpa [awaitsOrder, Option.any_map] using congrArg (Option.any id) same

end SharedState.Spares

theorem isRecorded_append {name : ResourceName} {first : SharedState}
    {steps : List Reconciliation} {step : Reconciliation} {arn : String} :
    IsRecorded name first (steps ++ [step]) arn ↔
      IsRecorded name first steps arn ∨
        ∃ observation ∈ step.trace, observation.Records name arn := by
  simp [IsRecorded, or_assoc, or_and_right, exists_or]

namespace History

variable {config : ControllerConfig} {name : ResourceName} {first last : SharedState}
  {steps : List Reconciliation} (history : History config name first steps last)
  (named : first.cluster.IsNamed)
  (filled : ∀ step ∈ steps, ∀ observation ∈ step.trace, observation.IsFilled)

include history named filled

/-- The stored identifier is the recorded one. -/
theorem arn?_eq_some (arn : String) :
    last.arn? name = some arn ↔ IsRecorded name first steps arn := by
  induction history with
  | start => simp [IsRecorded]
  | drift history spares ih => rw [spares.arn?_eq, ih filled]
  | reconcile history takesPlace ih =>
      have filledStep := filled _ (List.mem_append_right _ (List.mem_singleton_self _))
      rw [takesPlace.arn?_after (history.isNamed named) filledStep,
        ih fun step member => filled step (List.mem_append_left _ member), isRecorded_append]

/-- What a run orders is paid for by the request that waits at its start and by lost writes. -/
theorem orders_le
    (single : ∀ request, first.cluster.request? name = some request → request.HasSingleReady) :
    (steps.map (·.orders name)).sum + (last.awaitsOrder name).toNat ≤
      (first.awaitsOrder name).toNat + (steps.map (·.lostWrites name)).sum := by
  induction history with
  | start => simp
  | drift history spares ih =>
      rw [spares.awaitsOrder_eq]
      exact ih filled
  | @reconcile steps step history takesPlace ih =>
      have filledStep := filled _ (List.mem_append_right _ (List.mem_singleton_self step))
      have before := ih fun earlier member => filled earlier (List.mem_append_left _ member)
      have here := takesPlace.orders_le (history.isNamed named) filledStep
        (history.hasSingleReady named single)
      simp only [List.map_append, List.map_cons, List.map_nil, List.sum_append_nat, List.sum_cons,
        List.sum_nil]
      omega

end History

/-- Each order after the first one follows a write that was lost after an order. Once an identifier
is recorded, no later reconciliation orders or records anything, and certificates are collected by
that identifier only. -/
theorem certificate_ordered_once {config : ControllerConfig} {name : ResourceName}
    {first last : SharedState} {steps : List Reconciliation}
    (history : History config name first steps last) (named : first.cluster.IsNamed)
    (single : ∀ request, first.cluster.request? name = some request → request.HasSingleReady)
    (filled : ∀ step ∈ steps, ∀ observation ∈ step.trace, observation.IsFilled) :
    (steps.map (·.orders name)).sum ≤ 1 + (steps.map (·.lostWrites name)).sum ∧
      ∀ earlier step later, steps = earlier ++ step :: later →
        (∀ arn, IsRecorded name first earlier arn → ∀ observation ∈ step.trace,
          observation.orders name = false ∧ observation.annotates name = false) ∧
        ∀ observation ∈ step.trace, ∀ arn, observation.Collects name arn →
          step.before.arn? name = some arn ∧
            ∀ recorded, IsRecorded name first earlier recorded ↔ recorded = arn := by
  constructor
  · have paid := history.orders_le named filled single
    have atMost := Bool.toNat_le (first.awaitsOrder name)
    omega
  · rintro earlier step later rfl
    obtain ⟨before, takesPlace⟩ := history.at_step
    have stored (arn : String) := before.arn?_eq_some named
      (fun early member => filled early (List.mem_append_left _ member)) arn
    have namedBefore := before.isNamed named
    constructor
    · intro arn recorded observation member
      have found := (stored arn).mpr recorded
      constructor
      · by_contra ordered
        have missing := takesPlace.arn?_eq_none namedBefore member
          (.inl (Bool.eq_true_of_not_eq_false ordered))
        simp [missing.2] at found
      · by_contra annotated
        have missing := takesPlace.arn?_eq_none namedBefore member
          (.inr (Bool.eq_true_of_not_eq_false annotated))
        simp [missing.2] at found
    · intro observation member arn collects
      have found := takesPlace.arn?_eq_some namedBefore member collects
      refine ⟨found, fun recorded => ?_⟩
      rw [← stored recorded, found, Option.some.injEq, eq_comm]

/-- The sample run orders twice, because its first identifier was lost. -/
theorem sample_ordered_twice :
    History {} Sample.place Sample.first Sample.steps Sample.collected.after ∧
      (Sample.steps.map (·.orders Sample.place)).sum = 2 ∧
      (Sample.steps.map (·.orders Sample.place)).sum ≤
        1 + (Sample.steps.map (·.lostWrites Sample.place)).sum ∧
      IsRecorded Sample.place Sample.first [Sample.unrecorded, Sample.unwritten] "arn:2" := by
  have filled : ∀ step ∈ Sample.steps, ∀ observation ∈ step.trace, observation.IsFilled := by
    simp [Sample.steps, Sample.unrecorded, Sample.unwritten, Sample.collected,
      Sample.reconciliation, Sample.built, Sample.kept, Observation.IsFilled]
  have once := certificate_ordered_once Sample.history Sample.isNamed_first
    Sample.hasSingleReady_first filled
  have collects : Observation.Collects Sample.place "arn:2"
      ⟨.collect Sample.provisioner Sample.ordered "arn:2", .ok Sample.certificate⟩ := ⟨rfl, rfl⟩
  have recorded := ((once.2 [Sample.unrecorded, Sample.unwritten] Sample.collected [] rfl).2 _
    (by simp [Sample.collected, Sample.reconciliation]) "arn:2" collects).2
  exact ⟨Sample.history, rfl, once.1, (recorded "arn:2").mpr rfl⟩

end Issuance
