import Mathlib.Data.List.Induction
import Issuance.Proofs.Reconcile.Projection

namespace Issuance

/-- A decision with the time at which it is made. -/
structure Decision where
  update : StatusUpdate
  stamp : String
  deriving DecidableEq, Repr

namespace StatusUpdate

/-- The certificate that a decision brings. -/
def issued? : StatusUpdate → Option IssuedCertificate
  | issued certificate => some certificate
  | _ => none

/-- The decision ends its request. -/
def isFailed (update : StatusUpdate) : Bool := update.reason == Condition.failedReason

end StatusUpdate

/-- The decisions are projected one after the other. -/
def projectAll (current : Option CertificateRequestStatus) (decisions : List Decision) :
    Option CertificateRequestStatus :=
  decisions.foldl (fun current decision => some (project current decision.update decision.stamp))
    current

namespace Decision

/-- The last decisions have one status, and the ones before them end with another one. -/
structure FinalRun (decisions earlier : List Decision) (first : Decision)
    (rest : List Decision) : Prop where
  whole : decisions = earlier ++ first :: rest
  same : ∀ decision ∈ rest, decision.update.status = first.update.status
  changed : ∀ decision, earlier.getLast? = some decision →
    decision.update.status ≠ first.update.status

end Decision

namespace CertificateRequestStatus

/-- The time that the first Ready condition records for a status. -/
def recordedTime? (status : CertificateRequestStatus) (ready : ConditionStatus) : Option String :=
  match Condition.findReady? status.conditions with
  | some condition => if condition.status = ready then condition.lastTransitionTime else none
  | none => none

/-- What decisions come to, of which only the last one may bring a certificate. The Ready condition
tells the last decision and when the run of its status began. The first failure is timed. -/
structure Concludes (before : CertificateRequestStatus) (decisions : List Decision)
    (last : Decision) (ready : Condition) (after : CertificateRequestStatus) : Prop where
  ended : decisions.getLast? = some last
  found : Condition.findReady? after.conditions = some ready
  status : ready.status = last.update.status
  reason : ready.reason = some last.update.reason
  message : ready.message = some last.update.message
  time : ∃ earlier first rest, Decision.FinalRun decisions earlier first rest ∧
    ready.lastTransitionTime = some
      ((if earlier = [] then before.recordedTime? first.update.status else none).getD first.stamp)
  failureTime : after.failureTime =
    before.failureTime.or ((decisions.find? (·.update.isFailed)).map (·.stamp))
  certificate : after.certificate =
    (last.update.issued?.map fun issued => Base64.encodeText issued.certificate).or
      before.certificate
  ca : after.ca =
    (last.update.issued?.map fun issued => Base64.encodeText issued.ca).or before.ca
  conditions : after.conditions =
    match before.conditions.findIdx? Condition.isReadyKind with
    | some place => before.conditions.set place ready
    | none => before.conditions ++ [ready]

end CertificateRequestStatus

namespace Condition

/-- A new Ready condition comes to the place of the first one or to the end. -/
theorem putReady_eq (ready : Condition) (conditions : List Condition) :
    putReady ready conditions =
      match conditions.findIdx? isReadyKind with
      | some place => conditions.set place ready
      | none => conditions ++ [ready] := by
  induction conditions with
  | nil => rfl
  | cons condition conditions ih =>
      by_cases first : condition.isReadyKind = true
      · simp [putReady, List.findIdx?_cons, first]
      · cases found : conditions.findIdx? isReadyKind <;>
          simp [putReady, List.findIdx?_cons, first, found, ih]

/-- A change of the status is timed anew. -/
theorem transitionTime_of_changed {previous : Condition} {status : ConditionStatus}
    (changed : previous.status ≠ status) (stamp : String) :
    transitionTime (some previous) status stamp = stamp := by
  simp [transitionTime, Option.filter_some, changed]

end Condition

namespace CertificateRequestStatus

variable {status : CertificateRequestStatus} (update : StatusUpdate) (stamp : String)

theorem transitionTime_eq (ready : ConditionStatus) :
    Condition.transitionTime (Condition.findReady? status.conditions) ready stamp =
      (status.recordedTime? ready).getD stamp := by
  unfold Condition.transitionTime recordedTime?
  cases Condition.findReady? status.conditions with
  | none => rfl
  | some condition => by_cases same : condition.status = ready <;> simp [Option.filter_some, same]

section Unissued

variable (unissued : status.isIssued = false)

include unissued

theorem conditions_apply : (status.apply update stamp).conditions =
    Condition.putReady (status.readyCondition update stamp) status.conditions := by
  cases update <;> simp [apply, unissued]

theorem failureTime_apply : (status.apply update stamp).failureTime =
    status.failureTime.or (if update.isFailed then some stamp else none) := by
  have pending : Condition.pendingReason ≠ Condition.failedReason := by decide
  have issued : Condition.issuedReason ≠ Condition.failedReason := by decide
  cases update <;>
    simp [apply, unissued, StatusUpdate.isFailed, StatusUpdate.reason, pending, issued]

theorem certificate_apply : (status.apply update stamp).certificate =
    (update.issued?.map fun issued => Base64.encodeText issued.certificate).or
      status.certificate := by
  cases update <;> simp [apply, unissued, StatusUpdate.issued?]

theorem ca_apply : (status.apply update stamp).ca =
    (update.issued?.map fun issued => Base64.encodeText issued.ca).or status.ca := by
  cases update <;> simp [apply, unissued, StatusUpdate.issued?]

end Unissued

end CertificateRequestStatus

section Projection

variable (current : Option CertificateRequestStatus) (decisions : List Decision)
  (decision : Decision)

variable {current}

end Projection

namespace Decision

variable {decisions earlier rest : List Decision} {first last next : Decision}

/-- The last decision has the status of its run. -/
theorem FinalRun.status_last (run : FinalRun decisions earlier first rest)
    (ended : decisions.getLast? = some last) : last.update.status = first.update.status := by
  rw [run.whole, List.getLast?_append, List.getLast?_cons, Option.some_or,
    Option.some.injEq] at ended
  cases final : rest.getLast? with
  | none => rw [← ended, final, Option.getD_none]
  | some decision =>
    rw [final, Option.getD_some] at ended
    rw [← ended]
    exact run.same decision (List.mem_of_getLast? final)

/-- A decision with the same status belongs to the run. -/
theorem FinalRun.concat (run : FinalRun decisions earlier first rest)
    (same : next.update.status = first.update.status) :
    FinalRun (decisions ++ [next]) earlier first (rest ++ [next]) where
  whole := by simp [run.whole]
  same := List.forall_mem_append.mpr ⟨run.same, List.forall_mem_singleton.mpr same⟩
  changed := run.changed

/-- A decision with another status starts a run. -/
theorem FinalRun.of_changed (ended : decisions.getLast? = some last)
    (changed : last.update.status ≠ next.update.status) :
    FinalRun (decisions ++ [next]) decisions next [] where
  whole := rfl
  same := List.forall_mem_nil _
  changed decision final := by
    obtain rfl := Option.some.inj (ended.symm.trans final)
    exact changed

end Decision

namespace CertificateRequestStatus

variable {before middle : CertificateRequestStatus} {decisions : List Decision}
  {last next : Decision} {ready : Condition}

/-- One more decision, where the ones before it have left all but the Ready condition and the time
of a failure as it was. -/
theorem Concludes.of_unissued (unissued : middle.isIssued = false)
    (placed : ∀ ready, Condition.putReady ready middle.conditions =
      Condition.putReady ready before.conditions)
    (certificate : middle.certificate = before.certificate) (ca : middle.ca = before.ca)
    (failureTime : middle.failureTime =
      before.failureTime.or ((decisions.find? (·.update.isFailed)).map (·.stamp)))
    (time : ∃ earlier first rest, Decision.FinalRun (decisions ++ [next]) earlier first rest ∧
      Condition.transitionTime (Condition.findReady? middle.conditions) next.update.status
          next.stamp =
        (if earlier = [] then before.recordedTime? first.update.status else none).getD
          first.stamp) :
    before.Concludes (decisions ++ [next]) next
      (middle.readyCondition next.update next.stamp) (middle.apply next.update next.stamp) := by
  have conditions := conditions_apply next.update next.stamp unissued
  have kind := middle.isReadyKind_readyCondition next.update next.stamp
  constructor
  case ended => exact List.getLast?_concat
  case found => rw [conditions, Condition.findReady?_putReady kind]
  case status => rfl
  case reason => rfl
  case message => rfl
  case time =>
    obtain ⟨earlier, first, rest, run, same⟩ := time
    exact ⟨earlier, first, rest, run, congrArg some same⟩
  case failureTime =>
    rw [failureTime_apply _ _ unissued, failureTime, List.find?_append, Option.or_assoc]
    cases failed : next.update.isFailed <;> simp [failed]
  case certificate => rw [certificate_apply _ _ unissued, certificate]
  case ca => rw [ca_apply _ _ unissued, ca]
  case conditions => rw [conditions, placed, Condition.putReady_eq]

theorem Concludes.start (unissued : before.isIssued = false) (first : Decision) :
    before.Concludes ([] ++ [first]) first (before.readyCondition first.update first.stamp)
      (before.apply first.update first.stamp) := by
  refine .of_unissued unissued (fun _ => rfl) rfl rfl (by simp) ⟨[], first, [], ?_, ?_⟩
  · exact ⟨rfl, List.forall_mem_nil _, nofun⟩
  · rw [if_pos rfl, transitionTime_eq]

theorem Concludes.concat (concludes : before.Concludes decisions last ready middle)
    (unissued : middle.isIssued = false) (bare : last.update.issued? = none) (next : Decision) :
    before.Concludes (decisions ++ [next]) next
      (middle.readyCondition next.update next.stamp) (middle.apply next.update next.stamp) := by
  have kind : ready.isReadyKind = true := List.find?_some concludes.found
  have placed (next : Condition) : Condition.putReady next middle.conditions =
      Condition.putReady next before.conditions := by
    rw [concludes.conditions, ← Condition.putReady_eq, Condition.putReady_putReady kind]
  have certificate : middle.certificate = before.certificate := by
    rw [concludes.certificate, bare, Option.map_none, Option.none_or]
  have ca : middle.ca = before.ca := by
    rw [concludes.ca, bare, Option.map_none, Option.none_or]
  refine .of_unissued unissued placed certificate ca concludes.failureTime ?_
  obtain ⟨earlier, first, rest, run, time⟩ := concludes.time
  have running := concludes.status.trans (run.status_last concludes.ended)
  rw [concludes.found]
  by_cases same : first.update.status = next.update.status
  · refine ⟨earlier, first, rest ++ [next], run.concat same.symm, ?_⟩
    exact Condition.transitionTime_of_same (running.trans same) time next.stamp
  · have changed : ready.status ≠ next.update.status := running.trans_ne same
    have begun : decisions ≠ [] := by
      rintro rfl
      cases concludes.ended
    refine ⟨decisions, next, [], .of_changed concludes.ended (concludes.status ▸ changed), ?_⟩
    rw [Condition.transitionTime_of_changed changed, if_neg begun, Option.getD_none]

end CertificateRequestStatus

namespace Sample

/-- A request waits, fails and is issued all the same, and then it waits in vain. -/
def turns : List Decision :=
  [⟨.pending "issuing", "second"⟩, ⟨.failed "denied", "third"⟩, ⟨.issued ⟨[97], [98]⟩, "fourth"⟩,
    ⟨.pending "issuing", "fifth"⟩]

end Sample

end Issuance
