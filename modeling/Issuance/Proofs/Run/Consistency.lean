import Issuance.Proofs.Encoding.Base64
import Issuance.Proofs.Run.History

namespace Issuance

/-- The text stands for some bytes. -/
def Base64.IsPayload (text : Option String) : Prop :=
  ∃ written bytes, text = some written ∧ decodeText written = .ok bytes ∧ bytes ≠ []

namespace CertificateRequestStatus

/-- Nothing of the status comes from this controller. -/
structure IsFresh (status : CertificateRequestStatus) : Prop where
  conditions : ∀ condition ∈ status.conditions, condition.isReadyKind = false
  certificate : status.certificate = none
  ca : status.ca = none
  failureTime : status.failureTime = none

/-- The Ready condition is pending, failed or issued. A certificate and its root are there when it
is issued, and a failure has a time. -/
structure IsConsistent (status : CertificateRequestStatus) : Prop where
  single : (status.conditions.filter Condition.isReadyKind).length ≤ 1
  known : ∀ condition ∈ status.conditions, condition.isReadyKind = true →
    condition.IsReady .false Condition.pendingReason ∨
      condition.IsReady .false Condition.failedReason ∨
      condition.IsReady .true Condition.issuedReason
  issued : status.Says .true Condition.issuedReason →
    Base64.IsPayload status.certificate ∧ Base64.IsPayload status.ca
  unissued : ¬status.Says .true Condition.issuedReason →
    status.certificate = none ∧ status.ca = none
  failed : status.failureTime.isSome = true ↔ status.Says .false Condition.failedReason

/-- The statuses that decisions lead to, without the conditions of others. -/
inductive IsDecided : CertificateRequestStatus → Prop where
  | fresh : IsDecided {}
  | pending {ready : Condition} (stated : ready.IsReady .false Condition.pendingReason) :
      IsDecided { conditions := [ready] }
  | failed {ready : Condition} (stated : ready.IsReady .false Condition.failedReason)
      (time : String) : IsDecided { conditions := [ready], failureTime := some time }
  | issued {ready : Condition} (stated : ready.IsReady .true Condition.issuedReason)
      {certificate ca : List UInt8} (filled : certificate ≠ []) (rooted : ca ≠ []) :
      IsDecided
        { conditions := [ready]
          certificate := some (Base64.encodeText certificate)
          ca := some (Base64.encodeText ca) }

variable {status : CertificateRequestStatus}

theorem owned_of_isFresh (fresh : status.IsFresh) : status.owned = {} := by
  have empty : status.conditions.filter Condition.isReadyKind = [] := by
    refine List.filter_eq_nil_iff.mpr fun condition member => ?_
    simp [fresh.conditions condition member]
  rw [owned, empty, fresh.certificate, fresh.ca, fresh.failureTime]

/-- A status is consistent when the part that this controller writes is consistent. -/
theorem IsConsistent.of_owned (consistent : status.owned.IsConsistent) : status.IsConsistent where
  single := by simpa [owned, List.filter_filter] using consistent.single
  known condition member kind :=
    consistent.known condition (List.mem_filter.mpr ⟨member, kind⟩) kind
  issued stated := consistent.issued (says_owned.mpr stated)
  unissued silent := consistent.unissued fun stated => silent (says_owned.mp stated)
  failed := by
    rw [← says_owned]
    exact consistent.failed

theorem says_single {ready : Condition} (alone : status.conditions = [ready])
    {value : ConditionStatus} {reason : String} :
    status.Says value reason ↔ ready.IsReady value reason := by
  simp [Says, alone]

/-- What a single Ready condition says, it says of the whole status. -/
theorem IsConsistent.of_single {ready : Condition} (alone : status.conditions = [ready])
    (known : ready.IsReady .false Condition.pendingReason ∨
      ready.IsReady .false Condition.failedReason ∨ ready.IsReady .true Condition.issuedReason)
    (issued : ready.IsReady .true Condition.issuedReason →
      Base64.IsPayload status.certificate ∧ Base64.IsPayload status.ca)
    (unissued : ¬ready.IsReady .true Condition.issuedReason →
      status.certificate = none ∧ status.ca = none)
    (failed : status.failureTime.isSome = true ↔ ready.IsReady .false Condition.failedReason) :
    status.IsConsistent where
  single := by
    rw [alone]
    exact List.length_filter_le _ _
  known condition member _ := by
    rw [alone, List.mem_singleton] at member
    exact member ▸ known
  issued stated := issued ((says_single alone).mp stated)
  unissued silent := unissued fun stated => silent ((says_single alone).mpr stated)
  failed := by rw [failed, says_single alone]

/-- Encoded bytes are a payload when there are some. -/
theorem isPayload_encodeText {bytes : List UInt8} (filled : bytes ≠ []) :
    Base64.IsPayload (some (Base64.encodeText bytes)) :=
  ⟨_, bytes, rfl, Base64.decodeText_encodeText bytes, filled⟩

theorem IsDecided.isConsistent (decided : status.IsDecided) : status.IsConsistent := by
  have reasons : Condition.pendingReason ≠ Condition.failedReason := by decide
  cases decided with
  | fresh => exact ⟨Nat.zero_le 1, nofun, nofun, fun _ => ⟨rfl, rfl⟩, ⟨nofun, nofun⟩⟩
  | pending stated =>
    refine .of_single rfl (.inl stated) ?_ (fun _ => ⟨rfl, rfl⟩) ⟨nofun, fun failed => ?_⟩
    · intro issued
      cases stated.2.1.symm.trans issued.2.1
    · exact absurd (Option.some.inj (stated.2.2.symm.trans failed.2.2)) reasons
  | failed stated time =>
    refine .of_single rfl (.inr (.inl stated)) ?_ (fun _ => ⟨rfl, rfl⟩)
      ⟨fun _ => stated, fun _ => rfl⟩
    intro issued
    cases stated.2.1.symm.trans issued.2.1
  | issued stated filled rooted =>
    refine .of_single rfl (.inr (.inr stated)) ?_ (fun silent => absurd stated silent) ⟨nofun, ?_⟩
    · exact fun _ => ⟨isPayload_encodeText filled, isPayload_encodeText rooted⟩
    · intro failed
      cases stated.2.1.symm.trans failed.2.1

end CertificateRequestStatus

namespace Reconcile

/-- Only a certificate with its root is issued. -/
theorem Decides.filled {config : ControllerConfig} {request : CertificateRequest}
    {trace : List Observation} {issued : IssuedCertificate} {decided : Outcome}
    (decides : Decides config request trace (.issued issued) decided) :
    issued.certificate ≠ [] ∧ issued.ca ≠ [] := by
  cases decides with
  | issued equips ordered certificate ca => exact ⟨certificate, ca⟩

end Reconcile

namespace CertificateRequest

variable {request : CertificateRequest}

theorem hasSingleReady_of_isDecided (decided : request.ownStatus.IsDecided) :
    request.HasSingleReady := by
  rw [HasSingleReady]
  generalize request.ownStatus = status at decided ⊢
  cases decided <;> simp

/-- A request that is not settled has neither a certificate nor a failure. -/
theorem unsettled_eq (decided : request.ownStatus.IsDecided)
    (unsettled : Reconcile.isSettled request = false) :
    request.ownStatus = { conditions := request.ownStatus.conditions } := by
  have unissued := isIssued_eq_false unsettled
  have unfailed := isFailed_eq_false unsettled
  rw [isIssued, hasReady, readyCondition?_eq] at unissued
  rw [isFailed, hasReady, readyCondition?_eq] at unfailed
  generalize request.ownStatus = status at decided unissued unfailed ⊢
  cases decided with
  | fresh => rfl
  | pending stated => rfl
  | failed stated time => simp [Condition.findReady?, stated.1, stated.2] at unfailed
  | issued stated filled rooted => simp [Condition.findReady?, stated.1, stated.2] at unissued

/-- Each decision about an unsettled request leads to a status of a decision. -/
theorem isDecided_apply {config : ControllerConfig} {trace : List Observation}
    {update : StatusUpdate} {outcome : Reconcile.Outcome} {stamp : String}
    (decided : request.ownStatus.IsDecided) (unsettled : Reconcile.isSettled request = false)
    (decides : Reconcile.Decides config request trace update outcome) :
    (request.ownStatus.apply update stamp).IsDecided := by
  have single := hasSingleReady_of_isDecided decided
  have unissued : request.ownStatus.isIssued = false := by
    rw [single.isIssued_ownStatus]
    exact isIssued_eq_false unsettled
  have stated := request.ownStatus.isReady_readyCondition update stamp
  have bare := unsettled_eq decided unsettled
  rw [CertificateRequestStatus.apply, unissued, single.putReady]
  generalize request.ownStatus.readyCondition update stamp = ready at stated
  rw [bare]
  cases update with
  | pending message => exact .pending stated
  | failed message => exact .failed stated stamp
  | issued issued => exact .issued stated decides.filled.1 decides.filled.2

end CertificateRequest

/-- However a run goes on from a fresh status, the stored status stays consistent. -/
theorem status_stays_consistent {config : ControllerConfig} {name : ResourceName}
    {first last : SharedState} {steps : List Reconciliation}
    (history : History config name first steps last) (named : first.cluster.IsNamed)
    (fresh : ∀ request status, first.cluster.request? name = some request →
      request.status = some status → status.IsFresh) :
    ∀ request, last.cluster.request? name = some request →
      (request.status.getD {}).IsConsistent := by
  have begun request (stored : first.cluster.request? name = some request) :
      request.ownStatus.IsDecided := by
    cases found : request.status with
    | none =>
      rw [CertificateRequest.ownStatus, found]
      exact .fresh
    | some status =>
      have empty := CertificateRequestStatus.owned_of_isFresh (fresh request status stored found)
      rw [CertificateRequest.ownStatus, found, Option.getD_some, empty]
      exact .fresh
  have decided := history.ownStatus_invariant named CertificateRequestStatus.IsDecided
    (fun request before update decided stamp unsettled decides reached =>
      CertificateRequest.isDecided_apply reached unsettled decides) begun
  intro request stored
  exact .of_owned (decided request stored).isConsistent

/-- The sample run ends with a certificate in a consistent status. -/
theorem sample_issued_consistent :
    History {} Sample.place Sample.first Sample.steps Sample.collected.after ∧
      Sample.collected.after.cluster.request? Sample.place = some Sample.issued ∧
      (Sample.issued.status.getD {}).Says .true Condition.issuedReason ∧
      (Sample.issued.status.getD {}).IsConsistent := by
  have fresh request status (present : Sample.first.cluster.request? Sample.place = some request)
      (found : request.status = some status) : status.IsFresh := by
    rw [Sample.request?_first present] at found
    cases found
  refine ⟨Sample.history, Sample.request?_collected, by decide, ?_⟩
  exact status_stays_consistent Sample.history Sample.isNamed_first fresh _
    Sample.request?_collected

end Issuance
