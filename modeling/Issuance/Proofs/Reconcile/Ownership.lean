import Issuance.Cluster.Api
import Issuance.Proofs.Reconcile.Projection

namespace Issuance

namespace CertificateRequestStatus

/-- Two statuses differ at most in the conditions of others. -/
structure SharesOwn (first second : CertificateRequestStatus) : Prop where
  ready : first.conditions.filter Condition.isReadyKind =
    second.conditions.filter Condition.isReadyKind
  certificate : first.certificate = second.certificate
  ca : first.ca = second.ca
  failureTime : first.failureTime = second.failureTime

variable {first second : CertificateRequestStatus}

theorem SharesOwn.owned_eq (shares : first.SharesOwn second) : first.owned = second.owned := by
  simp [owned, shares.ready, shares.certificate, shares.ca, shares.failureTime]

/-- The body of a write shows nothing but the owned part. -/
theorem statusPatch_congr (same : first.owned = second.owned) :
    ClusterApi.statusPatch first = ClusterApi.statusPatch second := by
  simp [ClusterApi.statusPatch, same]

end CertificateRequestStatus

/-- The next status is found by way of the owned part as well, and what is sent of it, to whatever
request, is the same for statuses that differ in the conditions of others. -/
structure RespectsOwnership (next : Option CertificateRequestStatus → CertificateRequestStatus) :
    Prop where
  commutes : ∀ current, (next current).owned = next (current.map .owned)
  body : ∀ first second : Option CertificateRequestStatus,
    (first.getD {}).SharesOwn (second.getD {}) →
      ClusterApi.statusPatch (next first) = ClusterApi.statusPatch (next second)
  call : ∀ first second : Option CertificateRequestStatus,
    (first.getD {}).SharesOwn (second.getD {}) → ∀ fieldManager request,
      ClusterApi.writeStatus fieldManager request (next first) =
        ClusterApi.writeStatus fieldManager request (next second)

theorem RespectsOwnership.of_commutes
    {next : Option CertificateRequestStatus → CertificateRequestStatus}
    (commutes : ∀ current, (next current).owned = next (current.map .owned))
    (empty : ∀ current, next current = next (some (current.getD {}))) :
    RespectsOwnership next := by
  have owned (first second : Option CertificateRequestStatus)
      (shares : (first.getD {}).SharesOwn (second.getD {})) :
      (next first).owned = (next second).owned := by
    rw [empty first, empty second, commutes, commutes, Option.map_some, Option.map_some,
      shares.owned_eq]
  refine ⟨commutes, fun first second shares => ?_, fun first second shares manager request => ?_⟩
  · exact CertificateRequestStatus.statusPatch_congr (owned first second shares)
  · rw [ClusterApi.writeStatus, ClusterApi.writeStatus,
      CertificateRequestStatus.statusPatch_congr (owned first second shares)]

theorem amended_owned (current : Option CertificateRequestStatus) (amendment : Amendment)
    (stamp : String) :
    (amended current amendment stamp).owned = amended (current.map .owned) amendment stamp := by
  rw [amended, CertificateRequestStatus.owned_amend]
  cases current <;> rfl

/-- Amendments, and so all decisions, see and send the owned part of a status only, and there is no
more to own in an owned part. -/
theorem projection_respects_ownership :
    (∀ amendment stamp, RespectsOwnership (amended · amendment stamp)) ∧
      (∀ update stamp, RespectsOwnership (project · update stamp)) ∧
      ∀ status : CertificateRequestStatus, status.owned.owned = status.owned := by
  have amends (amendment : Amendment) (stamp : String) :
      RespectsOwnership (amended · amendment stamp) :=
    .of_commutes (fun current => amended_owned current amendment stamp) fun _ => rfl
  refine ⟨amends, fun update stamp => ?_, CertificateRequestStatus.owned_owned⟩
  simpa only [amended_amendment] using amends update.amendment stamp

namespace Sample

/-- The status of a request that waits. -/
def waitingStatus : CertificateRequestStatus :=
  { conditions := [.ready .false Condition.pendingReason "issuing"] }

/-- The same status, with an approval before its Ready condition. -/
def approvedStatus : CertificateRequestStatus :=
  { conditions :=
      [{ Condition.ready .true "policy" "approved" with kind := "Approved" },
        .ready .false Condition.pendingReason "issuing"] }

end Sample

/-- An approval does not show in what is sent after it. -/
theorem sample_approval_unsent :
    Sample.approvedStatus ≠ Sample.waitingStatus ∧
      ClusterApi.statusPatch
          (project (some Sample.approvedStatus) (.failed "no such certificate") "now") =
        ClusterApi.statusPatch
          (project (some Sample.waitingStatus) (.failed "no such certificate") "now") := by
  have shares : Sample.approvedStatus.SharesOwn Sample.waitingStatus := ⟨rfl, rfl, rfl, rfl⟩
  have respects := projection_respects_ownership.2.1 (.failed "no such certificate") "now"
  exact ⟨by decide, respects.body (some _) (some _) shares⟩

end Issuance
