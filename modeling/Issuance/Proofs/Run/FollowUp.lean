import Issuance.Proofs.Reconcile.Orders
import Issuance.Proofs.Retry.Independence
import Issuance.Proofs.Run.Absorption
import Issuance.Proofs.Run.Ending
import Issuance.Rehearsal.Dispatch

namespace Issuance

/-- A delay of any length leads to another look. -/
@[simp] theorem Requeue.isRequeue_delayed (delay : Span) : (delayed delay).isRequeue = true := by
  unfold delayed
  split
  · rfl
  · rfl

namespace SharedState

/-- Nothing is left to do for the request of a name. -/
inductive IsDone (shared : SharedState) (name : ResourceName) : Prop where
  | absent (missing : shared.cluster.request? name = none)
  | foreign {request : CertificateRequest} (stored : shared.cluster.request? name = some request)
      (foreign : request.IsForeign)
  | issued {request : CertificateRequest} (stored : shared.cluster.request? name = some request)
      (issued : request.isIssued = true)
  | failed {request : CertificateRequest} (stored : shared.cluster.request? name = some request)
      (failed : request.isFailed = true)

/-- The certificate of the request of a name is ordered, and the request is pending. -/
def IsOrdered (shared : SharedState) (name : ResourceName) : Prop :=
  ∃ request arn, shared.cluster.request? name = some request ∧
    request.metadata.annotation? CertificateRequest.arnKey = some arn ∧ arn ≠ "" ∧
    request.hasReady .false Condition.pendingReason = true

variable {shared : SharedState} {name : ResourceName} {request : CertificateRequest}

/-- A request that is left alone is meant for others, or it is finished. -/
theorem isDone_of_isSettled (stored : shared.cluster.request? name = some request)
    (settled : Reconcile.isSettled request = true) : shared.IsDone name := by
  simp only [Reconcile.isSettled, Bool.or_eq_true, Bool.not_eq_true'] at settled
  rcases settled with (others | issued) | failed
  · unfold CertificateRequest.isOurs at others
    split at others
    · cases others
    · next group named =>
      have different : group ≠ "" ∧ group ≠ CertificateRequest.issuerGroup := by
        simpa using others
      exact .foreign stored ⟨group, named, different⟩
  · exact .issued stored issued
  · exact .failed stored failed

end SharedState

namespace Reconcile

variable {config : ControllerConfig} {request : CertificateRequest} {trace : List Observation}
  {update : StatusUpdate} {requeue : Requeue}

/-- A decision about a request that succeeds has the certificate, or it waits for an ordered one. -/
theorem Decides.requeue_cases (decides : Decides config request trace update (.ok requeue))
    (filled : ∀ observation ∈ trace, observation.IsFilled) :
    (requeue = .none ∧ ∃ issued, update = .issued issued) ∨
      requeue = .delayed config.issuancePollInterval ∧ (∃ message, update = .pending message) ∧
        ∃ arn, (Observation.rewriteAll trace request).certificateArn? = some arn := by
  cases decides with
  | @ordered provisioner equipped _ equips unordered decoded arn =>
    have nonempty : arn ≠ "" := filled ⟨.sign provisioner request, .ok arn⟩ (by simp)
    have recorded := request.certificateArn?_annotateArn nonempty
    refine .inr ⟨rfl, ⟨_, rfl⟩, arn, ?_⟩
    rw [Observation.rewriteAll_append, Observation.rewriteAll_of_isPreparation equips.isPreparation]
    exact recorded
  | @issued _ _ _ issued => exact .inl ⟨rfl, issued, rfl⟩
  | @waiting provisioner equipped arn equips ordered =>
    refine .inr ⟨rfl, ⟨_, rfl⟩, arn, ?_⟩
    rw [Observation.rewriteAll_append, Observation.rewriteAll_of_isPreparation equips.isPreparation]
    exact ordered

end Reconcile

variable {config : ControllerConfig} {step : Reconciliation}

/-- What succeeds comes to an end, or it waits for a certificate that is ordered. -/
theorem Reconciliation.TakesPlace.requeue_cases (takesPlace : step.TakesPlace config)
    (named : step.before.cluster.IsNamed)
    (single : ∀ request, step.before.cluster.request? step.place = some request →
      request.HasSingleReady)
    (filled : ∀ observation ∈ step.trace, observation.IsFilled) {requeue : Requeue}
    (succeeded : step.outcome = .ok requeue) :
    (requeue = .none ∧ step.after.IsDone step.place) ∨
      requeue = .delayed config.issuancePollInterval ∧ step.after.IsOrdered step.place := by
  cases takesPlace.ending with
  | unread reason observed ended => cases succeeded.symm.trans ended
  | absent missing observed ended =>
    obtain rfl := Except.ok.inj (succeeded.symm.trans ended)
    rw [Reconciliation.after_of_looks observed]
    exact .inl ⟨rfl, .absent missing⟩
  | idle stored settled observed ended =>
    obtain rfl := Except.ok.inj (succeeded.symm.trans ended)
    rw [Reconciliation.after_of_looks observed]
    exact .inl ⟨rfl, SharedState.isDone_of_isSettled stored settled⟩
  | unrecorded stored unsettled equips unordered decoded arn reason observed ended =>
    cases succeeded.symm.trans ended
  | unwritten stored unsettled decides stamp reason observed ended =>
    cases succeeded.symm.trans ended
  | @written request before update stored unsettled stamp decides observed =>
    have left := Reconciliation.request?_after_of_written named stored decides observed
    have unissued := CertificateRequest.isIssued_eq_false unsettled
    have ready := CertificateRequest.hasReady_of_decided (single request stored) unissued
      (request.ownStatus_mergeStatus_project (Observation.rewriteAll before request) update stamp)
    rw [succeeded] at decides
    rw [observed] at filled
    have filledBefore : ∀ observation ∈ before, observation.IsFilled := by
      intro observation member
      exact filled observation (List.mem_cons_of_mem _ (List.mem_append_left _ member))
    rcases decides.requeue_cases filledBefore with
      ⟨rfl, issued, rfl⟩ | ⟨rfl, ⟨message, rfl⟩, arn, recorded⟩
    · exact .inl ⟨rfl, .issued left (ready .true Condition.issuedReason)⟩
    · obtain ⟨found, nonempty⟩ := CertificateRequest.certificateArn?_eq_some.mp recorded
      exact .inr ⟨rfl, _, arn, left, found, nonempty, ready .false Condition.pendingReason⟩

/-- A reconciliation waits for a change only when its request is gone, meant for others, issued or
failed. It looks again after the poll interval when the certificate is ordered and the request is
pending. In every other case it fails, and then the dispatcher tries again after a Fibonacci
multiple of the first backoff that the longest one cuts off, whatever has failed before. -/
theorem no_request_stranded (takesPlace : step.TakesPlace config)
    (named : step.before.cluster.IsNamed)
    (single : ∀ request, step.before.cluster.request? step.place = some request →
      request.HasSingleReady)
    (filled : ∀ observation ∈ step.trace, observation.IsFilled) :
    (∀ requeue, step.outcome = .ok requeue → requeue.isRequeue = false →
      requeue = .none ∧ step.after.IsDone step.place) ∧
    (∀ requeue, step.outcome = .ok requeue → requeue.isRequeue = true →
      requeue = .delayed config.issuancePollInterval ∧ step.after.IsOrdered step.place) ∧
    ∀ failure, step.outcome = .error failure → ∀ (world : Rehearsal.World) metadata,
      ∃ delay, (world.applyPolicy metadata).1 = .requeue delay ∧
        ∀ calls, world.retries = RetryTable.afterAll world.config calls →
          ∃ errors, 1 ≤ errors ∧ delay.nanoseconds =
            FibonacciBackoff.capped (max world.config.backoffMin 1)
              (max world.config.backoffMax (max world.config.backoffMin 1)) (Nat.fib errors) *
                nanosPerSecond := by
  have ends {requeue : Requeue} (succeeded : step.outcome = .ok requeue) :=
    takesPlace.requeue_cases named single filled succeeded
  refine ⟨?_, ?_, ?_⟩
  · intro requeue succeeded done
    rcases ends succeeded with finished | ⟨rfl, _⟩
    · exact finished
    · simp at done
  · intro requeue succeeded again
    rcases ends succeeded with ⟨rfl, _⟩ | ordered
    · cases again
    · exact ordered
  · intro failure failed world metadata
    refine ⟨_, rfl, fun calls same => ?_⟩
    have counted := RetryTable.isCounted_afterAll world.config calls
    rw [← same] at counted
    exact counted.exists_delay world.clock (Rehearsal.World.retryKey metadata)

namespace Sample

/-- The order is recorded, and its status is written. -/
def waiting : Reconciliation :=
  reconciliation first request
    (built ++
        [⟨.sign provisioner request, .ok "arn:1"⟩, ⟨.annotate request "arn:1", .ok ()⟩] ++
      [⟨.stamp, "now"⟩,
        ⟨.writeStatus request (project request.status (.pending Reconcile.orderedMessage) "now"),
          .ok ()⟩,
        ⟨.publish (request.event (.pending Reconcile.orderedMessage)), ()⟩])
    (.ok (.delayed ({} : ControllerConfig).issuancePollInterval))

theorem waiting_takesPlace : waiting.TakesPlace {} := by
  have admitted : waiting.before.AdmitsAll waiting.trace :=
    ⟨rfl, rfl, rfl, rfl, nofun, trivial, trivial, trivial, rfl, trivial, rfl, trivial, trivial⟩
  refine takesPlace rfl
    (.decided (.ordered ?_ unordered_request decoded_request "arn:1") (.written "now")) admitted
  exact equips_built key_request

end Sample

/-- The request of the sample is looked at again after its order. -/
theorem sample_looked_at_again :
    Sample.waiting.TakesPlace {} ∧
      Sample.waiting.outcome = .ok (.delayed ({} : ControllerConfig).issuancePollInterval) ∧
      Sample.waiting.after.IsOrdered Sample.place := by
  have filled : ∀ observation ∈ Sample.waiting.trace, observation.IsFilled := by
    simp [Sample.waiting, Sample.reconciliation, Sample.built, Observation.IsFilled]
  have followed := no_request_stranded Sample.waiting_takesPlace Sample.isNamed_first
    Sample.hasSingleReady_first filled
  exact ⟨Sample.waiting_takesPlace, rfl,
    (followed.2.1 _ rfl (Requeue.isRequeue_delayed _)).2⟩

end Issuance
