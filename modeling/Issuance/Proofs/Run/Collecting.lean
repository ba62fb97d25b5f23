import Issuance.Proofs.PrivateCa.Collection
import Issuance.Proofs.Run.Behaviour
import Issuance.Proofs.Run.FollowUp

namespace Issuance

namespace Reconciliation

/-- The request waits, and it is looked at again. -/
def IsWaiting (step : Reconciliation) (later : CertificateRequest) : Prop :=
  later.hasReady .false Condition.pendingReason = true ∧
    ∃ requeue, step.outcome = .ok requeue ∧ requeue.isRequeue = true

/-- The request has its certificate, and nothing is left to do. -/
def IsDone (step : Reconciliation) (later : CertificateRequest) : Prop :=
  later.isIssued = true ∧ step.outcome = .ok .none

/-- The collection has failed for good, and the request gets no certificate. -/
structure IsLost (step : Reconciliation) (request later : CertificateRequest) : Prop where
  failed : later.isFailed = true
  failureTime : later.ownStatus.failureTime.isSome = true
  certificate : later.ownStatus.certificate = request.ownStatus.certificate
  ca : later.ownStatus.ca = request.ownStatus.ca
  outcome : ∃ failure, step.outcome = .error (.get failure)

end Reconciliation

section Collecting

variable {behaviour : Behaviour} {config : ControllerConfig} {shared : SharedState}
  {step : Reconciliation} {request later : CertificateRequest} {authority : Authority}
  {key : AuthorityKey} {arn : String}

/-- A ready authority that is there is found. -/
theorem Cluster.resolved_of_ready {cluster : Cluster}
    (refers : AuthorityKey.ofRequest request = .ok key)
    (found : cluster.authority? key = some authority) (ready : authority.isReady = true) :
    cluster.resolved request = .ok authority := by
  simp [Cluster.resolved, refers, found, Reconcile.checkAuthority, ready]

/-- The verdict on an ordered request goes by what is collected. -/
theorem Behaviour.verdict_of_ordered (known : shared.cluster.resolved request = .ok authority)
    (provided : behaviour.provided shared.cache authority.key authority.spec = .ok ())
    (ordered : request.certificateArn? = some arn) :
    behaviour.verdict config shared request =
      .ofCollection config (behaviour.collect authority.key authority.spec request arn) := by
  simp [verdict, known, provided, judge, ordered]

/-- A decision about a request shows in its status and in the outcome. -/
theorem Reconciliation.Follows.exists_later (follows : step.Follows behaviour config)
    (present : step.before.active? step.place = some request) :
    ∃ later, step.after.cluster.request? step.place = some later ∧
      later.ownStatus = request.ownStatus.apply
        (behaviour.verdict config step.before request).update behaviour.stamp ∧
      step.outcome = (behaviour.verdict config step.before request).outcome := by
  cases follows with
  | idle nothing => cases present.symm.trans nothing
  | active there ended written =>
    obtain rfl := Option.some.inj (present.symm.trans there)
    exact ⟨_, written, request.ownStatus_mergeStatus_project _ _ _, ended⟩

section Shown

variable (single : request.HasSingleReady) (unissued : request.isIssued = false)
  {update : StatusUpdate} {stamp : String}
  (written : later.ownStatus = request.ownStatus.apply update stamp)

include single unissued written

/-- A decision leaves one Ready condition. -/
theorem CertificateRequest.hasSingleReady_of_decided : later.HasSingleReady := by
  unfold HasSingleReady
  rw [written, single.conditions_apply unissued]
  exact Nat.le_refl 1

/-- The Ready condition of a decision has one reason. -/
theorem CertificateRequest.isIssued_of_decided :
    later.isIssued = true ↔ ∃ issued, update = .issued issued := by
  rw [isIssued, hasReady_of_decided single unissued written]
  cases update <;> simp [StatusUpdate.status, StatusUpdate.reason, Condition.issuedReason]

theorem CertificateRequest.isPending_of_decided :
    later.hasReady .false Condition.pendingReason = true ↔
      ∃ message, update = .pending message := by
  rw [hasReady_of_decided single unissued written]
  cases update <;> simp [StatusUpdate.status, StatusUpdate.reason, Condition.pendingReason,
    Condition.failedReason]

/-- A request that has failed has a failure time, and it gets no certificate. -/
theorem CertificateRequest.isFailed_of_decided {message : String}
    (rejected : update = .failed message) :
    later.isFailed = true ∧ later.ownStatus.failureTime.isSome = true ∧
      later.ownStatus.certificate = request.ownStatus.certificate ∧
      later.ownStatus.ca = request.ownStatus.ca := by
  subst rejected
  refine ⟨?_, ?_⟩
  · rw [isFailed, hasReady_of_decided single unissued written]
    rfl
  · rw [← single.isIssued_ownStatus] at unissued
    rw [written]
    simp [CertificateRequestStatus.apply, unissued]

/-- What is decided about a collection shows by the reply of the authority. -/
theorem PrivateCa.Reply.Yields.shows {reply : PrivateCa.Reply}
    {answer : Except ProvisionerFailure IssuedCertificate} (yields : reply.Yields answer)
    (decided : update = (Verdict.ofCollection config answer).update)
    (ended : step.outcome = (Verdict.ofCollection config answer).outcome) :
    (step.IsWaiting later ↔ reply.isInProgress = true) ∧ (step.IsDone later ↔ reply.Delivers) ∧
      (reply.isInProgress = false → ¬reply.Delivers → step.IsLost request later) := by
  rw [Reconciliation.IsWaiting, Reconciliation.IsDone,
    CertificateRequest.isIssued_of_decided single unissued written,
    CertificateRequest.isPending_of_decided single unissued written]
  cases yields with
  | waits early lacks =>
    change update = .pending Reconcile.waitingMessage at decided
    change step.outcome = .ok (.delayed config.issuancePollInterval) at ended
    simp [decided, ended, early, lacks]
  | @delivers issued late delivers certificate ca =>
    have checked : Reconcile.checkIssued issued = .ok issued :=
      (PrivateCa.Reply.Yields.delivers late delivers certificate ca).checkIssued
    have verdict :
        Verdict.ofCollection config (.ok issued) = ⟨none, .issued issued, .ok .none⟩ := by
      simp [Verdict.ofCollection, Except.bind, checked]
    rw [verdict] at decided ended
    simp [decided, ended, late, delivers]
  | fails late lacks reason =>
    change update = .failed (ReconcileFailure.get (.api reason)).message at decided
    change step.outcome = .error (.get (.api reason)) at ended
    obtain ⟨failed, failureTime, certificate, ca⟩ :=
      CertificateRequest.isFailed_of_decided single unissued written decided
    refine ⟨?_, ?_, fun _ _ => ⟨failed, failureTime, certificate, ca, _, ended⟩⟩
    · simp [decided, late]
    · simp [decided, lacks]

end Shown

/-- By the reply of the authority, the reconciliation of an ordered request waits, is done or has
failed. It waits just for replies that say so, and it is done just for a certificate with its
chain. A certificate that was collected is never empty. -/
theorem collected_by_reply {before : SharedState} {callers : List Caller} {place : ResourceName}
    {reply : PrivateCa.Reply} (reachable : Crowd.Reachable config ⟨before, callers⟩)
    (named : before.cluster.IsNamed) (present : before.active? place = some request)
    (single : request.HasSingleReady) (ordered : request.certificateArn? = some arn)
    (refers : AuthorityKey.ofRequest request = .ok key)
    (found : before.cluster.authority? key = some authority) (ready : authority.isReady = true)
    (provided : behaviour.provided before.cache authority.key authority.spec = .ok ())
    (replies : behaviour.collect authority.key authority.spec request arn =
      (PrivateCa.collect authority.spec.arn arn).conclude reply) :
    (before.cache.IsFree authority.key authority.spec →
      ∃ step : Reconciliation, step.before = before ∧ step.place = place ∧
        step.RunsAs behaviour config) ∧
    (∀ step : Reconciliation, step.before = before → step.place = place →
      step.RunsAs behaviour config →
        ∃ later, step.after.cluster.request? place = some later ∧ later.HasSingleReady ∧
          (step.IsWaiting later ↔ reply.isInProgress = true) ∧
          (step.IsDone later ↔ reply.Delivers) ∧
          (reply.isInProgress = false → ¬reply.Delivers → step.IsLost request later)) ∧
    ∀ issued, (PrivateCa.collect authority.spec.arn arn).conclude reply = .ok issued →
      issued.certificate ≠ [] ∧ issued.ca ≠ [] ∧ Reconcile.checkIssued issued = .ok issued := by
  have yields : reply.Yields ((PrivateCa.collect authority.spec.arn arn).conclude reply) :=
    reply.yields arn
  have known := Cluster.resolved_of_ready refers found ready
  refine ⟨fun free => ?_, ?_, fun issued collected => ?_⟩
  · refine Reconciliation.exists_runsAs behaviour config named fun other used there resolved => ?_
    obtain rfl := Option.some.inj (present.symm.trans there)
    obtain rfl := Except.ok.inj (known.symm.trans resolved)
    exact free
  · rintro step rfl rfl runs
    have follows := runs.follows named reachable.isSound.shared.cache
    obtain ⟨later, left, written, ended⟩ := follows.exists_later present
    rw [Behaviour.verdict_of_ordered known provided ordered, replies] at written ended
    have unissued := CertificateRequest.isIssued_eq_false
      (SharedState.active?_eq_some.mp present).2
    exact ⟨later, left, CertificateRequest.hasSingleReady_of_decided single unissued written,
      yields.shows single unissued written rfl ended⟩
  · rw [collected] at yields
    have checked := yields.checkIssued
    cases yields with
    | delivers _ _ certificate ca => exact ⟨certificate, ca, checked⟩

end Collecting

/- The order of the sample is collected. -/
namespace Sample

def pem : String := "-----BEGIN CERTIFICATE-----\nYQ==\n-----END CERTIFICATE-----\n"

/-- The certificate is its own chain. -/
def delivery : PrivateCa.Reply := .success none (some pem) (some pem)

/-- An error that names its service and an address. -/
def progress : PrivateCa.Reply :=
  .serviceError "com.amazonaws.acmpca#RequestInProgressException:http://acm-pca"

/-- Every collection gets the reply. -/
def replying (reply : PrivateCa.Reply) : Behaviour where
  stamp := "now"
  build _ _ := .ok ()
  sign _ _ _ := .ok "arn:2"
  collect _ spec _ arn := (PrivateCa.collect spec.arn arn).conclude reply

/-- The request is reconciled with the reply, and this is what shows. -/
def Shows (reply : PrivateCa.Reply) (outcome : Reconciliation → CertificateRequest → Prop) : Prop :=
  ∃ (step : Reconciliation) (later : CertificateRequest), step.before = unwritten.after ∧
    step.RunsAs (replying reply) {} ∧ step.after.cluster.request? place = some later ∧
      outcome step later

/-- The frame of the certificate. -/
def frame : Pem.Frame :=
  ⟨Text.utf8Bytes "CERTIFICATE", [], Text.utf8Bytes "YQ==\n", Text.utf8Bytes "CERTIFICATE"⟩

theorem block_frame : frame.block = .ok ⟨"CERTIFICATE", [], [97]⟩ := by
  have plain (part : List UInt8) (ascii : part.all (fun byte => byte.toNat < 128) = true) :
      Pem.decodePart part = .ok (part.map fun byte => Char.ofNat byte.toNat) := by
    apply Pem.decodePart_ascii
    intro byte member
    exact of_decide_eq_true (List.all_eq_true.mp ascii byte member)
  rw [Pem.Frame.block, plain frame.beginLabel rfl, plain frame.endLabel rfl, plain frame.data rfl,
    plain frame.headers rfl]
  rfl

theorem holdsCertificate_pem : PrivateCa.HoldsCertificate pem := by
  have next : Pem.nextFrame (Text.utf8Bytes pem) = some (frame, []) := rfl
  refine ⟨[⟨"CERTIFICATE", [], [97]⟩], ?_, _, List.mem_cons_self, rfl⟩
  rw [Pem.decodeAll, Pem.frames_of_some next, Pem.frames_of_none rfl, List.mapM_cons, block_frame]
  rfl

theorem delivers_delivery : delivery.Delivers :=
  PrivateCa.Reply.delivers_success.mpr ⟨holdsCertificate_pem, holdsCertificate_pem⟩

theorem isInProgress_progress : progress.isInProgress = true := by
  have hashless : '#' ∉ "com.amazonaws.acmpca".toList := by decide
  have colonless : ':' ∉ "com.amazonaws.acmpca".toList := by decide
  have follows : ∀ letter ∈ ":http://acm-pca".toList.head?, letter = ':' := by
    rintro letter ⟨⟩
    rfl
  exact PrivateCa.Reply.isInProgress_iff.mpr
    ⟨_, rfl, .served _ _ rfl hashless colonless follows⟩

theorem not_delivers_unreadable : ¬PrivateCa.Reply.unreadable.Delivers := by
  rintro ⟨_, _, _, same, _⟩
  cases same

theorem exists_reachable_unwritten : ∃ callers, Crowd.Reachable {} ⟨unwritten.after, callers⟩ := by
  obtain ⟨callers, reachable⟩ :=
    Crowd.Reachable.exists_after (.start first.cluster) unrecorded_takesPlace
  exact reachable.exists_after unwritten_takesPlace

end Sample

/-- The certificate of the sample arrives, it is waited for, or it is lost. -/
theorem sample_collected :
    Sample.Shows Sample.delivery (fun step later => step.IsDone later) ∧
      Sample.Shows Sample.progress (fun step later => step.IsWaiting later) ∧
      Sample.Shows .unreadable (fun step later => step.IsLost Sample.ordered later) := by
  obtain ⟨callers, reachable⟩ := Sample.exists_reachable_unwritten
  have named : Sample.unwritten.after.cluster.IsNamed :=
    SharedState.isNamed_afterAll
      (SharedState.isNamed_afterAll Sample.isNamed_first Sample.unrecorded.trace)
      Sample.unwritten.trace
  have present : Sample.unwritten.after.active? Sample.place = some Sample.ordered := rfl
  have single : Sample.ordered.HasSingleReady := Nat.zero_le 1
  have ordered : Sample.ordered.certificateArn? = some "arn:2" := rfl
  have refers : AuthorityKey.ofRequest Sample.ordered = .ok (.issuer "team" "ca") := rfl
  have found : Sample.unwritten.after.cluster.authority? (.issuer "team" "ca") =
      some (.issuer Sample.issuer) := rfl
  have free : Sample.unwritten.after.cache.IsFree (Authority.issuer Sample.issuer).key
      Sample.issuer.spec := by
    rw [ProvisionerCache.isFree_iff]
    decide
  have shows (reply : PrivateCa.Reply) : Sample.Shows reply fun step later =>
      (step.IsWaiting later ↔ reply.isInProgress = true) ∧ (step.IsDone later ↔ reply.Delivers) ∧
        (reply.isInProgress = false → ¬reply.Delivers → step.IsLost Sample.ordered later) := by
    have kept : (Sample.replying reply).provided Sample.unwritten.after.cache
        (Authority.issuer Sample.issuer).key Sample.issuer.spec = .ok () := rfl
    have replies : (Sample.replying reply).collect (Authority.issuer Sample.issuer).key
        Sample.issuer.spec Sample.ordered "arn:2" =
          (PrivateCa.collect Sample.issuer.spec.arn "arn:2").conclude reply := rfl
    obtain ⟨proceeds, comes, _⟩ := collected_by_reply reachable named present single ordered refers
      found rfl kept replies
    obtain ⟨step, before, place, runs⟩ := proceeds free
    obtain ⟨later, left, _, tells⟩ := comes step before place runs
    exact ⟨step, later, before, runs, left, tells⟩
  refine ⟨?_, ?_, ?_⟩
  · obtain ⟨step, later, before, runs, left, _, done, _⟩ := shows Sample.delivery
    exact ⟨step, later, before, runs, left, done.mpr Sample.delivers_delivery⟩
  · obtain ⟨step, later, before, runs, left, waiting, _⟩ := shows Sample.progress
    exact ⟨step, later, before, runs, left, waiting.mpr Sample.isInProgress_progress⟩
  · obtain ⟨step, later, before, runs, left, _, _, lost⟩ := shows .unreadable
    exact ⟨step, later, before, runs, left, lost rfl Sample.not_delivers_unreadable⟩

end Issuance
