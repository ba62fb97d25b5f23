import Issuance.Proofs.Program.Observation
import Issuance.Reconcile.Reconcile

namespace Issuance.Reconcile

variable {config : ControllerConfig} {request : CertificateRequest}
  {trace : List Observation} {outcome : Outcome}

/-- The authority of a request is found with at most one read. -/
inductive Resolves (request : CertificateRequest) :
    List Observation → Except ReconcileFailure Authority → Prop where
  | unknown {failure : ReconcileFailure} (key : AuthorityKey.ofRequest request = .error failure) :
      Resolves request [] (.error failure)
  | issuer {namespaceName name : String}
      (key : AuthorityKey.ofRequest request = .ok (.issuer namespaceName name))
      (answer : StoreAnswer (Option Issuer)) :
      Resolves request [⟨.readIssuer namespaceName name, answer⟩]
        (checkAuthority (.issuer namespaceName name) (answer.map (Option.map .issuer)))
  | clusterIssuer {name : String} (key : AuthorityKey.ofRequest request = .ok (.clusterIssuer name))
      (answer : StoreAnswer (Option ClusterIssuer)) :
      Resolves request [⟨.readClusterIssuer name, answer⟩]
        (checkAuthority (.clusterIssuer name) (answer.map (Option.map .clusterIssuer)))

/-- A request refers to an issuer beside it or to one of the cluster. -/
theorem ofRequest_cases {key : AuthorityKey} (known : AuthorityKey.ofRequest request = .ok key) :
    (IssuerKind.ofReference? request.spec.issuerRef.kind = some .issuer ∧
        key = .issuer (request.metadata.namespaceName.getD "") request.spec.issuerRef.name) ∨
      (IssuerKind.ofReference? request.spec.issuerRef.kind = some .clusterIssuer ∧
        key = .clusterIssuer request.spec.issuerRef.name) := by
  simp only [AuthorityKey.ofRequest] at known
  split at known
  · cases known
  · next kind => exact .inl ⟨kind, (Except.ok.inj known).symm⟩
  · next kind => exact .inr ⟨kind, (Except.ok.inj known).symm⟩

theorem returns_resolve {result : Except ReconcileFailure Authority} :
    (resolve request).Returns trace result ↔ Resolves request trace result := by
  unfold resolve
  constructor
  · intro returned
    split at returned
    next failure unknown =>
      obtain ⟨rfl, rfl⟩ := Program.returns_pure.mp returned
      exact .unknown unknown
    next key known =>
      obtain ⟨_, rfl⟩ | ⟨_, rfl⟩ := ofRequest_cases known
      · obtain ⟨answer, _, rfl, ended⟩ := Program.returns_perform.mp returned
        obtain ⟨rfl, rfl⟩ := Program.returns_pure.mp ended
        exact .issuer known answer
      · obtain ⟨answer, _, rfl, ended⟩ := Program.returns_perform.mp returned
        obtain ⟨rfl, rfl⟩ := Program.returns_pure.mp ended
        exact .clusterIssuer known answer
  · intro resolved
    cases resolved with
    | unknown key => simp [key]
    | issuer key answer =>
      rw [key]
      exact .perform _ (.pure _)
    | clusterIssuer key answer =>
      rw [key]
      exact .perform _ (.pure _)

/-- A provisioner is taken from its slot, or a build decides about it. -/
inductive Provides (key : AuthorityKey) (spec : IssuerSpec) :
    List Observation → Except ProvisionerFailure Provisioner → Prop where
  | kept (slot : Nat) (provisioner : Provisioner) :
      Provides key spec [⟨.enterSlot key spec, slot⟩, ⟨.acquireSlot slot, some provisioner⟩]
        (.ok provisioner)
  | broken (slot number : Nat) (failure : ProvisionerFailure) :
      Provides key spec
        [⟨.enterSlot key spec, slot⟩, ⟨.acquireSlot slot, none⟩, ⟨.startBuild key spec, number⟩,
          ⟨.finishBuild ⟨number, key, spec⟩, .error failure⟩, ⟨.settleSlot slot none, ()⟩]
        (.error failure)
  | built (slot number : Nat) :
      Provides key spec
        [⟨.enterSlot key spec, slot⟩, ⟨.acquireSlot slot, none⟩, ⟨.startBuild key spec, number⟩,
          ⟨.finishBuild ⟨number, key, spec⟩, .ok ()⟩,
          ⟨.settleSlot slot (some ⟨number, key, spec⟩), ()⟩]
        (.ok ⟨number, key, spec⟩)

theorem returns_provisionerFor {key : AuthorityKey} {spec : IssuerSpec}
    {result : Except ProvisionerFailure Provisioner} :
    (provisionerFor key spec).Returns trace result ↔ Provides key spec trace result := by
  unfold provisionerFor build
  constructor
  · intro returned
    obtain ⟨slot, _, rfl, entered⟩ := Program.returns_perform.mp returned
    obtain ⟨held, _, rfl, acquired⟩ := Program.returns_perform.mp entered
    cases held with
    | some provisioner =>
      obtain ⟨rfl, rfl⟩ := Program.returns_pure.mp acquired
      exact .kept slot provisioner
    | none =>
      obtain ⟨number, _, rfl, started⟩ := Program.returns_perform.mp acquired
      obtain ⟨finished, _, rfl, decided⟩ := Program.returns_perform.mp started
      cases finished with
      | error failure =>
        obtain ⟨_, _, rfl, settled⟩ := Program.returns_perform.mp decided
        obtain ⟨rfl, rfl⟩ := Program.returns_pure.mp settled
        exact .broken slot number failure
      | ok _ =>
        obtain ⟨_, _, rfl, settled⟩ := Program.returns_perform.mp decided
        obtain ⟨rfl, rfl⟩ := Program.returns_pure.mp settled
        exact .built slot number
  · intro provided
    cases provided with
    | kept slot provisioner => exact .perform _ (.perform _ (.pure _))
    | broken slot number failure =>
      exact .perform _ (.perform _ (.perform _ (.perform _ (.perform _ (.pure _)))))
    | built slot number =>
      exact .perform _ (.perform _ (.perform _ (.perform _ (.perform _ (.pure _)))))

/-- A decision is written, or it is lost without a trace on the request. -/
inductive Settles (request : CertificateRequest) (update : StatusUpdate) (decided : Outcome) :
    List Observation → Outcome → Prop where
  | unwritten (stamp reason : String) :
      Settles request update decided
        [⟨.stamp, stamp⟩,
          ⟨.writeStatus request (project request.status update stamp), .error reason⟩]
        (.error (.reconciliationFailed reason))
  | written (stamp : String) :
      Settles request update decided
        [⟨.stamp, stamp⟩, ⟨.writeStatus request (project request.status update stamp), .ok ()⟩,
          ⟨.publish (request.event update), ()⟩]
        decided

theorem returns_settle {update : StatusUpdate} {decided : Outcome} :
    (settle request update decided).Returns trace outcome ↔
      Settles request update decided trace outcome := by
  unfold settle writeStatus
  constructor
  · intro returned
    obtain ⟨stamp, _, rfl, stamped⟩ := Program.returns_perform.mp returned
    obtain ⟨answer, _, rfl, written⟩ := Program.returns_perform.mp stamped
    cases answer with
    | error reason =>
      obtain ⟨rfl, rfl⟩ := Program.returns_pure.mp written
      exact .unwritten stamp reason
    | ok _ =>
      obtain ⟨_, _, rfl, published⟩ := Program.returns_perform.mp written
      obtain ⟨rfl, rfl⟩ := Program.returns_pure.mp published
      exact .written stamp
  · intro settled
    cases settled with
    | unwritten stamp reason => exact .perform _ (.perform _ (.pure _))
    | written stamp => exact .perform _ (.perform _ (.perform _ (.pure _)))

/-- A request that is not settled gets as far as a provisioner. -/
inductive Equips (request : CertificateRequest) (provisioner : Provisioner) :
    List Observation → Prop where
  | intro {authority : Authority} {found provided : List Observation}
      (resolves : Resolves request found (.ok authority))
      (provides : Provides authority.key authority.spec provided (.ok provisioner)) :
      Equips request provisioner (found ++ provided)

/-- The failure of a request whose contents are not base64. -/
def malformedRequest (fault : Base64.Fault) : ReconcileFailure :=
  .invalidRequest ("spec.request is not valid base64: " ++ fault.message)

/-- What is observed on the way from a request to a decision about it. -/
inductive Decides (config : ControllerConfig) (request : CertificateRequest) :
    List Observation → StatusUpdate → Outcome → Prop where
  | unresolved {found : List Observation} {failure : ReconcileFailure}
      (resolves : Resolves request found (.error failure)) :
      Decides config request found (.pending failure.message) (.error failure)
  | unprovided {authority : Authority} {found provided : List Observation}
      {failure : ProvisionerFailure} (resolves : Resolves request found (.ok authority))
      (provides : Provides authority.key authority.spec provided (.error failure)) :
      Decides config request (found ++ provided)
        (.failed (ReconcileFailure.provisioner failure).message) (.error (.provisioner failure))
  | malformed {provisioner : Provisioner} {equipped : List Observation} {fault : Base64.Fault}
      (equips : Equips request provisioner equipped) (unordered : request.certificateArn? = none)
      (decoded : request.signingRequest = .error fault) :
      Decides config request equipped (.failed (malformedRequest fault).message)
        (.error (malformedRequest fault))
  | refused {provisioner : Provisioner} {equipped : List Observation} {bytes : List UInt8}
      (equips : Equips request provisioner equipped) (unordered : request.certificateArn? = none)
      (decoded : request.signingRequest = .ok bytes) (failure : ProvisionerFailure) :
      Decides config request (equipped ++ [⟨.sign provisioner request, .error failure⟩])
        (.failed (ReconcileFailure.sign failure).message) (.error (.sign failure))
  | ordered {provisioner : Provisioner} {equipped : List Observation} {bytes : List UInt8}
      (equips : Equips request provisioner equipped) (unordered : request.certificateArn? = none)
      (decoded : request.signingRequest = .ok bytes) (arn : String) :
      Decides config request
        (equipped ++ [⟨.sign provisioner request, .ok arn⟩, ⟨.annotate request arn, .ok ()⟩])
        (.pending orderedMessage) (.ok (.delayed config.issuancePollInterval))
  | issued {provisioner : Provisioner} {equipped : List Observation} {arn : String}
      {issued : IssuedCertificate} (equips : Equips request provisioner equipped)
      (ordered : request.certificateArn? = some arn) (certificate : issued.certificate ≠ [])
      (ca : issued.ca ≠ []) :
      Decides config request (equipped ++ [⟨.collect provisioner request arn, .ok issued⟩])
        (.issued issued) (.ok .none)
  | waiting {provisioner : Provisioner} {equipped : List Observation} {arn : String}
      (equips : Equips request provisioner equipped)
      (ordered : request.certificateArn? = some arn) :
      Decides config request
        (equipped ++ [⟨.collect provisioner request arn, .error .inProgress⟩])
        (.pending waitingMessage) (.ok (.delayed config.issuancePollInterval))
  | lost {provisioner : Provisioner} {equipped : List Observation} {arn : String}
      {answer : Except ProvisionerFailure IssuedCertificate} {failure : ProvisionerFailure}
      (equips : Equips request provisioner equipped)
      (ordered : request.certificateArn? = some arn)
      (failed : answer.bind checkIssued = .error failure) (final : failure ≠ .inProgress) :
      Decides config request (equipped ++ [⟨.collect provisioner request arn, answer⟩])
        (.failed (ReconcileFailure.get failure).message) (.error (.get failure))

/-- A request that is not settled ends in a decision, unless its order cannot be recorded. -/
inductive Proceeds (config : ControllerConfig) (request : CertificateRequest) :
    List Observation → Outcome → Prop where
  | unrecorded {provisioner : Provisioner} {equipped : List Observation} {bytes : List UInt8}
      (equips : Equips request provisioner equipped) (unordered : request.certificateArn? = none)
      (decoded : request.signingRequest = .ok bytes) (arn reason : String) :
      Proceeds config request
        (equipped ++
          [⟨.sign provisioner request, .ok arn⟩, ⟨.annotate request arn, .error reason⟩])
        (.error (.reconciliationFailed reason))
  | decided {before after : List Observation} {update : StatusUpdate} {decided outcome : Outcome}
      (decides : Decides config request before update decided)
      (settles : Settles request update decided after outcome) :
      Proceeds config request (before ++ after) outcome

theorem proceeds_of_sign {provisioner : Provisioner} {equipped : List Observation}
    (equips : Equips request provisioner equipped) (unordered : request.certificateArn? = none)
    (returned : (sign config request provisioner).Returns trace outcome) :
    Proceeds config request (equipped ++ trace) outcome := by
  unfold sign at returned
  split at returned
  next fault decoded =>
    exact .decided (.malformed equips unordered decoded) (returns_settle.mp returned)
  next bytes decoded =>
    obtain ⟨answer, rest, rfl, continued⟩ := Program.returns_perform.mp returned
    cases answer with
    | error failure =>
      have settles := returns_settle.mp continued
      simpa using Proceeds.decided (.refused equips unordered decoded failure) settles
    | ok arn =>
      obtain ⟨answer, rest, rfl, ended⟩ := Program.returns_perform.mp continued
      cases answer with
      | error reason =>
        obtain ⟨rfl, rfl⟩ := Program.returns_pure.mp ended
        exact .unrecorded equips unordered decoded arn reason
      | ok _ =>
        have settles := returns_settle.mp ended
        simpa using Proceeds.decided (.ordered equips unordered decoded arn) settles

/-- What was collected is taken as it is, or it is refused for good. -/
theorem checkIssued_cases (issued : IssuedCertificate) :
    (checkIssued issued = .ok issued ∧ issued.certificate ≠ [] ∧ issued.ca ≠ []) ∨
      ∃ failure, checkIssued issued = .error failure ∧ failure ≠ .inProgress := by
  unfold checkIssued
  split
  next empty => exact .inr ⟨_, rfl, nofun⟩
  next filled => exact .inl ⟨rfl, by simpa using filled⟩

theorem proceeds_of_collect {provisioner : Provisioner} {equipped : List Observation}
    {arn : String} (equips : Equips request provisioner equipped)
    (ordered : request.certificateArn? = some arn)
    (returned : (collect config request provisioner arn).Returns trace outcome) :
    Proceeds config request (equipped ++ trace) outcome := by
  simp only [collect, Program.ask_eq, Program.perform_bind, Program.pure_bind] at returned
  obtain ⟨answer, rest, rfl, continued⟩ := Program.returns_perform.mp returned
  have prepend {update : StatusUpdate} {decided : Outcome}
      (decides : Decides config request
        (equipped ++ [⟨.collect provisioner request arn, answer⟩]) update decided)
      (settles : Settles request update decided rest outcome) :
      Proceeds config request
        (equipped ++ ⟨.collect provisioner request arn, answer⟩ :: rest) outcome := by
    simpa using Proceeds.decided decides settles
  cases answer with
  | error failure =>
    cases failure with
    | inProgress => exact prepend (.waiting equips ordered) (returns_settle.mp continued)
    | configuration reason =>
      exact prepend (.lost equips ordered rfl nofun) (returns_settle.mp continued)
    | api reason => exact prepend (.lost equips ordered rfl nofun) (returns_settle.mp continued)
  | ok issued =>
    obtain ⟨checked, certificate, ca⟩ | ⟨failure, checked, final⟩ := checkIssued_cases issued
    · simp only [Except.bind, checked] at continued
      exact prepend (.issued equips ordered certificate ca) (returns_settle.mp continued)
    · simp only [Except.bind, checked] at continued
      exact prepend (.lost equips ordered checked final) (returns_settle.mp continued)

theorem returns_of_equips {provisioner : Provisioner} {equipped : List Observation}
    (equips : Equips request provisioner equipped)
    (returned : (match request.certificateArn? with
      | none => sign config request provisioner
      | some arn => collect config request provisioner arn).Returns trace outcome) :
    (proceed config request).Returns (equipped ++ trace) outcome := by
  cases equips with
  | intro resolves provides =>
    rw [List.append_assoc]
    refine Program.returns_bind.mpr ⟨_, _, _, rfl, returns_resolve.mpr resolves, ?_⟩
    exact Program.returns_bind.mpr ⟨_, _, _, rfl, returns_provisionerFor.mpr provides, returned⟩

theorem returns_of_decides {before after : List Observation} {update : StatusUpdate}
    {decided : Outcome} (decides : Decides config request before update decided)
    (settles : Settles request update decided after outcome) :
    (proceed config request).Returns (before ++ after) outcome := by
  have settled := returns_settle.mpr settles
  cases decides with
  | unresolved resolves =>
    exact Program.returns_bind.mpr ⟨_, _, _, rfl, returns_resolve.mpr resolves, settled⟩
  | unprovided resolves provides =>
    rw [List.append_assoc]
    refine Program.returns_bind.mpr ⟨_, _, _, rfl, returns_resolve.mpr resolves, ?_⟩
    exact Program.returns_bind.mpr ⟨_, _, _, rfl, returns_provisionerFor.mpr provides, settled⟩
  | malformed equips unordered decoded =>
    refine returns_of_equips equips ?_
    simp only [unordered, sign, decoded]
    exact settled
  | refused equips unordered decoded failure =>
    rw [List.append_assoc]
    refine returns_of_equips equips ?_
    simp only [unordered, sign, decoded]
    exact .perform _ settled
  | ordered equips unordered decoded arn =>
    rw [List.append_assoc]
    refine returns_of_equips equips ?_
    simp only [unordered, sign, decoded]
    exact .perform _ (.perform _ settled)
  | issued equips ordered certificate ca =>
    rw [List.append_assoc]
    refine returns_of_equips equips ?_
    simp only [ordered, collect, Program.ask_eq, Program.perform_bind, Program.pure_bind]
    refine .perform _ ?_
    simpa [Except.bind, checkIssued, certificate, ca] using settled
  | waiting equips ordered =>
    rw [List.append_assoc]
    refine returns_of_equips equips ?_
    simp only [ordered, collect]
    exact .perform _ settled
  | lost equips ordered failed final =>
    rw [List.append_assoc]
    refine returns_of_equips equips ?_
    simp only [ordered, collect, Program.ask_eq, Program.perform_bind, Program.pure_bind]
    refine .perform _ ?_
    simp only [failed]
    exact settled

theorem returns_proceed :
    (proceed config request).Returns trace outcome ↔ Proceeds config request trace outcome := by
  constructor
  · intro returned
    obtain ⟨found, resolved, rest, rfl, resolving, continued⟩ := Program.returns_bind.mp returned
    have resolves := returns_resolve.mp resolving
    cases resolved with
    | error failure => exact .decided (.unresolved resolves) (returns_settle.mp continued)
    | ok authority =>
      obtain ⟨provided, built, rest, rfl, providing, advanced⟩ :=
        Program.returns_bind.mp continued
      have provides := returns_provisionerFor.mp providing
      rw [← List.append_assoc]
      cases built with
      | error failure =>
        exact .decided (.unprovided resolves provides) (returns_settle.mp advanced)
      | ok provisioner =>
        have equips : Equips request provisioner (found ++ provided) := .intro resolves provides
        cases arn : request.certificateArn? with
        | none => exact proceeds_of_sign equips arn (by simpa only [arn] using advanced)
        | some _ => exact proceeds_of_collect equips arn (by simpa only [arn] using advanced)
  · intro proceeds
    cases proceeds with
    | decided decides settles => exact returns_of_decides decides settles
    | unrecorded equips unordered decoded arn reason =>
      refine returns_of_equips equips ?_
      simp only [unordered, sign, decoded]
      exact .perform _ (.perform _ (.pure _))

/-- All that a reconciliation may leave behind. -/
inductive Transcript (config : ControllerConfig) (namespaceName name : String) :
    List Observation → Outcome → Prop where
  | unread (reason : String) :
      Transcript config namespaceName name [⟨.readRequest namespaceName name, .error reason⟩]
        (.error (.reconciliationFailed reason))
  | absent :
      Transcript config namespaceName name [⟨.readRequest namespaceName name, .ok none⟩]
        (.ok .none)
  | idle {request : CertificateRequest} (settled : isSettled request = true) :
      Transcript config namespaceName name
        [⟨.readRequest namespaceName name, .ok (some request)⟩] (.ok .none)
  | active {request : CertificateRequest} {trace : List Observation} {outcome : Outcome}
      (unsettled : isSettled request = false) (proceeds : Proceeds config request trace outcome) :
      Transcript config namespaceName name
        (⟨.readRequest namespaceName name, .ok (some request)⟩ :: trace) outcome

/-- The transcripts are exactly what the program may observe. -/
theorem returns_reconcile {namespaceName name : String} :
    (reconcile config namespaceName name).Returns trace outcome ↔
      Transcript config namespaceName name trace outcome := by
  simp only [reconcile, Program.ask_eq, Program.perform_bind, Program.pure_bind]
  constructor
  · intro returned
    obtain ⟨answer, rest, rfl, continued⟩ := Program.returns_perform.mp returned
    cases answer with
    | error reason =>
      obtain ⟨rfl, rfl⟩ := Program.returns_pure.mp continued
      exact .unread reason
    | ok found =>
      cases found with
      | none =>
        obtain ⟨rfl, rfl⟩ := Program.returns_pure.mp continued
        exact .absent
      | some request =>
        cases settled : isSettled request with
        | true =>
          simp only [if_pos settled] at continued
          obtain ⟨rfl, rfl⟩ := Program.returns_pure.mp continued
          exact .idle settled
        | false =>
          simp only [if_neg (Bool.eq_false_iff.mp settled)] at continued
          exact .active settled (returns_proceed.mp continued)
  · intro transcript
    cases transcript with
    | unread reason => exact .perform _ (.pure _)
    | absent => exact .perform _ (.pure _)
    | idle settled =>
      refine .perform _ ?_
      simp only [if_pos settled]
      exact .pure _
    | active unsettled proceeds =>
      refine .perform _ ?_
      simp only [if_neg (Bool.eq_false_iff.mp unsettled)]
      exact returns_proceed.mpr proceeds

end Issuance.Reconcile
