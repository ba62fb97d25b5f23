import Issuance.Proofs.Run.History

namespace Issuance.Reconciliation

/-- A reconciliation finds no request, it leaves its request alone, it loses the identifier of an
order or its decision, or its decision is written. -/
inductive Ending (config : ControllerConfig) (step : Reconciliation) : Prop where
  | unread (reason : String)
      (observed : step.trace =
        [⟨.readRequest step.place.namespaceName step.place.name, .error reason⟩])
      (ended : step.outcome = .error (.reconciliationFailed reason))
  | absent (missing : step.before.cluster.request? step.place = none)
      (observed : step.trace =
        [⟨.readRequest step.place.namespaceName step.place.name, .ok none⟩])
      (ended : step.outcome = .ok .none)
  | idle {request : CertificateRequest}
      (stored : step.before.cluster.request? step.place = some request)
      (settled : Reconcile.isSettled request = true)
      (observed : step.trace =
        [⟨.readRequest step.place.namespaceName step.place.name, .ok (some request)⟩])
      (ended : step.outcome = .ok .none)
  | unrecorded {request : CertificateRequest} {provisioner : Provisioner}
      {equipped : List Observation}
      (stored : step.before.cluster.request? step.place = some request)
      (unsettled : Reconcile.isSettled request = false)
      (equips : Reconcile.Equips request provisioner equipped)
      (unordered : request.certificateArn? = none) {bytes : List UInt8}
      (decoded : request.signingRequest = .ok bytes) (arn reason : String)
      (observed : step.trace =
        ⟨.readRequest step.place.namespaceName step.place.name, .ok (some request)⟩ ::
          (equipped ++
            [⟨.sign provisioner request, .ok arn⟩, ⟨.annotate request arn, .error reason⟩]))
      (ended : step.outcome = .error (.reconciliationFailed reason))
  | unwritten {request : CertificateRequest} {before : List Observation} {update : StatusUpdate}
      {decided : Reconcile.Outcome}
      (stored : step.before.cluster.request? step.place = some request)
      (unsettled : Reconcile.isSettled request = false)
      (decides : Reconcile.Decides config request before update decided) (stamp reason : String)
      (observed : step.trace =
        ⟨.readRequest step.place.namespaceName step.place.name, .ok (some request)⟩ ::
          (before ++
            [⟨.stamp, stamp⟩,
              ⟨.writeStatus request (project request.status update stamp), .error reason⟩]))
      (ended : step.outcome = .error (.reconciliationFailed reason))
  | written {request : CertificateRequest} {before : List Observation} {update : StatusUpdate}
      (stored : step.before.cluster.request? step.place = some request)
      (unsettled : Reconcile.isSettled request = false) (stamp : String)
      (decides : Reconcile.Decides config request before update step.outcome)
      (observed : step.trace =
        ⟨.readRequest step.place.namespaceName step.place.name, .ok (some request)⟩ ::
          (before ++
            [⟨.stamp, stamp⟩,
              ⟨.writeStatus request (project request.status update stamp), .ok ()⟩,
              ⟨.publish (request.event update), ()⟩]))

variable {config : ControllerConfig} {step : Reconciliation} {request : CertificateRequest}

theorem TakesPlace.ending (takesPlace : step.TakesPlace config) : step.Ending config := by
  have transcript := Reconcile.returns_reconcile.mp takesPlace.returns
  have admitted := takesPlace.admitted
  generalize observed : step.trace = trace at transcript admitted
  generalize ended : step.outcome = outcome at transcript
  cases transcript with
  | unread reason => exact .unread reason observed ended
  | absent =>
    have missing : none = step.before.cluster.request? step.place := admitted.1
    exact .absent missing.symm observed ended
  | @idle request settled =>
    have stored : some request = step.before.cluster.request? step.place := admitted.1
    exact .idle stored.symm settled observed ended
  | @active request rest _ unsettled proceeds =>
    have stored : some request = step.before.cluster.request? step.place := admitted.1
    cases proceeds with
    | unrecorded equips unordered decoded arn reason =>
      exact .unrecorded stored.symm unsettled equips unordered decoded arn reason observed ended
    | decided decides settles =>
      cases settles with
      | unwritten stamp reason =>
        exact .unwritten stored.symm unsettled decides stamp reason observed ended
      | written stamp => exact .written stored.symm unsettled stamp (ended ▸ decides) observed

/-- A decision that is written is merged into the request. -/
theorem request?_after_of_written (named : step.before.cluster.IsNamed)
    (stored : step.before.cluster.request? step.place = some request)
    {before : List Observation} {update : StatusUpdate} {stamp : String}
    (decides : Reconcile.Decides config request before update step.outcome)
    (observed : step.trace =
      ⟨.readRequest step.place.namespaceName step.place.name, .ok (some request)⟩ ::
        (before ++
          [⟨.stamp, stamp⟩,
            ⟨.writeStatus request (project request.status update stamp), .ok ()⟩,
            ⟨.publish (request.event update), ()⟩])) :
    step.after.cluster.request? step.place =
      some ((Observation.rewriteAll before request).mergeStatus
        (project request.status update stamp)) := by
  have proceeds : Reconcile.Proceeds config request _ step.outcome :=
    .decided decides (.written stamp)
  rw [request?_after_of_proceeds named stored observed proceeds, Observation.rewriteAll_append]
  rfl

end Issuance.Reconciliation
