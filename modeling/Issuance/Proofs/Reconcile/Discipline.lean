import Issuance.Cluster.Store
import Issuance.Proofs.Reconcile.Transcript

namespace Issuance.Reconcile

/-- The observations lead from a request to a provisioner of its authority. -/
def Leads (place : ResourceName) (request : CertificateRequest) (provisioner : Provisioner)
    (observed : List Observation) : Prop :=
  isSettled request = false ∧
    ∃ equipped, Equips request provisioner equipped ∧
      observed =
        ⟨.readRequest place.namespaceName place.name, .ok (some request)⟩ :: equipped

/-- Only a build that was started is finished, only what was built fills a slot, and only a request
with a provisioner gets as far as its authority. -/
def Permits (place : ResourceName) (observed : List Observation) : Effect → Prop
  | .finishBuild provisioner =>
    ⟨.startBuild provisioner.key provisioner.spec, provisioner.number⟩ ∈ observed
  | .settleSlot slot (some provisioner) =>
    ⟨.enterSlot provisioner.key provisioner.spec, slot⟩ ∈ observed ∧
      ⟨.finishBuild provisioner, .ok ()⟩ ∈ observed
  | .sign provisioner request =>
    Leads place request provisioner observed ∧ request.certificateArn? = none ∧
      ∃ bytes, request.signingRequest = .ok bytes
  | .collect provisioner request arn =>
    Leads place request provisioner observed ∧ request.certificateArn? = some arn
  | _ => True

variable {place : ResourceName} {observed : List Observation} {request : CertificateRequest}

theorem resolve_meets : (resolve request).Meets (Permits place) observed := by
  unfold resolve lookUp
  split
  · exact .pure _ _
  · split
    · exact .perform trivial fun answer => .pure _ _
    · exact .perform trivial fun answer => .pure _ _

theorem provisionerFor_meets {key : AuthorityKey} {spec : IssuerSpec} :
    (provisionerFor key spec).Meets (Permits place) observed := by
  refine .perform trivial fun slot => .perform trivial fun held => ?_
  cases held with
  | some provisioner => exact .pure _ _
  | none =>
    refine .perform trivial fun number => .perform ?_ fun finished => ?_
    · exact List.mem_append_right _ (List.mem_singleton_self _)
    · cases finished with
      | error failure => exact .perform trivial fun _ => .pure _ _
      | ok _ =>
        refine .perform ⟨?_, ?_⟩ fun _ => .pure _ _
        · simp
        · exact List.mem_append_right _ (List.mem_singleton_self _)

theorem settle_meets {update : StatusUpdate} {decided : Outcome} :
    (settle request update decided).Meets (Permits place) observed := by
  refine .perform trivial fun stamp => .perform trivial fun answer => ?_
  cases answer with
  | error reason => exact .pure _ _
  | ok _ => exact .perform trivial fun _ => .pure _ _

section Leads

variable {config : ControllerConfig} {provisioner : Provisioner}
  (leads : Leads place request provisioner observed)

include leads

theorem sign_meets (unordered : request.certificateArn? = none) :
    (sign config request provisioner).Meets (Permits place) observed := by
  unfold sign
  split
  · exact settle_meets
  · next bytes decoded =>
    refine .perform ⟨leads, unordered, bytes, decoded⟩ fun answer => ?_
    cases answer with
    | error failure => exact settle_meets
    | ok arn =>
      refine .perform trivial fun written => ?_
      cases written with
      | error reason => exact .pure _ _
      | ok _ => exact settle_meets

theorem collect_meets {arn : String} (ordered : request.certificateArn? = some arn) :
    (collect config request provisioner arn).Meets (Permits place) observed := by
  simp only [collect, Program.ask_eq, Program.perform_bind, Program.pure_bind]
  refine .perform ⟨leads, ordered⟩ fun answer => ?_
  split <;> exact settle_meets

end Leads

theorem proceed_meets (config : ControllerConfig) (unsettled : isSettled request = false) :
    (proceed config request).Meets (Permits place)
      [⟨.readRequest place.namespaceName place.name, .ok (some request)⟩] := by
  refine resolve_meets.bind fun found resolved resolving => ?_
  cases resolved with
  | error failure => exact settle_meets
  | ok authority =>
    refine provisionerFor_meets.bind fun provided built providing => ?_
    cases built with
    | error failure => exact settle_meets
    | ok provisioner =>
      have equips : Equips request provisioner (found ++ provided) :=
        .intro (returns_resolve.mp resolving) (returns_provisionerFor.mp providing)
      have leads : Leads place request provisioner
          ([⟨.readRequest place.namespaceName place.name, .ok (some request)⟩] ++ found ++
            provided) :=
        ⟨unsettled, found ++ provided, equips, List.append_assoc _ found provided⟩
      simp only
      split
      · next unordered => exact sign_meets leads unordered
      · next arn ordered => exact collect_meets leads ordered

/-- Every reconciliation keeps to what is permitted. -/
theorem reconcile_meets (config : ControllerConfig) (place : ResourceName) :
    (reconcile config place.namespaceName place.name).Meets (Permits place) [] := by
  simp only [reconcile, Program.ask_eq, Program.perform_bind, Program.pure_bind]
  refine .perform trivial fun answer => ?_
  split
  · exact .pure _ _
  · exact .pure _ _
  · split
    · exact .pure _ _
    · next unsettled => exact proceed_meets config (eq_false_of_ne_true unsettled)

end Issuance.Reconcile
