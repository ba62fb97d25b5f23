import Issuance.Cluster.Api
import Issuance.Proofs.Crowd.Overwriting

namespace Issuance

namespace Condition

/-- The server replaces the stored conditions of the kinds that it is sent, and it keeps the others
in their order. -/
def applyByKind (stored sent : List Condition) : List Condition :=
  (stored.filter fun condition => !sent.any fun other => other.kind == condition.kind) ++ sent

end Condition

namespace CertificateRequestStatus

variable {stored written : CertificateRequestStatus}

/-- Where a Ready condition is sent and no other one, the server stores what a merge gives. -/
theorem conditions_merge (ready : written.owned.conditions ≠ []) :
    (stored.merge written).conditions =
      Condition.applyByKind stored.conditions written.owned.conditions := by
  have kinds : ∀ condition ∈ written.owned.conditions, condition.isReadyKind = true :=
    fun _ member => (List.mem_filter.mp member).2
  obtain ⟨first, member⟩ := List.exists_mem_of_ne_nil _ ready
  have sent (condition : Condition) :
      (written.owned.conditions.any fun other => other.kind == condition.kind) =
        condition.isReadyKind := by
    rw [Bool.eq_iff_iff, List.any_eq_true]
    constructor
    · rintro ⟨other, present, same⟩
      have kind := kinds other present
      rw [Condition.isReadyKind, beq_iff_eq] at kind ⊢
      exact (beq_iff_eq.mp same).symm.trans kind
    · intro kind
      have readyFirst := kinds first member
      rw [Condition.isReadyKind, beq_iff_eq] at kind readyFirst
      exact ⟨first, member, beq_iff_eq.mpr (readyFirst.trans kind.symm)⟩
  simp only [merge, Condition.applyByKind, sent]
  rfl

/-- A decision always sends a Ready condition, unless the certificate is stored already. -/
theorem owned_apply_ne_nil (status : CertificateRequestStatus) (update : StatusUpdate)
    (stamp : String) : (status.apply update stamp).owned.conditions ≠ [] := by
  rw [owned_apply]
  by_cases issued : status.owned.isIssued = true
  · rw [apply, if_pos issued]
    intro none
    simp [isIssued, none] at issued
  · have put (conditions : List Condition) :
        Condition.putReady (status.owned.readyCondition update stamp) conditions ≠ [] := by
      cases conditions with
      | nil => exact List.cons_ne_nil _ _
      | cons condition rest =>
        unfold Condition.putReady
        split <;> exact List.cons_ne_nil _ _
    cases update <;> simpa [apply, issued] using put _

end CertificateRequestStatus

namespace CertificateRequest

/-- The conditions that belong to others. -/
def foreignConditions (request : CertificateRequest) : List Condition :=
  (request.status.getD {}).conditions.filter fun condition => !condition.isReadyKind

variable (request : CertificateRequest)

@[simp] theorem foreignConditions_annotateArn (arn : String) :
    (request.annotateArn arn).foreignConditions = request.foreignConditions := rfl

/-- What others have is taken from the stored request, and not from what is written. -/
@[simp] theorem foreignConditions_mergeStatus (written : CertificateRequestStatus) :
    (request.mergeStatus written).foreignConditions = request.foreignConditions := by
  simp [foreignConditions, mergeStatus, CertificateRequestStatus.merge, List.filter_filter]

end CertificateRequest

namespace Cluster

/-- The conditions that belong to others on the request of a name. -/
def foreignConditions? (cluster : Cluster) (name : ResourceName) : Option (List Condition) :=
  (cluster.request? name).map CertificateRequest.foreignConditions

end Cluster

theorem Observation.foreignConditions_rewrite (observation : Observation)
    (request : CertificateRequest) :
    (observation.rewrite request).foreignConditions = request.foreignConditions := by
  obtain ⟨effect, answer⟩ := observation
  cases effect with
  | annotate written arn =>
      cases answer with
      | error reason => rfl
      | ok _ => exact request.foreignConditions_annotateArn arn
  | writeStatus written status =>
      cases answer with
      | error reason => rfl
      | ok _ => exact request.foreignConditions_mergeStatus status
  | _ => rfl

/-- No observation changes what belongs to others. -/
theorem SharedState.foreignConditions?_after (shared : SharedState) (observation : Observation)
    (name : ResourceName) :
    (shared.after observation).cluster.foreignConditions? name =
      shared.cluster.foreignConditions? name := by
  unfold Cluster.foreignConditions?
  by_cases targeted : observation.target? = some name
  · rw [request?_after_of_target? (.inr targeted), Option.map_map]
    congr 1
    funext request
    exact observation.foreignConditions_rewrite request
  · rw [request?_after observation targeted]

namespace HttpCall

/-- The kinds of the conditions in the status that a call brings. -/
def conditionKinds? (call : HttpCall) : Option (List String) := do
  let members ← (← call.body).asRecord
  let status ← (← members.lookup "status").asRecord
  Json.required "conditions"
    (Json.asList fun condition => condition.asRecord.bind (Json.required "type" Json.asText)) status

end HttpCall

namespace ClusterApi

theorem access_question? {α : Type} {call sent : HttpCall} {fault : String}
    {conclude : HttpReply → StoreAnswer α}
    (asked : (access call fault conclude).question? = some sent) : call.sent? = some sent := by
  unfold access at asked
  split at asked
  · cases asked
  · next there => exact there.trans asked

/-- Only the path and the query of a call depend on whether it can be sent. -/
theorem body_of_sent? {call sent : HttpCall} (able : call.sent? = some sent) :
    sent.body = call.body := by
  unfold HttpCall.sent? at able
  split at able
  · obtain rfl := Option.some.inj able
    unfold HttpCall.cut
    split <;> rfl
  · cases able

/-- The body of a status brings its Ready conditions and no other ones. -/
theorem conditionKinds?_of_body {status : CertificateRequestStatus} {call : HttpCall}
    (body : call.body = some (statusPatch status)) :
    call.conditionKinds? = some (status.owned.conditions.map Condition.kind) := by
  have kinds (conditions : List Condition) :
      (conditions.map Condition.toJson).mapM (fun condition =>
        condition.asRecord.bind (Json.required "type" Json.asText)) =
          some (conditions.map Condition.kind) := by
    induction conditions with
    | nil => rfl
    | cons condition conditions ih =>
        rw [List.map_cons, List.mapM_cons, ih]
        rfl
  unfold HttpCall.conditionKinds?
  rw [body]
  exact kinds status.owned.conditions

/-- A call that writes a status brings its Ready conditions and no other ones. -/
theorem conditionKinds?_writeStatus {fieldManager : String} {request : CertificateRequest}
    {status : CertificateRequestStatus} {call : HttpCall}
    (asked : (writeStatus fieldManager request status).question? = some call) :
    call.conditionKinds? = some (status.owned.conditions.map Condition.kind) := by
  unfold writeStatus writeRequest at asked
  split at asked
  · cases asked
  · split at asked
    · cases asked
    · exact conditionKinds?_of_body (body_of_sent? (access_question? asked))

end ClusterApi

namespace Reconcile

variable {config : ControllerConfig} {namespaceName name : String} {trace : List Observation}
  {outcome : Outcome} {request written : CertificateRequest} {status : CertificateRequestStatus}
  {answer : StoreAnswer Unit}

/-- No status is written before a decision. -/
theorem Decides.not_mem_writeStatus {update : StatusUpdate} {decided : Outcome}
    (decides : Decides config request trace update decided) :
    ⟨.writeStatus written status, answer⟩ ∉ trace := by
  obtain ⟨prepared, asked, rfl, preparations, asks⟩ := decides.asks
  intro member
  rcases List.mem_append.mp member with early | late
  · cases preparations _ early
  · cases asks <;> simp at late

/-- A status that is written is projected from the copy that it is written for. -/
theorem Transcript.projects (transcript : Transcript config namespaceName name trace outcome)
    (member : ⟨.writeStatus written status, answer⟩ ∈ trace) :
    ∃ update stamp, status = project written.status update stamp := by
  cases transcript with
  | unread reason => simp at member
  | absent => simp at member
  | idle settled => simp at member
  | @active request rest _ unsettled proceeds =>
    have member : ⟨.writeStatus written status, answer⟩ ∈ rest := by simpa using member
    cases proceeds with
    | unrecorded equips =>
      rcases List.mem_append.mp member with early | late
      · cases equips.isPreparation _ early
      · simp at late
    | @decided before _ update _ _ decides settles =>
      have settled := (List.mem_append.mp member).resolve_left decides.not_mem_writeStatus
      cases settles with
      | unwritten stamp reason =>
        obtain ⟨⟨rfl, rfl⟩, _⟩ : (written = request ∧ _) ∧ _ := by simpa using settled
        exact ⟨update, stamp, rfl⟩
      | written stamp =>
        obtain ⟨⟨rfl, rfl⟩, _⟩ : (written = request ∧ _) ∧ _ := by simpa using settled
        exact ⟨update, stamp, rfl⟩

end Reconcile

/-- The Ready conditions of a status are sent, and the server stores them as a merge does. -/
structure SendsReady (request : CertificateRequest) (status : CertificateRequestStatus) : Prop where
  sent : ∀ fieldManager call,
    (ClusterApi.writeStatus fieldManager request status).question? = some call →
      call.conditionKinds? = some (status.owned.conditions.map Condition.kind)
  ready : ∀ condition ∈ status.owned.conditions, condition.kind = Condition.readyKind
  stores : ∀ stored : CertificateRequestStatus, (stored.merge status).conditions =
    Condition.applyByKind stored.conditions status.owned.conditions

theorem sendsReady_project (request : CertificateRequest) (update : StatusUpdate) (stamp : String) :
    SendsReady request (project request.status update stamp) where
  sent _ _ asked := ClusterApi.conditionKinds?_writeStatus asked
  ready _ member := beq_iff_eq.mp (List.mem_filter.mp member).2
  stores _ := CertificateRequestStatus.conditions_merge
    (CertificateRequestStatus.owned_apply_ne_nil _ update stamp)

/-- A caller that writes a status has decided about the copy that it has read. -/
theorem Caller.Transcribes.sendsReady {config : ControllerConfig} {place : ResourceName}
    {observed : List Observation} {request : CertificateRequest}
    {status : CertificateRequestStatus} {next : StoreAnswer Unit → Program Reconcile.Outcome}
    (transcribes :
      Transcribes config ⟨place, observed, .perform (.writeStatus request status) next⟩) :
    SendsReady request status := by
  obtain ⟨trace, outcome, returns⟩ := (next (.ok ())).exists_returns
  have transcript := transcribes (⟨.writeStatus request status, .ok ()⟩ :: trace) outcome
    (.perform _ returns)
  obtain ⟨update, stamp, rfl⟩ :=
    transcript.projects (List.mem_append_right _ List.mem_cons_self)
  exact sendsReady_project request update stamp

namespace Crowd

/-- A change makes the conditions of others what they are in the changed cluster, and no other move
touches them. -/
def Move.remake (name : ResourceName) (conditions : Option (List Condition)) :
    Move → Option (List Condition)
  | .change cluster => cluster.foreignConditions? name
  | _ => conditions

variable {config : ControllerConfig} {first current last next : Crowd} {moves : List Move}
  {move : Move}

theorem Takes.foreignConditions? (takes : Takes config current move next) (name : ResourceName) :
    next.shared.cluster.foreignConditions? name =
      move.remake name (current.shared.cluster.foreignConditions? name) := by
  cases takes with
  | perform answer admitted => exact SharedState.foreignConditions?_after _ _ name
  | _ => rfl

/-- Every status that is written in a move is sent by its Ready conditions. -/
theorem Takes.sendsReady {number : Nat} {request : CertificateRequest}
    {status : CertificateRequestStatus} {answer : StoreAnswer Unit}
    (takes : Takes config current (.perform number ⟨.writeStatus request status, answer⟩) next)
    (transcribes : ∀ caller ∈ current.callers, caller.Transcribes config) :
    SendsReady request status := by
  cases takes with
  | perform answer admitted =>
    exact (transcribes _ (List.mem_append_right _ List.mem_cons_self)).sendsReady

end Crowd

/-- However reconciliations and arbitrary changes of others alternate, also between the read and the
write of one reconciliation, the conditions of other kinds are what the last change made them, and
every status that is written is sent by its Ready conditions alone. -/
theorem other_conditions_survive {config : ControllerConfig} {first last : Crowd}
    {moves : List Crowd.Move} (reachable : Crowd.Reachable config first)
    (run : Crowd.Run config first moves last) (name : ResourceName) :
    last.shared.cluster.foreignConditions? name =
        moves.foldl (Crowd.Move.remake name) (first.shared.cluster.foreignConditions? name) ∧
      ∀ number request status answer,
        .perform number ⟨.writeStatus request status, answer⟩ ∈ moves →
          SendsReady request status := by
  induction run with
  | start => exact ⟨rfl, fun _ _ _ _ member => absurd member List.not_mem_nil⟩
  | @move moves current next move run takes ih =>
      obtain ⟨same, earlier⟩ := ih
      refine ⟨?_, fun number request status answer member => ?_⟩
      · rw [takes.foreignConditions? name, same, List.foldl_append]
        rfl
      · rcases List.mem_append.mp member with before | now
        · exact earlier number request status answer before
        · obtain rfl := List.mem_singleton.mp now
          exact takes.sendsReady (run.reachable reachable).transcribes

/- A reconciliation reads an approved request, and the approver takes its word back before the
certificate is stored. -/
namespace Sample

/-- An approver refuses a request. -/
def denied : Condition := ⟨"Denied", .true, none, none, none⟩

def approvedOrdered : CertificateRequest := ordered.addCondition approved

def approvedFirst : SharedState :=
  { cluster := { first.cluster with requests := [(place, approvedOrdered)] } }

def deniedCluster : Cluster :=
  { first.cluster with requests := [(place, ordered.addCondition denied)] }

def readApproved : Observation := ⟨.readRequest "team" "web", .ok (some approvedOrdered)⟩

/-- The certificate is stored. -/
def issuingApproved : List Observation :=
  built ++ [⟨.collect provisioner approvedOrdered "arn:2", .ok certificate⟩] ++
    [⟨.stamp, "now"⟩,
      ⟨.writeStatus approvedOrdered
        (project approvedOrdered.status (.issued certificate) "now"), .ok ()⟩,
      ⟨.publish (approvedOrdered.event (.issued certificate)), ()⟩]

theorem returns_issuingApproved :
    (Reconcile.reconcile {} place.namespaceName place.name).Returns
      ([readApproved] ++ issuingApproved) (.ok .none) := by
  have decides : Reconcile.Decides {} approvedOrdered
      (built ++ [⟨.collect provisioner approvedOrdered "arn:2", .ok certificate⟩])
      (.issued certificate) (.ok .none) :=
    .issued (equips_built rfl) rfl nofun nofun
  have proceeds := Reconcile.Proceeds.decided decides (.written "now")
  exact Reconcile.returns_reconcile.mpr (.active rfl proceeds)

/-- What happens to the request. -/
def reversal : List Crowd.Move :=
  [.join place] ++ [.perform 0 readApproved] ++ [.change deniedCluster] ++
    issuingApproved.map (.perform 0)

theorem run_reversal : ∃ last, Crowd.Run {} ⟨approvedFirst, []⟩ reversal last ∧
    ∃ later, last.shared.cluster.request? place = some later ∧ later.isIssued = true := by
  obtain ⟨reading, reads, continued⟩ := returns_issuingApproved.goesOn
  have joined : Crowd.Run {} ⟨approvedFirst, []⟩ [.join place] ⟨approvedFirst, [arriving]⟩ :=
    Crowd.Run.start.move (.join approvedFirst [] place)
  have read := joined.goesOn [] [] [readApproved] reads ⟨rfl, trivial⟩
  have issued := (read.move (.change _ _ deniedCluster)).goesOn [] [] issuingApproved
    continued.goesOn_pure
    ⟨rfl, rfl, rfl, nofun, trivial, trivial, trivial, trivial, rfl, trivial, trivial⟩
  exact ⟨_, issued, _, rfl, rfl⟩

end Sample

/-- The certificate is stored from the approved copy, and the request stays refused. -/
theorem sample_denied_survives :
    ∃ last, Crowd.Run {} ⟨Sample.approvedFirst, []⟩ Sample.reversal last ∧
      (∃ later, last.shared.cluster.request? Sample.place = some later ∧ later.isIssued = true) ∧
      last.shared.cluster.foreignConditions? Sample.place = some [Sample.denied] := by
  obtain ⟨last, run, issued⟩ := Sample.run_reversal
  obtain ⟨same, _⟩ :=
    other_conditions_survive (.start Sample.approvedFirst.cluster) run Sample.place
  exact ⟨last, run, issued, same⟩

end Issuance
