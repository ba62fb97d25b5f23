import Issuance.Proofs.Program.SharedState
import Issuance.Proofs.Reconcile.Projection
import Issuance.Proofs.Reconcile.Transcript

namespace Issuance

namespace Observation

/-- The observation belongs to the search for a provisioner. -/
def isPreparation : Observation → Bool
  | ⟨.readIssuer _ _, _⟩ => true
  | ⟨.readClusterIssuer _, _⟩ => true
  | ⟨.enterSlot _ _, _⟩ => true
  | ⟨.acquireSlot _, _⟩ => true
  | ⟨.startBuild _ _, _⟩ => true
  | ⟨.finishBuild _, _⟩ => true
  | ⟨.settleSlot _ _, _⟩ => true
  | _ => false

/-- What an observation makes of the request that it changes. -/
def rewrite : Observation → CertificateRequest → CertificateRequest
  | ⟨.annotate _ arn, .ok _⟩ => CertificateRequest.annotateArn arn
  | ⟨.writeStatus _ status, .ok _⟩ => CertificateRequest.mergeStatus status
  | _ => id

/-- What some observations make of a request, one after the other. -/
def rewriteAll (trace : List Observation) (request : CertificateRequest) : CertificateRequest :=
  trace.foldl (fun current observation => observation.rewrite current) request

/-- An observation writes only the given request. It orders a certificate only without an
identifier, and it collects one only by the identifier on the request. -/
def Suits (request : CertificateRequest) : Observation → Prop
  | ⟨.sign _ ordered, _⟩ => ordered = request ∧ request.certificateArn? = none
  | ⟨.collect _ ordered arn, _⟩ => ordered = request ∧ request.certificateArn? = some arn
  | ⟨.annotate ordered _, _⟩ => ordered = request ∧ request.certificateArn? = none
  | ⟨.writeStatus written _, _⟩ => written = request
  | _ => True

variable {trace : List Observation} {request : CertificateRequest}

theorem suits_of_isPreparation {observation : Observation}
    (preparation : observation.isPreparation = true) : observation.Suits request := by
  obtain ⟨effect, answer⟩ := observation
  cases effect with
  | sign provisioner request => cases preparation
  | collect provisioner request arn => cases preparation
  | annotate request arn => cases preparation
  | writeStatus request status => cases preparation
  | _ => trivial

/-- An observation that suits a request writes no other one. -/
theorem Suits.target? {observation : Observation} (suits : observation.Suits request) :
    observation.target? = none ∨ observation.target? = some request.metadata.resourceName := by
  obtain ⟨effect, answer⟩ := observation
  cases effect with
  | annotate written arn =>
      obtain ⟨rfl, _⟩ := suits
      cases answer with
      | error reason => exact .inl rfl
      | ok _ => exact .inr rfl
  | writeStatus written status =>
      obtain rfl : written = request := suits
      cases answer with
      | error reason => exact .inl rfl
      | ok _ => exact .inr rfl
  | _ => exact .inl rfl

theorem rewrite_of_target?_eq_none {observation : Observation}
    (untargeted : observation.target? = none) : observation.rewrite request = request := by
  obtain ⟨effect, answer⟩ := observation
  cases effect with
  | annotate written arn => cases answer <;> simp_all [target?, rewrite]
  | writeStatus written status => cases answer <;> simp_all [target?, rewrite]
  | _ => rfl

theorem target?_of_isPreparation {observation : Observation}
    (preparation : observation.isPreparation = true) : observation.target? = none := by
  obtain ⟨effect, answer⟩ := observation
  cases effect <;> first | rfl | cases preparation

@[simp] theorem rewriteAll_nil : rewriteAll [] request = request := rfl

@[simp] theorem rewriteAll_cons {observation : Observation} :
    rewriteAll (observation :: trace) request = rewriteAll trace (observation.rewrite request) :=
  rfl

@[simp] theorem rewriteAll_append {first second : List Observation} :
    rewriteAll (first ++ second) request = rewriteAll second (rewriteAll first request) :=
  List.foldl_append

/-- The search for a provisioner writes no request. -/
theorem rewriteAll_of_isPreparation
    (preparations : ∀ observation ∈ trace, observation.isPreparation = true) :
    rewriteAll trace request = request := by
  induction trace with
  | nil => rfl
  | cons observation trace ih =>
      have untargeted := target?_of_isPreparation (preparations observation List.mem_cons_self)
      rw [rewriteAll_cons, rewrite_of_target?_eq_none untargeted]
      exact ih fun later member => preparations later (List.mem_cons_of_mem _ member)

end Observation

namespace SharedState

variable {shared : SharedState} {name : ResourceName}

theorem request?_after_of_target? {observation : Observation}
    (own : observation.target? = none ∨ observation.target? = some name) :
    (shared.after observation).cluster.request? name =
      (shared.cluster.request? name).map observation.rewrite := by
  rcases own with untargeted | targeted
  · have same : observation.rewrite = id := by
      funext request
      exact Observation.rewrite_of_target?_eq_none untargeted
    rw [request?_after observation (by simp [untargeted]), same, Option.map_id_fun, id]
  · obtain ⟨effect, answer⟩ := observation
    cases effect with
    | annotate request arn =>
      cases answer with
      | error reason => cases targeted
      | ok _ =>
        obtain rfl := Option.some.inj targeted
        simp [after, Cluster.request?_changeRequest, Observation.rewrite]
    | writeStatus request status =>
      cases answer with
      | error reason => cases targeted
      | ok _ =>
        obtain rfl := Option.some.inj targeted
        simp [after, Cluster.request?_changeRequest, Observation.rewrite]
    | _ => cases targeted

/-- When all writes go to one request, it becomes what they make of it. -/
theorem request?_afterAll_of_target? {trace : List Observation}
    (own : ∀ observation ∈ trace,
      observation.target? = none ∨ observation.target? = some name) :
    (shared.afterAll trace).cluster.request? name =
      (shared.cluster.request? name).map (Observation.rewriteAll trace) := by
  induction trace generalizing shared with
  | nil =>
      change _ = Option.map id _
      rw [Option.map_id_fun]
      rfl
  | cons observation trace ih =>
      rw [afterAll_cons, ih fun later member => own later (List.mem_cons_of_mem _ member),
        request?_after_of_target? (own observation List.mem_cons_self), Option.map_map]
      rfl

/-- The search for a provisioner leaves the cluster alone. -/
theorem cluster_afterAll {trace : List Observation}
    (preparations : ∀ observation ∈ trace, observation.isPreparation = true) :
    (shared.afterAll trace).cluster = shared.cluster := by
  induction trace generalizing shared with
  | nil => rfl
  | cons observation trace ih =>
      rw [afterAll_cons, ih fun later member => preparations later (List.mem_cons_of_mem _ member)]
      have preparation := preparations observation List.mem_cons_self
      obtain ⟨effect, answer⟩ := observation
      cases effect with
      | finishBuild provisioner => cases answer <;> rfl
      | annotate request arn => cases preparation
      | writeStatus request status => cases preparation
      | _ => rfl

/-- Only the search for a provisioner uses the cache and the builds. -/
theorem cache_afterAll {trace : List Observation}
    (others : ∀ observation ∈ trace, observation.isPreparation = false) :
    (shared.afterAll trace).cache = shared.cache ∧
      (shared.afterAll trace).finished = shared.finished := by
  induction trace generalizing shared with
  | nil => exact ⟨rfl, rfl⟩
  | cons observation trace ih =>
      obtain ⟨cache, finished⟩ := @ih (shared.after observation)
        fun later member => others later (List.mem_cons_of_mem _ member)
      have other := others observation List.mem_cons_self
      rw [afterAll_cons, cache, finished]
      obtain ⟨effect, answer⟩ := observation
      cases effect with
      | annotate request arn => cases answer <;> exact ⟨rfl, rfl⟩
      | writeStatus request status => cases answer <;> exact ⟨rfl, rfl⟩
      | _ => first | exact ⟨rfl, rfl⟩ | cases other

end SharedState

namespace Reconcile

variable {config : ControllerConfig} {request : CertificateRequest} {trace : List Observation}
  {outcome : Outcome}

theorem Resolves.isPreparation {result : Except ReconcileFailure Authority}
    (resolves : Resolves request trace result) :
    ∀ observation ∈ trace, observation.isPreparation = true := by
  cases resolves <;> simp [Observation.isPreparation]

theorem Provides.isPreparation {key : AuthorityKey} {spec : IssuerSpec}
    {result : Except ProvisionerFailure Provisioner} (provides : Provides key spec trace result) :
    ∀ observation ∈ trace, observation.isPreparation = true := by
  cases provides <;> simp [Observation.isPreparation]

theorem Equips.isPreparation {provisioner : Provisioner}
    (equips : Equips request provisioner trace) :
    ∀ observation ∈ trace, observation.isPreparation = true := by
  cases equips with
  | intro resolves provides =>
    intro observation member
    rcases List.mem_append.mp member with found | provided
    · exact resolves.isPreparation observation found
    · exact provides.isPreparation observation provided

/-- What is asked of an authority, and written about it, before a decision. -/
inductive Asks (request : CertificateRequest) : List Observation → StatusUpdate → Prop where
  | nothing (update : StatusUpdate) : Asks request [] update
  | refused (provisioner : Provisioner) (failure : ProvisionerFailure)
      (unordered : request.certificateArn? = none) :
      Asks request [⟨.sign provisioner request, .error failure⟩]
        (.failed (ReconcileFailure.sign failure).message)
  | ordered (provisioner : Provisioner) (arn : String)
      (unordered : request.certificateArn? = none) :
      Asks request [⟨.sign provisioner request, .ok arn⟩, ⟨.annotate request arn, .ok ()⟩]
        (.pending orderedMessage)
  | collected (provisioner : Provisioner) {arn : String}
      (answer : Except ProvisionerFailure IssuedCertificate) (update : StatusUpdate)
      (ordered : request.certificateArn? = some arn) :
      Asks request [⟨.collect provisioner request arn, answer⟩] update

/-- The search for a provisioner comes before anything is asked of an authority. -/
theorem Decides.asks {update : StatusUpdate} {decided : Outcome}
    (decides : Decides config request trace update decided) :
    ∃ prepared asked, trace = prepared ++ asked ∧
      (∀ observation ∈ prepared, observation.isPreparation = true) ∧
      Asks request asked update := by
  cases decides with
  | unresolved resolves =>
    exact ⟨_, [], (List.append_nil _).symm, resolves.isPreparation, .nothing _⟩
  | @unprovided _ found provided _ resolves provides =>
    have preparations := List.forall_mem_append.mpr
      ⟨resolves.isPreparation, provides.isPreparation⟩
    exact ⟨found ++ provided, [], (List.append_nil _).symm, preparations, .nothing _⟩
  | malformed equips => exact ⟨_, [], (List.append_nil _).symm, equips.isPreparation, .nothing _⟩
  | refused equips unordered decoded failure =>
    exact ⟨_, _, rfl, equips.isPreparation, .refused _ failure unordered⟩
  | ordered equips unordered decoded arn =>
    exact ⟨_, _, rfl, equips.isPreparation, .ordered _ arn unordered⟩
  | issued equips ordered => exact ⟨_, _, rfl, equips.isPreparation, .collected _ _ _ ordered⟩
  | waiting equips ordered => exact ⟨_, _, rfl, equips.isPreparation, .collected _ _ _ ordered⟩
  | lost equips ordered => exact ⟨_, _, rfl, equips.isPreparation, .collected _ _ _ ordered⟩

/-- The identifier of an order is all that is written before a decision. -/
theorem Decides.rewriteAll {update : StatusUpdate} {decided : Outcome}
    (decides : Decides config request trace update decided) :
    Observation.rewriteAll trace request = request ∨
      ∃ arn, request.certificateArn? = none ∧
        Observation.rewriteAll trace request = request.annotateArn arn := by
  obtain ⟨prepared, asked, rfl, preparations, asks⟩ := decides.asks
  rw [Observation.rewriteAll_append, Observation.rewriteAll_of_isPreparation preparations]
  cases asks with
  | nothing => exact .inl rfl
  | refused => exact .inl rfl
  | ordered provisioner arn unordered => exact .inr ⟨arn, unordered, rfl⟩
  | collected => exact .inl rfl

/-- A decision changes what the controller writes of the status, or it is lost. -/
theorem Settles.ownStatus {update : StatusUpdate} {decided : Outcome}
    (settles : Settles request update decided trace outcome) (current : CertificateRequest) :
    Observation.rewriteAll trace current = current ∨
      ∃ stamp, (Observation.rewriteAll trace current).metadata = current.metadata ∧
        (Observation.rewriteAll trace current).spec = current.spec ∧
        (Observation.rewriteAll trace current).ownStatus =
          request.ownStatus.apply update stamp := by
  cases settles with
  | unwritten stamp reason => exact .inl rfl
  | written stamp =>
    refine .inr ⟨stamp, rfl, rfl, ?_⟩
    rw [← CertificateRequest.owned_project request update stamp]
    exact CertificateRequest.ownStatus_mergeStatus current _

theorem Decides.suits {update : StatusUpdate} {decided : Outcome}
    (decides : Decides config request trace update decided) :
    ∀ observation ∈ trace, observation.Suits request := by
  obtain ⟨prepared, asked, rfl, preparations, asks⟩ := decides.asks
  refine List.forall_mem_append.mpr ⟨fun observation member => ?_, ?_⟩
  · exact Observation.suits_of_isPreparation (preparations observation member)
  · cases asks with
    | nothing => exact List.forall_mem_nil _
    | refused provisioner failure unordered => simp [Observation.Suits, unordered]
    | ordered provisioner arn unordered => simp [Observation.Suits, unordered]
    | collected provisioner answer update ordered => simp [Observation.Suits, ordered]

/-- All that a reconciliation does suits the request that it has read. -/
theorem Proceeds.suits (proceeds : Proceeds config request trace outcome) :
    ∀ observation ∈ trace, observation.Suits request := by
  cases proceeds with
  | unrecorded equips unordered =>
    refine List.forall_mem_append.mpr ⟨fun observation member => ?_, ?_⟩
    · exact Observation.suits_of_isPreparation (equips.isPreparation observation member)
    · simp [Observation.Suits, unordered]
  | decided decides settles =>
    refine List.forall_mem_append.mpr ⟨decides.suits, ?_⟩
    cases settles <;> simp [Observation.Suits]

/-- A request keeps its status as far as this controller writes it, or it gets the status of a
decision. -/
theorem Proceeds.ownStatus (proceeds : Proceeds config request trace outcome) :
    (Observation.rewriteAll trace request).ownStatus = request.ownStatus ∨
      ∃ before update decided stamp, Decides config request before update decided ∧
        (Observation.rewriteAll trace request).ownStatus =
          request.ownStatus.apply update stamp := by
  cases proceeds with
  | unrecorded equips =>
    rw [Observation.rewriteAll_append,
      Observation.rewriteAll_of_isPreparation equips.isPreparation]
    exact .inl rfl
  | @decided before _ update decided _ decides settles =>
    rw [Observation.rewriteAll_append]
    rcases settles.ownStatus (Observation.rewriteAll before request) with lost | written
    · rw [lost]
      rcases decides.rewriteAll with same | ⟨arn, _, annotated⟩
      · exact .inl (by rw [same])
      · exact .inl (by rw [annotated, CertificateRequest.ownStatus_annotateArn])
    · obtain ⟨stamp, _, _, changed⟩ := written
      exact .inr ⟨before, update, decided, stamp, decides, changed⟩

end Reconcile

end Issuance
