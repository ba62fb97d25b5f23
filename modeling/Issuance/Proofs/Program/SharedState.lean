import Issuance.Proofs.Cluster.Requests
import Issuance.Proofs.Program.Observation

namespace Issuance

/-- Programs share the stored resources, the cache and the builds of provisioners. -/
structure SharedState where
  cluster : Cluster := {}
  cache : ProvisionerCache := {}
  started : List Provisioner := []
  finished : List Provisioner := []

namespace SharedState

/-- Stores may fail at any time, and nothing is known about builds, certificates and the clock. A
write needs its request, a slot may keep its callers waiting, and no two builds have one number. -/
def Admits (shared : SharedState) : Observation → Prop
  | ⟨.readRequest namespaceName name, .ok found⟩ =>
    found = shared.cluster.request? ⟨namespaceName, name⟩
  | ⟨.readIssuer namespaceName name, .ok found⟩ =>
    found = shared.cluster.issuer? ⟨namespaceName, name⟩
  | ⟨.readClusterIssuer name, .ok found⟩ => found = shared.cluster.clusterIssuer? name
  | ⟨.enterSlot key spec, slot⟩ => slot = (shared.cache.enter key spec).1
  | ⟨.acquireSlot slot, held⟩ => (shared.cache.acquire? slot).map Prod.fst = some held
  | ⟨.startBuild _ _, number⟩ => ∀ provisioner ∈ shared.started, provisioner.number ≠ number
  | ⟨.annotate request _, .ok _⟩ =>
    (shared.cluster.request? request.metadata.resourceName).isSome = true
  | ⟨.writeStatus request _, .ok _⟩ =>
    (shared.cluster.request? request.metadata.resourceName).isSome = true
  | _ => True

/-- What an observation leaves behind. A store that failed keeps what it had. -/
def after (shared : SharedState) : Observation → SharedState
  | ⟨.enterSlot key spec, _⟩ =>
    { shared with cache := (shared.cache.enter key spec).2 }
  | ⟨.acquireSlot slot, _⟩ =>
    { shared with
      cache := ((shared.cache.acquire? slot).map Prod.snd).getD shared.cache }
  | ⟨.startBuild key spec, number⟩ =>
    { shared with started := ⟨number, key, spec⟩ :: shared.started }
  | ⟨.finishBuild provisioner, .ok _⟩ =>
    { shared with finished := provisioner :: shared.finished }
  | ⟨.settleSlot slot built, _⟩ =>
    { shared with cache := shared.cache.settle slot built }
  | ⟨.annotate request arn, .ok _⟩ =>
    { shared with
      cluster := shared.cluster.changeRequest request.metadata.resourceName
        (·.annotateArn arn) }
  | ⟨.writeStatus request status, .ok _⟩ =>
    { shared with
      cluster := shared.cluster.changeRequest request.metadata.resourceName
        (·.mergeStatus status) }
  | _ => shared

/-- The observations follow each other, each one in what the earlier ones left behind. -/
def AdmitsAll : SharedState → List Observation → Prop
  | _, [] => True
  | shared, observation :: trace =>
    shared.Admits observation ∧ (shared.after observation).AdmitsAll trace

/-- What some observations leave behind, one after the other. -/
def afterAll (shared : SharedState) (trace : List Observation) : SharedState :=
  trace.foldl after shared

variable {shared : SharedState}

@[simp] theorem afterAll_nil : shared.afterAll [] = shared := rfl

@[simp] theorem afterAll_cons {observation : Observation} {trace : List Observation} :
    shared.afterAll (observation :: trace) =
      (shared.after observation).afterAll trace := rfl

@[simp] theorem afterAll_append {first second : List Observation} :
    shared.afterAll (first ++ second) = (shared.afterAll first).afterAll second :=
  List.foldl_append

@[simp] theorem admitsAll_append {first second : List Observation} :
    shared.AdmitsAll (first ++ second) ↔
      shared.AdmitsAll first ∧ (shared.afterAll first).AdmitsAll second := by
  induction first generalizing shared with
  | nil => simp [AdmitsAll]
  | cons observation first ih => simp [AdmitsAll, ih, and_assoc]

end SharedState

namespace Observation

/-- The name of the request that an observation changes. -/
def target? : Observation → Option ResourceName
  | ⟨.annotate request _, .ok _⟩ => some request.metadata.resourceName
  | ⟨.writeStatus request _, .ok _⟩ => some request.metadata.resourceName
  | _ => none

end Observation

namespace SharedState

variable {shared : SharedState}

/-- A request changes only by writes that name it. -/
theorem request?_after (observation : Observation) {name : ResourceName}
    (others : observation.target? ≠ some name) :
    (shared.after observation).cluster.request? name =
      shared.cluster.request? name := by
  obtain ⟨effect, answer⟩ := observation
  cases effect with
  | annotate request arn =>
      cases answer with
      | error reason => rfl
      | ok _ =>
        have different : name ≠ request.metadata.resourceName := by
          rintro rfl
          exact others rfl
        simp [after, Cluster.request?_changeRequest, different]
  | writeStatus request status =>
      cases answer with
      | error reason => rfl
      | ok _ =>
        have different : name ≠ request.metadata.resourceName := by
          rintro rfl
          exact others rfl
        simp [after, Cluster.request?_changeRequest, different]
  | finishBuild provisioner => cases answer <;> rfl
  | _ => rfl

theorem request?_afterAll {trace : List Observation} {name : ResourceName}
    (others : ∀ observation ∈ trace, observation.target? ≠ some name) :
    (shared.afterAll trace).cluster.request? name =
      shared.cluster.request? name := by
  induction trace generalizing shared with
  | nil => rfl
  | cons observation trace ih =>
      rw [afterAll_cons, ih fun later member => others later (List.mem_cons_of_mem _ member)]
      exact request?_after observation (others observation List.mem_cons_self)

/-- Writes keep every request under its name. -/
theorem isNamed_after (named : shared.cluster.IsNamed) (observation : Observation) :
    (shared.after observation).cluster.IsNamed := by
  obtain ⟨effect, answer⟩ := observation
  cases effect with
  | annotate request arn =>
      cases answer with
      | error reason => exact named
      | ok _ => exact named.changeRequest _ fun _ => rfl
  | writeStatus request status =>
      cases answer with
      | error reason => exact named
      | ok _ => exact named.changeRequest _ fun _ => rfl
  | finishBuild provisioner => cases answer <;> exact named
  | _ => exact named

theorem isNamed_afterAll (named : shared.cluster.IsNamed) (trace : List Observation) :
    (shared.afterAll trace).cluster.IsNamed := by
  induction trace generalizing shared with
  | nil => exact named
  | cons observation trace ih => exact ih (isNamed_after named observation)

end SharedState

end Issuance
