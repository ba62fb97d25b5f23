import Issuance.Reconcile.Reconcile
import Issuance.Rehearsal.Rounds

namespace Issuance.Rehearsal

/-- The outcome of a dispatch: the failure, if there was one, and what follows. -/
structure Dispatch where
  failure : Option ReconcileFailure
  action : Action
  deriving DecidableEq, Repr

namespace World

/-- Some requests of a namespace are reconciled side by side. -/
def reconcileAll (world : World) (namespaceName : String) (names : List String) :
    List (Option Reconcile.Outcome) × World :=
  world.runAll (names.map (Reconcile.reconcile world.config namespaceName))

def reconcile (world : World) (namespaceName name : String) :
    Option Reconcile.Outcome × World :=
  world.runOne (Reconcile.reconcile world.config namespaceName name)

def resolve (world : World) (request : CertificateRequest) :
    Option (Except ReconcileFailure Authority) × World :=
  world.runOne (Reconcile.resolve request)

/-- The provisioner of an authority, wanted by several callers side by side. -/
def provisionAll (world : World) (key : AuthorityKey) (specs : List IssuerSpec) :
    List (Option (Except ProvisionerFailure Provisioner)) × World :=
  world.runAll (specs.map (Reconcile.provisionerFor key))

/-- An error of a resource sets its next try. -/
def retry (world : World) (key : String) : Retry × World :=
  let (retry, retries) := world.retries.recordError world.config world.clock key
  (retry, { world with retries })

/-- A success of a resource drops its errors. -/
def forget (world : World) (key : String) : World :=
  { world with retries := world.retries.forget key }

/-- The key under which the errors of a request are kept. -/
def retryKey (metadata : Metadata) : String :=
  resourceKey (metadata.namespaceName.getD "") metadata.anyName

/-- A failed request is tried again after its backoff. -/
def applyPolicy (world : World) (metadata : Metadata) : Action × World :=
  let (retry, world) := world.retry (retryKey metadata)
  (.requeue retry.delay, world)

/-- A request is reconciled, and the outcome decides what follows. -/
def dispatch (world : World) (metadata : Metadata) : Dispatch × World :=
  let (outcome, world) :=
    world.reconcile (metadata.namespaceName.getD "") metadata.anyName
  match outcome with
  | none => (⟨none, .awaitChange⟩, world)
  | some (.ok requeue) => (⟨none, requeue.action⟩, world.forget (retryKey metadata))
  | some (.error failure) =>
    let (action, world) := world.applyPolicy metadata
    (⟨some failure, action⟩, world)

/-- A request is due at an instant. -/
structure Due where
  instant : Instant
  metadata : Metadata

/-- The agenda keeps what is due first in front. -/
def schedule (due : Due) : List Due → List Due
  | [] => [due]
  | next :: agenda =>
    if due.instant < next.instant then due :: next :: agenda else next :: schedule due agenda

/-- What is due is dispatched until a count of dispatches is reached. -/
def dispatchDue (world : World) : Nat → List Due → World
  | 0, _ => world
  | _ + 1, [] => world
  | count + 1, due :: agenda =>
    let (dispatched, world) :=
      { world with clock := max world.clock due.instant }.dispatch due.metadata
    match dispatched.action with
    | .awaitChange => world.dispatchDue count agenda
    | .requeue delay =>
      world.dispatchDue count
        (schedule ⟨world.clock + delay.nanoseconds, due.metadata⟩ agenda)

/-- The watch starts from the stored requests, and a signal stops it at a count of dispatches. -/
def watch (world : World) (count : Nat) : World :=
  world.dispatchDue count
    (world.cluster.requests.map fun entry => ⟨world.clock, entry.2.metadata⟩)

end World

def listPath : String := "/apis/cert-manager.io/v1/certificaterequests"

/-- A list that failed shows its code, and the list after the last failure succeeds. -/
def listings (failures : List (Option Nat)) : List String :=
  (failures.map fun code =>
    match code with
    | none => s!"{listPath} -> null"
    | some code => s!"{listPath} -> {code}") ++ [s!"{listPath} -> ok"]

end Issuance.Rehearsal
