import Issuance.Cluster.Store
import Issuance.PrivateCa.Provisioner
import Issuance.Reconcile.Effect
import Issuance.Rehearsal.Script
import Issuance.Retry.ErrorHistory

/- A rehearsal answers every effect from stored resources and scripts, and it keeps records. -/
namespace Issuance.Rehearsal

/-- The operations of the stores that can be made to fail. -/
inductive StoreOperation where
  | read
  | annotate
  | status
  | issuer
  deriving DecidableEq, Repr

/-- One effect as it was seen from outside. -/
inductive Record where
  | read (name : ResourceName)
  | issuer (name : ResourceName)
  | clusterIssuer (name : String)
  | build (number : Nat) (key : AuthorityKey) (spec : IssuerSpec)
  | sign (number : Nat) (name : ResourceName)
  | collect (number : Nat) (name : ResourceName) (arn : String)
  | callSign (number : Nat) (call : Option PrivateCa.Call)
  | callCollect (number : Nat) (call : Option PrivateCa.Call)
  | annotate (name : ResourceName) (arn : String)
  | status (name : ResourceName) (status : CertificateRequestStatus)
  | event (event : Event)

/-- A build under way gives others their turn before it is done. -/
structure PendingBuild where
  turns : Nat
  outcome : Except ProvisionerFailure Unit

/-- A scripted authority, whose identifier may be left to the issuer. -/
structure Backing where
  authorityArn : String
  replies : Script PrivateCa.Reply

namespace Backing

/-- The identifier of a scripted authority. -/
def arnFor (backing : Backing) (provisioner : Provisioner) : String :=
  if backing.authorityArn.isEmpty then provisioner.spec.arn else backing.authorityArn

end Backing

/-- Everything that effects depend on and change. -/
structure World where
  config : ControllerConfig := {}
  publishes : Bool := true
  stampOf : Nat → String
  now : Int
  cluster : Cluster := {}
  cache : ProvisionerCache := {}
  retries : RetryTable := {}
  clock : Instant := 0
  failing : List StoreOperation := []
  arrivingCondition : Option Condition := none
  deletesAfterRead : Bool := false
  statusWrites : Nat := 0
  builds : Nat := 0
  turns : Nat := 0
  pending : List (Nat × PendingBuild) := []
  buildScript : Script (Except ProvisionerFailure Unit) := {}
  signScript : Script (Except ProvisionerFailure String) := {}
  collectScript : Script (Except ProvisionerFailure IssuedCertificate) := {}
  backings : List Backing := []
  backed : List (Nat × Nat) := []
  records : List Record := []

namespace World

def record (world : World) (entry : Record) : World :=
  { world with records := world.records ++ [entry] }

/-- A step starts without records. -/
def forgetRecords (world : World) : World := { world with records := [] }

def elapse (world : World) (span : Span) : World :=
  { world with clock := world.clock + span.nanoseconds }

/-- The reason of an operation that is made to fail. -/
def unavailable : String := "api server unavailable"

/-- The reason of a write to a request that does not exist. -/
def missing : String := "CertificateRequest not found"

/-- What was arranged for the time right after a read takes place. -/
def afterRead (world : World) (name : ResourceName) : World :=
  let arrived :=
    match world.arrivingCondition with
    | none => world.cluster
    | some condition => world.cluster.changeRequest name (·.addCondition condition)
  let cluster := if world.deletesAfterRead then arrived.deleteRequest name else arrived
  { world with cluster, arrivingCondition := none, deletesAfterRead := false }

def readRequest (world : World) (name : ResourceName) :
    StoreAnswer (Option CertificateRequest) × World :=
  let seen := world.record (.read name)
  if .read ∈ world.failing then (.error unavailable, seen)
  else
    match world.cluster.request? name with
    | none => (.ok none, seen)
    | some request => (.ok (some request), seen.afterRead name)

def lookUp (world : World) (entry : Record) (found : Option α) :
    StoreAnswer (Option α) × World :=
  (if .issuer ∈ world.failing then .error unavailable else .ok found, world.record entry)

/-- A request is written, when it exists and writing does not fail. -/
def write (world : World) (operation : StoreOperation) (name : ResourceName)
    (change : CertificateRequest → CertificateRequest) : StoreAnswer Unit × World :=
  if operation ∈ world.failing then (.error unavailable, world)
  else if (world.cluster.request? name).isNone then (.error missing, world)
  else (.ok (), { world with cluster := world.cluster.changeRequest name change })

/-- A build starts, and its outcome is settled from the start. -/
def startBuild (world : World) (key : AuthorityKey) (spec : IssuerSpec) : Nat × World :=
  let number := world.builds + 1
  let (outcome, buildScript) := world.buildScript.next
  let started : PendingBuild := ⟨world.turns, outcome.getD (.ok ())⟩
  (number,
    { world.record (.build number key spec) with
      builds := number
      buildScript
      pending := (number, started) :: world.pending
      backed :=
        if world.backings.isEmpty then world.backed
        else (number, world.backings.length - 1) :: world.backed })

/-- The scripted authority behind a provisioner. -/
def backing? (world : World) (provisioner : Provisioner) : Option (Nat × Backing) :=
  (world.backed.lookup provisioner.number).bind fun index =>
    (world.backings[index]?).map (index, ·)

/-- An exchange with a scripted authority uses up a reply only when it asks. -/
def converse (world : World) (index : Nat) (backing : Backing)
    (exchange : Exchange PrivateCa.Call PrivateCa.Reply ProvisionerFailure α) :
    Except ProvisionerFailure α × World :=
  match exchange.question? with
  | none => (exchange.conclude .unreadable, world)
  | some _ =>
    let (reply, replies) := backing.replies.next
    (exchange.conclude (reply.getD .unreadable),
      { world with backings := world.backings.set index { backing with replies } })

/-- The failure of a provisioner that nothing was arranged for. -/
def unscripted : ProvisionerFailure := .api ""

def sign (world : World) (provisioner : Provisioner) (request : CertificateRequest) :
    Except ProvisionerFailure String × World :=
  match world.backing? provisioner with
  | some (index, backing) =>
    let exchange := PrivateCa.sign (backing.arnFor provisioner) world.now request
    (world.record (.callSign provisioner.number exchange.question?)).converse index backing
      exchange
  | none =>
    let (answer, signScript) := world.signScript.next
    (answer.getD (.error unscripted),
      { world.record (.sign provisioner.number request.metadata.resourceName) with signScript })

def collect (world : World) (provisioner : Provisioner) (request : CertificateRequest)
    (arn : String) : Except ProvisionerFailure IssuedCertificate × World :=
  match world.backing? provisioner with
  | some (index, backing) =>
    let exchange := PrivateCa.collect (backing.arnFor provisioner) arn
    (world.record (.callCollect provisioner.number exchange.question?)).converse index backing
      exchange
  | none =>
    let (answer, collectScript) := world.collectScript.next
    (answer.getD (.error unscripted),
      { world.record (.collect provisioner.number request.metadata.resourceName arn) with
        collectScript })

end World

/-- An effect is answered, or its caller has to wait. -/
inductive Reaction (α : Type) where
  | answered (answer : α) (world : World)
  | waiting (world : World)

namespace World

/-- A build that is done leaves the list of those under way. -/
def finishBuild (world : World) (number : Nat) : Reaction (Except ProvisionerFailure Unit) :=
  match world.pending.lookup number with
  | none => .answered (.ok ()) world
  | some build =>
    let others := Entries.remove number world.pending
    if build.turns = 0 then .answered build.outcome { world with pending := others }
    else
      .waiting
        { world with pending := (number, { build with turns := build.turns - 1 }) :: others }

/-- The world answers an effect. -/
def answer (world : World) : (effect : Effect) → Reaction effect.Answer
  | .readRequest namespaceName name =>
    let (found, world) := world.readRequest ⟨namespaceName, name⟩
    .answered found world
  | .readIssuer namespaceName name =>
    let place : ResourceName := ⟨namespaceName, name⟩
    let (found, world) := world.lookUp (.issuer place) (world.cluster.issuer? place)
    .answered found world
  | .readClusterIssuer name =>
    let (found, world) := world.lookUp (.clusterIssuer name) (world.cluster.clusterIssuer? name)
    .answered found world
  | .enterSlot key spec =>
    let (slot, cache) := world.cache.enter key spec
    .answered slot { world with cache }
  | .acquireSlot slot =>
    match world.cache.acquire? slot with
    | none => .waiting world
    | some (held, cache) => .answered held { world with cache }
  | .startBuild key spec =>
    let (number, world) := world.startBuild key spec
    .answered number world
  | .finishBuild provisioner => world.finishBuild provisioner.number
  | .settleSlot slot built => .answered () { world with cache := world.cache.settle slot built }
  | .sign provisioner request =>
    let (outcome, world) := world.sign provisioner request
    .answered outcome world
  | .collect provisioner request arn =>
    let (outcome, world) := world.collect provisioner request arn
    .answered outcome world
  | .stamp => .answered (world.stampOf (world.statusWrites + 1)) world
  | .annotate request arn =>
    let name := request.metadata.resourceName
    let (outcome, world) :=
      (world.record (.annotate name arn)).write .annotate name (·.annotateArn arn)
    .answered outcome world
  | .writeStatus request status =>
    let name := request.metadata.resourceName
    let counted := { world with statusWrites := world.statusWrites + 1 }
    let (outcome, world) :=
      (counted.record (.status name status)).write .status name (·.mergeStatus status)
    .answered outcome world
  | .publish event =>
    .answered () (if world.publishes then world.record (.event event) else world)

end World

end Issuance.Rehearsal
