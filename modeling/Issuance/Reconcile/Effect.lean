import Issuance.Provisioner.Cache
import Issuance.Reconcile.Status
import Issuance.Resource.Secret

namespace Issuance

/-- An event tells about a request what its status tells. -/
structure Event where
  isWarning : Bool
  reason : String
  note : Option String
  regarding : ObjectReference
  deriving DecidableEq, Repr, Inhabited

namespace CertificateRequest

/-- The reference by which events point to a request. -/
def objectReference (request : CertificateRequest) : ObjectReference :=
  { apiVersion := some apiVersion
    kind := some kindName
    name := request.metadata.name
    namespaceName := request.metadata.namespaceName
    resourceVersion := request.metadata.resourceVersion
    uid := request.metadata.uid }

def event (request : CertificateRequest) (update : StatusUpdate) : Event :=
  ⟨update.isWarning, update.reason, some update.message, request.objectReference⟩

end CertificateRequest

/-- A store answers, or it gives the reason why it does not. -/
abbrev StoreAnswer (α : Type) : Type := Except String α

/-- One step that others can observe. -/
inductive Effect where
  | readRequest (namespaceName name : String)
  | readIssuer (namespaceName name : String)
  | readClusterIssuer (name : String)
  | enterSlot (key : AuthorityKey) (spec : IssuerSpec)
  | acquireSlot (slot : Nat)
  | startBuild (key : AuthorityKey) (spec : IssuerSpec)
  | finishBuild (provisioner : Provisioner)
  | settleSlot (slot : Nat) (built : Option Provisioner)
  | sign (provisioner : Provisioner) (request : CertificateRequest)
  | collect (provisioner : Provisioner) (request : CertificateRequest) (arn : String)
  | stamp
  | annotate (request : CertificateRequest) (arn : String)
  | writeStatus (request : CertificateRequest) (status : CertificateRequestStatus)
  | publish (event : Event)
  deriving Inhabited

namespace Effect

/-- What an effect answers. -/
@[reducible]
def Answer : Effect → Type
  | readRequest _ _ => StoreAnswer (Option CertificateRequest)
  | readIssuer _ _ => StoreAnswer (Option Issuer)
  | readClusterIssuer _ => StoreAnswer (Option ClusterIssuer)
  | enterSlot _ _ => Nat
  | acquireSlot _ => Option Provisioner
  | startBuild _ _ => Nat
  | finishBuild _ => Except ProvisionerFailure Unit
  | settleSlot _ _ => Unit
  | sign _ _ => Except ProvisionerFailure String
  | collect _ _ _ => Except ProvisionerFailure IssuedCertificate
  | stamp => String
  | annotate _ _ => StoreAnswer Unit
  | writeStatus _ _ => StoreAnswer Unit
  | publish _ => Unit

end Effect

/-- A program is finished, or it performs an effect and goes on with the answer. -/
inductive Program (α : Type) where
  | pure (value : α)
  | perform (effect : Effect) (next : effect.Answer → Program α)

namespace Program

/-- A program that ends with another one. -/
def andThen : Program α → (α → Program β) → Program β
  | pure value, continuation => continuation value
  | perform effect next, continuation =>
    perform effect fun answer => (next answer).andThen continuation

instance : Monad Program where
  pure := Program.pure
  bind := Program.andThen

/-- A program that performs one effect. -/
def ask (effect : Effect) : Program effect.Answer := perform effect pure

end Program

end Issuance
