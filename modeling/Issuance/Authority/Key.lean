import Issuance.Resource.CertificateRequest
import Issuance.Resource.Issuer

namespace Issuance

/-- Only authorities of one namespace have a namespace. -/
structure AuthorityKey where
  kind : IssuerKind
  namespaceName : Option String
  name : String
  deriving DecidableEq, Repr, Inhabited

namespace AuthorityKey

def issuer (namespaceName name : String) : AuthorityKey := ⟨.issuer, some namespaceName, name⟩

def clusterIssuer (name : String) : AuthorityKey := ⟨.clusterIssuer, none, name⟩

/-- A key is written with slashes between its parts. -/
def text (key : AuthorityKey) : String :=
  match key.namespaceName with
  | none => s!"{key.kind.name}/{key.name}"
  | some namespaceName => s!"{key.kind.name}/{namespaceName}/{key.name}"

end AuthorityKey

/-- An issuer of either kind. -/
inductive Authority where
  | issuer (issuer : Issuer)
  | clusterIssuer (issuer : ClusterIssuer)
  deriving Inhabited

namespace Authority

def kind : Authority → IssuerKind
  | issuer _ => .issuer
  | clusterIssuer _ => .clusterIssuer

/-- The namespace of an authority, where a cluster issuer has none. -/
def namespaceName : Authority → Option String
  | issuer found => found.metadata.namespaceName
  | clusterIssuer _ => none

def name : Authority → String
  | issuer found => found.metadata.anyName
  | clusterIssuer found => found.metadata.anyName

def spec : Authority → IssuerSpec
  | issuer found => found.spec
  | clusterIssuer found => found.spec.issuer

def status : Authority → Option IssuerStatus
  | issuer found => found.status
  | clusterIssuer found => found.status

/-- An authority is usable when its Ready condition is true. -/
def isReady (authority : Authority) : Bool :=
  match authority.status with
  | none => false
  | some status => status.isReady

def key (authority : Authority) : AuthorityKey :=
  ⟨authority.kind, authority.namespaceName, authority.name⟩

end Authority

end Issuance
