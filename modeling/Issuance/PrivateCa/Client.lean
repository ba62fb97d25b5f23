import Issuance.Authority.Exchange
import Issuance.PrivateCa.Credentials

namespace Issuance.PrivateCa

/-- A client without credentials goes by those of its surroundings. -/
structure Client where
  authorityArn : String
  region : String
  credentials : Option Credentials
  deriving DecidableEq, Repr

structure SecretPlace where
  namespaceName : String
  name : String
  deriving DecidableEq, Repr

namespace Client

/-- The region of a specification, or that of the surroundings. -/
def region? (spec : IssuerSpec) (standardRegion : Option String) : Option String :=
  spec.region.filter (· ≠ "") <|> standardRegion

/-- A client needs a region. -/
def bind (key : AuthorityKey) (spec : IssuerSpec) (standardRegion : Option String)
    (credentials : Option Credentials) : Except ProvisionerFailure Client :=
  match region? spec standardRegion with
  | none =>
    .error (.configuration
      s!"{key.text} has no region and no default AWS region is configured")
  | some region => .ok ⟨spec.arn, region, credentials⟩

/-- A client with the credentials of a secret, which has to be there. -/
def bindSecret (key : AuthorityKey) (spec : IssuerSpec) (standardRegion : Option String)
    (reference : SecretReference) (place : SecretPlace) (secret : Option Secret) :
    Except ProvisionerFailure Client :=
  match secret with
  | none =>
    .error (.configuration
      s!"failed to read credentials secret {place.namespaceName}/{place.name}")
  | some secret => do
    let credentials ← Credentials.ofSecret secret reference
    bind key spec standardRegion (some credentials)

/-- The client for an issuer, which reads a secret only when the issuer names one. -/
def build (controllerNamespace : String) (standardRegion : Option String) (key : AuthorityKey)
    (spec : IssuerSpec) : Exchange SecretPlace (Option Secret) ProvisionerFailure Client :=
  if Text.isBlankText spec.arn then
    .settled (.error (.configuration s!"{key.text} has no CA arn configured"))
  else
    match spec.secretRef.filter fun reference => reference.name ≠ "" with
    | none => .settled (bind key spec standardRegion none)
    | some reference =>
      let place : SecretPlace :=
        ⟨secretNamespace reference key controllerNamespace, reference.name⟩
      .ask place (bindSecret key spec standardRegion reference place)

end Client

end Issuance.PrivateCa
