import Issuance.Authority.Failure
import Issuance.Resource.Secret

namespace Issuance.PrivateCa

/-- A key with its secret half. -/
structure Credentials where
  accessKey : String
  secretKey : String
  deriving DecidableEq, Repr

namespace Credentials

def standardAccessKey : String := "AWS_ACCESS_KEY_ID"

def standardSecretKey : String := "AWS_SECRET_ACCESS_KEY"

/-- The text under a key of a secret, which must not be blank. -/
def readEntry (secret : Secret) (key : String) : Except ProvisionerFailure String :=
  let name := secret.metadata.name.getD ""
  match secret.entry? key with
  | none => .error (.configuration s!"secret {name} has no key {key}")
  | some bytes =>
    match Text.decodeUtf8 bytes with
    | .error fault =>
      .error (.configuration s!"secret {name} key {key} is not valid UTF-8: {fault.message}")
    | .ok characters =>
      if characters.all Text.isBlank then
        .error (.configuration s!"secret {name} key {key} is empty")
      else .ok (String.ofList characters)

/-- The key of a selector, or the standard one. -/
def selectedKey (selector : Option KeySelector) (standard : String) : String :=
  match selector with
  | none => standard
  | some selector => selector.key

/-- The credentials that a reference selects from a secret. -/
def ofSecret (secret : Secret) (reference : SecretReference) :
    Except ProvisionerFailure Credentials := do
  let accessKey ←
    readEntry secret (selectedKey reference.accessKeySelector standardAccessKey)
  let secretKey ←
    readEntry secret (selectedKey reference.secretKeySelector standardSecretKey)
  return { accessKey, secretKey }

end Credentials

/-- A secret lies where its reference says, else beside the issuer, else beside the controller. -/
def secretNamespace (reference : SecretReference) (key : AuthorityKey)
    (controllerNamespace : String) : String :=
  match reference.namespaceName.filter (· ≠ "") with
  | some namespaceName => namespaceName
  | none => key.namespaceName.getD controllerNamespace

end Issuance.PrivateCa
