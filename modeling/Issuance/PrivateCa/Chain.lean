import Issuance.Authority.Failure
import Issuance.Encoding.Pem

namespace Issuance

/-- A certificate with the intermediate ones above it, and the root apart. -/
structure IssuedCertificate where
  certificate : List UInt8
  ca : List UInt8
  deriving DecidableEq, Repr, Inhabited

namespace PrivateCa

def certificateLabel : String := "CERTIFICATE"

/-- The certificates of a text, where other blocks do not count. -/
def certificates (text what : String) : Except ProvisionerFailure (List Pem.Block) :=
  match Pem.decodeAll (Text.utf8Bytes text) with
  | .error fault => .error (.api s!"{what} is not valid PEM: {fault.message}")
  | .ok blocks => .ok (blocks.filter fun block => block.label == certificateLabel)

/-- The root leaves the chain, and the rest follows the certificate. -/
def assemble (certificate chain : String) : Except ProvisionerFailure IssuedCertificate :=
  match certificates certificate "issued certificate" with
  | .error failure => .error failure
  | .ok leaf =>
    match certificates chain "certificate chain" with
    | .error failure => .error failure
    | .ok links =>
      match links.getLast? with
      | none => .error (.api "certificate chain returned by the CA is empty")
      | some root =>
        if leaf.isEmpty then .error (.api "issued certificate holds no CERTIFICATE block")
        else
          .ok { certificate := (leaf ++ links.dropLast).flatMap Pem.Block.encode
                ca := root.encode }

end PrivateCa

end Issuance
