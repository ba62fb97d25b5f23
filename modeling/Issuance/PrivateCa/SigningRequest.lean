import Issuance.Encoding.Der
import Issuance.Encoding.Pem

namespace Issuance.PrivateCa

/-- A public key that the authority can certify. -/
inductive KeyAlgorithm where
  | rsa
  | ecdsaP256
  | ecdsaP384
  | ecdsaP521
  deriving DecidableEq, Repr

namespace KeyAlgorithm

/-- The algorithm that signs a certificate for a key. -/
def signing : KeyAlgorithm → String
  | rsa => "SHA256WITHRSA"
  | ecdsaP256 => "SHA256WITHECDSA"
  | ecdsaP384 => "SHA384WITHECDSA"
  | ecdsaP521 => "SHA512WITHECDSA"

end KeyAlgorithm

/-- A reason why a signing request cannot be inspected. -/
inductive SigningRequestFault where
  | notPem (reason : String)
  | invalidDer
  | unsupportedKey (algorithm : String)
  deriving DecidableEq, Repr

namespace SigningRequestFault

def message : SigningRequestFault → String
  | notPem reason => "request is not a PEM encoded certificate request: " ++ reason
  | invalidDer => "certificate request is not valid DER:"
  | unsupportedKey algorithm =>
    s!"unsupported public key algorithm {algorithm} in certificate request"

end SigningRequestFault

/-- These labels mark a signing request. -/
def signingRequestLabels : List String :=
  ["CERTIFICATE REQUEST", "NEW CERTIFICATE REQUEST"]

/-- The DER bytes of a PEM signing request. -/
def signingRequestDer (pem : List UInt8) : Except SigningRequestFault (List UInt8) :=
  match Pem.decode pem with
  | .error fault => .error (.notPem fault.message)
  | .ok block =>
    if block.label ∈ signingRequestLabels then .ok block.contents
    else .error (.notPem ("unexpected PEM label " ++ block.label))

/-- An algorithm is an identifier with optional parameters. -/
structure AlgorithmIdentifier where
  identifier : List UInt8
  parameters : Option Der.Element
  deriving DecidableEq, Repr

def readIdentifier (input : List UInt8) : Option (List UInt8 × List UInt8) :=
  Der.expectPrimitive 6 input

def readAlgorithm (input : List UInt8) : Option (AlgorithmIdentifier × List UInt8) :=
  match Der.expectSequence input with
  | none => none
  | some (contents, rest) =>
    match readIdentifier contents with
    | none => none
    | some (identifier, []) => some (⟨identifier, none⟩, rest)
    | some (identifier, parameters) =>
      match Der.readElement parameters with
      | none => none
      | some (element, _) => some (⟨identifier, some element⟩, rest)

/-- A bit string starts with the count of its unused bits, which have to be zero. -/
def readBitString (input : List UInt8) : Option (List UInt8) :=
  match Der.expectPrimitive 3 input with
  | some (unused :: bits, rest) =>
    let last := (bits.getLast?.getD 1).toNat
    if unused ≤ 7 ∧ last % (1 <<< unused.toNat) = 0 then some rest else none
  | _ => none

/-- A version is a non-negative minimal number below 2^32. -/
def readVersion (input : List UInt8) : Option (List UInt8) :=
  match Der.expectPrimitive 2 input with
  | some ([], _) => none
  | some (first :: more, rest) =>
    let padded := first = 0 ∧ ∃ next ∈ more.head?, next < 128
    if first ≥ 128 ∨ padded ∨ Der.bigEndian (first :: more) ≥ UInt32.size then none else some rest
  | none => none

/-- Every part of the input is read, each time taking at least one byte. -/
def readsAll (read : List UInt8 → Option (List UInt8)) (fuel : Nat) (input : List UInt8) : Bool :=
  match fuel with
  | 0 => input.isEmpty
  | fuel + 1 =>
    input.isEmpty ||
      match read input with
      | none => false
      | some rest => readsAll read fuel rest

/-- An extension is an identifier, perhaps a truth value, and bytes. -/
def readExtension (input : List UInt8) : Option (List UInt8) := do
  let (contents, rest) ← Der.expectSequence input
  let (_, afterIdentifier) ← readIdentifier contents
  let value :=
    match Der.expect 1 afterIdentifier with
    | some ([_], afterCritical) => afterCritical
    | _ => afterIdentifier
  let _ ← Der.expect 4 value
  return rest

/-- Requested extensions are a sequence of extensions. -/
def isExtensionList (input : List UInt8) : Bool :=
  match Der.expectSequence input with
  | none => false
  | some (contents, _) => readsAll readExtension contents.length contents

def isPrintableByte (byte : UInt8) : Bool :=
  let character := Char.ofNat byte.toNat
  character.isAlphanum || " \x27()+,-./:=?".toList.contains character

/-- A challenge password is a string of one of five kinds. -/
def isPassword (input : List UInt8) : Bool :=
  match Der.readElement input with
  | none => false
  | some (element, _) =>
    match element.tag.number with
    | 12 => (Text.decodeUtf8 element.contents).isOk
    | 19 => element.contents.all isPrintableByte
    | number => number = 20 || number = 28 || number = 30

/-- The values of an attribute are free unless its identifier is a known one. -/
def areValues (identifier : String) (values : List UInt8) : Bool :=
  if identifier = "1.2.840.113549.1.9.14" then isExtensionList values
  else if identifier = "1.2.840.113549.1.9.7" then isPassword values
  else true

/-- An attribute is an identifier and a set of values. -/
def readAttribute (input : List UInt8) : Option (List UInt8) := do
  let (contents, rest) ← Der.expectSequence input
  let (identifier, afterIdentifier) ← readIdentifier contents
  let (tag, _, values) ← Der.readHeader afterIdentifier
  if tag.number = 17 ∧ areValues (Der.identifierText identifier) values then return rest else none

/-- Attributes have to be present and may be empty. -/
def hasAttributes (input : List UInt8) : Bool :=
  match Der.readHeader input with
  | none => false
  | some (tag, _, contents) =>
    tag.category = 2 && tag.number = 0 && readsAll readAttribute contents.length contents

/-- The key algorithm of a DER signing request, or nothing when it is malformed. -/
def readKeyAlgorithm (der : List UInt8) : Option AlgorithmIdentifier := do
  let (request, _) ← Der.expectSequence der
  let (body, afterBody) ← Der.expectSequence request
  let afterVersion ← readVersion body
  let (_, afterSubject) ← Der.expectSequence afterVersion
  let (keyInfo, afterKey) ← Der.expectSequence afterSubject
  let (algorithm, keyBits) ← readAlgorithm keyInfo
  let _ ← readBitString keyBits
  if hasAttributes afterKey then
    let (_, afterSignatureAlgorithm) ← readAlgorithm afterBody
    let _ ← readBitString afterSignatureAlgorithm
    return algorithm
  else none

/-- The text of the curve that elliptic curve parameters name. -/
def curveText (algorithm : AlgorithmIdentifier) : String :=
  match algorithm.parameters with
  | none => ""
  | some element => Der.identifierText element.contents

namespace AlgorithmIdentifier

def key (algorithm : AlgorithmIdentifier) : Except SigningRequestFault KeyAlgorithm :=
  match Der.identifierText algorithm.identifier with
  | "1.2.840.113549.1.1.1" => .ok .rsa
  | "1.2.840.10045.2.1" =>
    match curveText algorithm with
    | "1.2.840.10045.3.1.7" => .ok .ecdsaP256
    | "1.3.132.0.34" => .ok .ecdsaP384
    | "1.3.132.0.35" => .ok .ecdsaP521
    | curve => .error (.unsupportedKey ("EC curve " ++ curve))
  | other => .error (.unsupportedKey other)

end AlgorithmIdentifier

/-- The key algorithm of a PEM signing request. -/
def keyAlgorithm (pem : List UInt8) : Except SigningRequestFault KeyAlgorithm :=
  match signingRequestDer pem with
  | .error fault => .error fault
  | .ok der =>
    match readKeyAlgorithm der with
    | none => .error .invalidDer
    | some algorithm => algorithm.key

end Issuance.PrivateCa
