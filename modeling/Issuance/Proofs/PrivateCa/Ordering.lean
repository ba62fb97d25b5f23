import Issuance.PrivateCa.Provisioner
import Issuance.Proofs.Authority.Checks
import Issuance.Proofs.Encoding.PemBundle

namespace Issuance.PrivateCa

namespace KeyAlgorithm

def identifier : KeyAlgorithm → String
  | rsa => "1.2.840.113549.1.1.1"
  | _ => "1.2.840.10045.2.1"

def curve? : KeyAlgorithm → Option String
  | rsa => none
  | ecdsaP256 => some "1.2.840.10045.3.1.7"
  | ecdsaP384 => some "1.3.132.0.34"
  | ecdsaP521 => some "1.3.132.0.35"

/-- The name of the algorithm that signs for a key. -/
inductive SignedWith : KeyAlgorithm → String → Prop
  | rsa : SignedWith rsa "SHA256WITHRSA"
  | ecdsaP256 : SignedWith ecdsaP256 "SHA256WITHECDSA"
  | ecdsaP384 : SignedWith ecdsaP384 "SHA384WITHECDSA"
  | ecdsaP521 : SignedWith ecdsaP521 "SHA512WITHECDSA"

theorem signedWith_signing (key : KeyAlgorithm) : key.SignedWith key.signing := by
  cases key with
  | rsa => exact .rsa
  | ecdsaP256 => exact .ecdsaP256
  | ecdsaP384 => exact .ecdsaP384
  | ecdsaP521 => exact .ecdsaP521

end KeyAlgorithm

/-- The algorithm is that of a supported key, on the curve of that key if it has one. -/
structure AlgorithmIdentifier.Identifies (algorithm : AlgorithmIdentifier) (key : KeyAlgorithm) :
    Prop where
  identifier : Der.identifierText algorithm.identifier = key.identifier
  curve : ∀ curve ∈ key.curve?, curveText algorithm = curve

/-- The bytes are the PEM text of a signing request for a supported key. -/
def Carries (pem : List UInt8) (key : KeyAlgorithm) : Prop :=
  ∃ block algorithm, Pem.decode pem = .ok block ∧
    (block.label = "CERTIFICATE REQUEST" ∨ block.label = "NEW CERTIFICATE REQUEST") ∧
    readKeyAlgorithm block.contents = some algorithm ∧ algorithm.Identifies key

/-- A request without a duration asks for 90 days, any other for its duration. -/
inductive AsksFor : Option String → Span → Prop
  | absent : AsksFor none (.ofSeconds (90 * 86400))
  | empty : AsksFor (some "") (.ofSeconds (90 * 86400))
  | given {text : String} {lifetime : Span} (filled : text ≠ "")
      (parsed : DurationText.parse text = .ok lifetime) : AsksFor (some text) lifetime

/-- The request is valid throughout. -/
def IsOrderable (request : CertificateRequest) : Prop :=
  ∃ pem key lifetime, Base64.decodeText (Text.trim request.spec.request) = .ok pem ∧
    Carries pem key ∧ AsksFor request.spec.duration lifetime

section Reading

variable {algorithm : AlgorithmIdentifier} {key : KeyAlgorithm} {pem : List UInt8}

theorem AlgorithmIdentifier.key_eq_ok_iff : algorithm.key = .ok key ↔ algorithm.Identifies key := by
  unfold AlgorithmIdentifier.key
  constructor
  · intro supported
    split at supported
    · next identifier =>
      cases supported
      exact ⟨identifier, nofun⟩
    · next identifier =>
      split at supported <;> cases supported
      · next curve => exact ⟨identifier, fun _ same => curve.trans (Option.some.inj same)⟩
      · next curve => exact ⟨identifier, fun _ same => curve.trans (Option.some.inj same)⟩
      · next curve => exact ⟨identifier, fun _ same => curve.trans (Option.some.inj same)⟩
    · cases supported
  · rintro ⟨identifier, curve⟩
    cases key with
    | rsa => rw [identifier]; rfl
    | ecdsaP256 => rw [identifier, curve _ rfl]; rfl
    | ecdsaP384 => rw [identifier, curve _ rfl]; rfl
    | ecdsaP521 => rw [identifier, curve _ rfl]; rfl

/-- A key is found just in the PEM text of a signing request. -/
theorem keyAlgorithm_eq_ok_iff : keyAlgorithm pem = .ok key ↔ Carries pem key := by
  have labelled (block : Pem.Block) : block.label ∈ signingRequestLabels ↔
      block.label = "CERTIFICATE REQUEST" ∨ block.label = "NEW CERTIFICATE REQUEST" := by
    simp [signingRequestLabels]
  unfold keyAlgorithm signingRequestDer
  constructor
  · intro found
    cases read : Pem.decode pem with
    | error fault => rw [read] at found; cases found
    | ok block =>
      rw [read] at found
      dsimp only at found
      by_cases label : block.label ∈ signingRequestLabels
      · rw [if_pos label] at found
        dsimp only at found
        cases parsed : readKeyAlgorithm block.contents with
        | none => rw [parsed] at found; cases found
        | some algorithm =>
          rw [parsed] at found
          exact ⟨block, algorithm, read, (labelled block).mp label, parsed,
            AlgorithmIdentifier.key_eq_ok_iff.mp found⟩
      · rw [if_neg label] at found
        cases found
  · rintro ⟨block, algorithm, read, label, parsed, identifies⟩
    rw [read]
    dsimp only
    rw [if_pos ((labelled block).mpr label)]
    dsimp only
    rw [parsed]
    exact AlgorithmIdentifier.key_eq_ok_iff.mpr identifies

/-- A signing request is for one key. -/
theorem Carries.unique {other : KeyAlgorithm} (carries : Carries pem key)
    (again : Carries pem other) : key = other := by
  have found := keyAlgorithm_eq_ok_iff.mpr carries
  exact Except.ok.inj (found.symm.trans (keyAlgorithm_eq_ok_iff.mpr again))

theorem requestedLifetime_eq_ok_iff {duration : Option String} {lifetime : Span} :
    requestedLifetime duration = .ok lifetime ↔ AsksFor duration lifetime := by
  constructor
  · intro asked
    unfold requestedLifetime at asked
    split at asked
    · cases asked
      exact .absent
    · cases asked
      exact .empty
    · next text filled =>
      split at asked
      · cases asked
      · next parsed =>
        cases asked
        exact .given filled parsed
  · rintro (_ | _ | ⟨filled, parsed⟩)
    · rfl
    · rfl
    · unfold requestedLifetime
      split
      · next absent => cases absent
      · next empty => cases empty; exact absurd rfl filled
      · next same => cases same; rw [parsed]

end Reading

section Orders

variable {arn : String} {now : Int} {request : CertificateRequest}

/-- The order says what the request asks for. -/
structure Order.IsFor (order : Order) (arn : String) (now : Int) (request : CertificateRequest) :
    Prop where
  authorityArn : order.authorityArn = arn
  signingRequest :
    Base64.decodeText (Text.trim request.spec.request) = .ok order.signingRequest
  key : Carries order.signingRequest order.key
  templateArn :
    order.templateArn = PrivateCa.templateArn arn request.spec.isCa (request.spec.usages.getD [])
  validityEnd : ∃ lifetime, AsksFor request.spec.duration lifetime ∧
    order.validityEnd = PrivateCa.validityEnd now lifetime

/-- The order for a request whose parts have been read. -/
def Order.ofParts (arn : String) (now : Int) (request : CertificateRequest)
    (signingRequest : List UInt8) (key : KeyAlgorithm) (lifetime : Span) : Order where
  authorityArn := arn
  signingRequest := signingRequest
  key := key
  templateArn := PrivateCa.templateArn arn request.spec.isCa (request.spec.usages.getD [])
  validityEnd := PrivateCa.validityEnd now lifetime

theorem Order.ofRequest_eq (arn : String) (now : Int) (request : CertificateRequest) :
    ofRequest arn now request = (readSigningRequest request).bind fun pem =>
      (readKey pem).bind fun key =>
        (requestedLifetime request.spec.duration).map (ofParts arn now request pem key) := rfl

theorem Order.checks_readSigningRequest (request : CertificateRequest) :
    Checks (fun pem => Base64.decodeText (Text.trim request.spec.request) = .ok pem)
      (readSigningRequest request) := by
  unfold readSigningRequest CertificateRequest.signingRequest
  cases Base64.decodeText (Text.trim request.spec.request) with
  | error fault => exact .of_configuration _ nofun
  | ok pem => exact .of_ok fun _ => ⟨congrArg Except.ok, Except.ok.inj⟩

theorem Order.checks_readKey (pem : List UInt8) : Checks (Carries pem) (readKey pem) := by
  have same : Carries pem = fun key => keyAlgorithm pem = .ok key :=
    funext fun key => propext keyAlgorithm_eq_ok_iff.symm
  rw [same, readKey]
  cases keyAlgorithm pem with
  | error fault => exact .of_configuration _ nofun
  | ok key => exact .of_ok fun _ => ⟨congrArg Except.ok, Except.ok.inj⟩

theorem checks_requestedLifetime (duration : Option String) :
    Checks (AsksFor duration) (requestedLifetime duration) := by
  refine ⟨fun lifetime => requestedLifetime_eq_ok_iff, fun failure asked => ?_⟩
  unfold requestedLifetime at asked
  split at asked
  · cases asked
  · cases asked
  · split at asked
    · cases asked
      exact ⟨_, rfl⟩
    · cases asked

/-- A request that is valid throughout leads to its order. -/
theorem Order.checks_ofRequest (arn : String) (now : Int) (request : CertificateRequest) :
    Checks (fun order : Order => order.IsFor arn now request) (ofRequest arn now request) := by
  rw [ofRequest_eq]
  have checks := (checks_readSigningRequest request).bind fun pem _ =>
    (checks_readKey pem).bind fun key _ =>
      (checks_requestedLifetime request.spec.duration).map (ofParts arn now request pem key)
  refine checks.congr fun order => ⟨?_, ?_⟩
  · rintro ⟨pem, decoded, key, carries, lifetime, asks, rfl⟩
    exact ⟨rfl, decoded, carries, rfl, lifetime, asks, rfl⟩
  · intro isFor
    obtain ⟨lifetime, asks, ends⟩ := isFor.validityEnd
    refine ⟨_, isFor.signingRequest, _, isFor.key, lifetime, asks, ?_⟩
    rw [ofParts, ← isFor.templateArn, ← ends, ← isFor.authorityArn]

theorem isOrderable_iff : IsOrderable request ↔ ∃ order : Order, order.IsFor arn now request := by
  constructor
  · rintro ⟨pem, key, lifetime, decoded, carries, asks⟩
    exact ⟨⟨arn, pem, key, _, _⟩, rfl, decoded, carries, rfl, lifetime, asks, rfl⟩
  · rintro ⟨order, _, decoded, carries, _, lifetime, asks, _⟩
    exact ⟨_, _, lifetime, decoded, carries, asks⟩

/-- A request that is valid throughout is ordered, and no other is. -/
theorem sign_eq (arn : String) (now : Int) (request : CertificateRequest) :
    (∃ order : Order, order.IsFor arn now request ∧
        sign arn now request = .ask (.issueCertificate order) concludeOrder) ∨
      (∃ reason, sign arn now request = .settled (.error (.configuration reason))) ∧
        ¬IsOrderable request := by
  unfold sign
  obtain ⟨order, made, isFor⟩ | ⟨⟨reason, failed⟩, unfit⟩ :=
    (Order.checks_ofRequest arn now request).passes_or_blames
  · rw [made]
    exact .inl ⟨order, isFor, rfl⟩
  · rw [failed]
    refine .inr ⟨⟨reason, rfl⟩, fun orderable => ?_⟩
    obtain ⟨order, isFor⟩ := isOrderable_iff.mp orderable
    exact unfit order isFor

/-- An order succeeds with the name in the reply. -/
theorem concludeOrder_eq_ok_iff {reply : Reply} {name : String} : concludeOrder reply = .ok name ↔
    name ≠ "" ∧ ∃ certificate chain, reply = .success (some name) certificate chain := by
  fun_cases concludeOrder reply with
  | case1 found _ _ empty =>
    refine ⟨nofun, ?_⟩
    rintro ⟨named, _, _, same⟩
    cases same
    exact absurd (String.isEmpty_iff.mp empty) named
  | case2 found certificate chain named =>
    constructor
    · intro same
      cases same
      exact ⟨fun empty => named (String.isEmpty_iff.mpr empty), certificate, chain, rfl⟩
    · rintro ⟨_, _, _, same⟩
      cases same
      rfl
  | case3 => exact ⟨nofun, nofun⟩
  | case4 reply unnamed missing =>
    refine ⟨nofun, ?_⟩
    rintro ⟨_, certificate, chain, rfl⟩
    exact absurd rfl (unnamed name certificate chain)

/-- An order without a name in the reply is a failure of the authority. -/
theorem concludeOrder_eq_error {reply : Reply} {failure : ProvisionerFailure}
    (failed : concludeOrder reply = .error failure) : ∃ reason, failure = .api reason := by
  unfold concludeOrder at failed
  split at failed
  · split at failed
    · cases failed
      exact ⟨_, rfl⟩
    · cases failed
  · cases failed
    exact ⟨_, rfl⟩
  · cases failed
    exact ⟨_, rfl⟩

/-- A request is ordered if and only if it is valid throughout, the order says what it asks for,
and the name in the reply is the result. -/
theorem order_submitted_faithfully (arn : String) (now : Int) (request : CertificateRequest) :
    ((sign arn now request).question?.isSome ↔ IsOrderable request) ∧
    (¬IsOrderable request → ∀ reply, ∃ reason,
      (sign arn now request).conclude reply = .error (.configuration reason)) ∧
    (∀ call ∈ (sign arn now request).question?, ∃ pem key signing lifetime,
      Base64.decodeText (Text.trim request.spec.request) = .ok pem ∧ Carries pem key ∧
      key.SignedWith signing ∧ AsksFor request.spec.duration lifetime ∧
      call.target = "ACMPrivateCA.IssueCertificate" ∧
      call.body = .record [
        ("CertificateAuthorityArn", .text arn),
        ("Csr", .text (Base64.encodeText pem)),
        ("SigningAlgorithm", .text signing),
        ("TemplateArn",
          .text (templateArn arn request.spec.isCa (request.spec.usages.getD []))),
        ("Validity", .record
          [("Value", .integer (validityEnd now lifetime)), ("Type", .text "ABSOLUTE")]),
        ("IdempotencyToken", .text "awspca")]) ∧
    (IsOrderable request → ∀ reply,
      (∀ name, (sign arn now request).conclude reply = .ok name ↔
        name ≠ "" ∧ ∃ certificate chain, reply = .success (some name) certificate chain) ∧
      ∀ failure, (sign arn now request).conclude reply = .error failure →
        ∃ reason, failure = .api reason) := by
  obtain ⟨order, isFor, asked⟩ | ⟨⟨reason, settled⟩, unfit⟩ := sign_eq arn now request
  · have orderable : IsOrderable request := isOrderable_iff.mpr ⟨order, isFor⟩
    rw [asked]
    refine ⟨iff_of_true rfl orderable, fun unfit => absurd orderable unfit, ?_, fun _ reply =>
      ⟨fun _ => concludeOrder_eq_ok_iff, fun _ => concludeOrder_eq_error⟩⟩
    rintro call ⟨⟩
    obtain ⟨lifetime, asks, ends⟩ := isFor.validityEnd
    have signed : order.key.SignedWith order.key.signing := order.key.signedWith_signing
    refine ⟨order.signingRequest, order.key, order.key.signing, lifetime, isFor.signingRequest,
      isFor.key, signed, asks, rfl, ?_⟩
    rw [Call.body, isFor.authorityArn, isFor.templateArn, ends]
    rfl
  · rw [settled]
    exact ⟨iff_of_false nofun unfit, fun _ _ => ⟨reason, rfl⟩, nofun, fun fit => absurd fit unfit⟩

end Orders

namespace Sample

/-- An element of few bytes. -/
def element (tag : UInt8) (contents : List UInt8) : List UInt8 :=
  tag :: UInt8.ofNat contents.length :: contents

/-- A signing request for a key of an algorithm, with no name and no bits. -/
def requestDer (algorithm : List UInt8) : List UInt8 :=
  let identifier := element 48 algorithm
  let keyInfo := element 48 (identifier ++ [3, 1, 0])
  element 48 (element 48 ([2, 1, 0, 48, 0] ++ keyInfo ++ [160, 0]) ++ identifier ++ [3, 1, 0])

def requestBlock (algorithm : List UInt8) : Pem.Block :=
  ⟨"CERTIFICATE REQUEST", [], requestDer algorithm⟩

/-- A request with line ends around its base64. -/
def requestFor (algorithm : List UInt8) (isCa : Bool) (usages : Option (List String)) :
    CertificateRequest where
  metadata := {}
  spec := {
    request := "\n" ++ (Base64.encodeText (requestBlock algorithm).encode ++ "\n")
    issuerRef := { name := "ca" }
    isCa, usages }

def rsa : List UInt8 := [6, 9, 42, 134, 72, 134, 247, 13, 1, 1, 1]

def p384 : List UInt8 := [6, 7, 42, 134, 72, 206, 61, 2, 1, 6, 5, 43, 129, 4, 0, 34]

def serverRequest : CertificateRequest := requestFor rsa false (some ["server auth"])

def authorityRequest : CertificateRequest := requestFor p384 true none

theorem carries_requestBlock {algorithm : List UInt8} {found : AlgorithmIdentifier}
    {key : KeyAlgorithm} (read : readKeyAlgorithm (requestDer algorithm) = some found)
    (identifies : found.Identifies key) : Carries (requestBlock algorithm).encode key := by
  have filled : "CERTIFICATE REQUEST" ≠ "" := by decide
  have dashless : '-' ∉ "CERTIFICATE REQUEST".toList := by decide
  have plain : (requestBlock algorithm).IsPlain := ⟨rfl, filled, dashless⟩
  exact ⟨requestBlock algorithm, found, plain.decode_encode, .inl rfl, read, identifies⟩

theorem carries_rsa : Carries (requestBlock rsa).encode .rsa := by
  have read : readKeyAlgorithm (requestDer rsa) =
      some ⟨[42, 134, 72, 134, 247, 13, 1, 1, 1], none⟩ := by decide
  exact carries_requestBlock read ⟨by cbv, nofun⟩

theorem carries_p384 : Carries (requestBlock p384).encode .ecdsaP384 := by
  have read : readKeyAlgorithm (requestDer p384) = some
      ⟨[42, 134, 72, 206, 61, 2, 1], some ⟨⟨0, false, 6⟩, [43, 129, 4, 0, 34]⟩⟩ := by decide
  refine carries_requestBlock read ⟨by cbv, ?_⟩
  rintro curve ⟨⟩
  cbv

theorem decodeText_requestFor (algorithm : List UInt8) (isCa : Bool)
    (usages : Option (List String)) :
    Base64.decodeText (Text.trim (requestFor algorithm isCa usages).spec.request) =
      .ok (requestBlock algorithm).encode :=
  Base64.decodeText_trim_encodeText _ (by decide) (by decide)

/-- What can be read from a sample request is what it was made of. -/
theorem parts_requestFor {algorithm pem : List UInt8} {isCa : Bool} {usages : Option (List String)}
    {key own : KeyAlgorithm} {lifetime : Span}
    (decoded : Base64.decodeText (Text.trim (requestFor algorithm isCa usages).spec.request) =
      .ok pem)
    (carries : Carries pem key)
    (asks : AsksFor (requestFor algorithm isCa usages).spec.duration lifetime)
    (made : Carries (requestBlock algorithm).encode own) :
    pem = (requestBlock algorithm).encode ∧ key = own ∧ lifetime = .ofSeconds (90 * 86400) := by
  obtain rfl := Except.ok.inj ((decodeText_requestFor _ _ _).symm.trans decoded)
  obtain rfl := made.unique carries
  cases asks
  exact ⟨rfl, rfl, rfl⟩

theorem isOrderable_requestFor {algorithm : List UInt8} {key : KeyAlgorithm} (isCa : Bool)
    (usages : Option (List String)) (carries : Carries (requestBlock algorithm).encode key) :
    IsOrderable (requestFor algorithm isCa usages) :=
  ⟨_, key, _, decodeText_requestFor algorithm isCa usages, carries, .absent⟩

/-- A request that holds no base64. -/
def blankRequest : CertificateRequest where
  metadata := {}
  spec := { request := " ", issuerRef := { name := "ca" } }

theorem not_isOrderable_blankRequest : ¬IsOrderable blankRequest := by
  rintro ⟨pem, key, lifetime, decoded, ⟨block, _, read, _⟩, _⟩
  have empty : Base64.decodeText (Text.trim " ") = .ok [] := by decide
  obtain rfl := Except.ok.inj (empty.symm.trans decoded)
  have unread : Pem.decode [] = .error .malformedFraming := by decide
  cases unread.symm.trans read

end Sample

/-- A server with an RSA key and an authority with a key on a curve are signed for with algorithms
of their own, and an empty request is not submitted. -/
theorem sample_order_submitted :
    IsOrderable Sample.serverRequest ∧
    (∃ call, (sign "arn:aws-cn:ca" 1000 Sample.serverRequest).question? = some call ∧
      call.body = .record [
        ("CertificateAuthorityArn", .text "arn:aws-cn:ca"),
        ("Csr", .text (Base64.encodeText (Sample.requestBlock Sample.rsa).encode)),
        ("SigningAlgorithm", .text "SHA256WITHRSA"),
        ("TemplateArn",
          .text "arn:aws-cn:acm-pca:::template/EndEntityServerAuthCertificate/V1"),
        ("Validity", .record [("Value", .integer 7777000), ("Type", .text "ABSOLUTE")]),
        ("IdempotencyToken", .text "awspca")]) ∧
    (sign "arn:aws-cn:ca" 1000 Sample.serverRequest).conclude (.success (some "arn:1") none none) =
      .ok "arn:1" ∧
    IsOrderable Sample.authorityRequest ∧
    (∃ call, (sign "arn:aws:ca" 2000 Sample.authorityRequest).question? = some call ∧
      call.body = .record [
        ("CertificateAuthorityArn", .text "arn:aws:ca"),
        ("Csr", .text (Base64.encodeText (Sample.requestBlock Sample.p384).encode)),
        ("SigningAlgorithm", .text "SHA384WITHECDSA"),
        ("TemplateArn",
          .text "arn:aws:acm-pca:::template/SubordinateCACertificate_PathLen0/V1"),
        ("Validity", .record [("Value", .integer 7778000), ("Type", .text "ABSOLUTE")]),
        ("IdempotencyToken", .text "awspca")]) ∧
    ¬IsOrderable Sample.blankRequest ∧
    ∃ reason, (sign "arn:aws-cn:ca" 1000 Sample.blankRequest).conclude .unreadable =
      .error (.configuration reason) := by
  obtain ⟨serverAsks, _, serverTells, concludes⟩ :=
    order_submitted_faithfully "arn:aws-cn:ca" 1000 Sample.serverRequest
  obtain ⟨authorityAsks, _, authorityTells, _⟩ :=
    order_submitted_faithfully "arn:aws:ca" 2000 Sample.authorityRequest
  obtain ⟨_, refuses, _, _⟩ := order_submitted_faithfully "arn:aws-cn:ca" 1000 Sample.blankRequest
  have server : IsOrderable Sample.serverRequest :=
    Sample.isOrderable_requestFor _ _ Sample.carries_rsa
  have authority : IsOrderable Sample.authorityRequest :=
    Sample.isOrderable_requestFor _ _ Sample.carries_p384
  have unfit := Sample.not_isOrderable_blankRequest
  refine ⟨server, ?_, ((concludes server _).1 "arn:1").mpr ⟨by decide, none, none, rfl⟩, authority,
    ?_, unfit, refuses unfit .unreadable⟩
  · obtain ⟨call, asked⟩ := Option.isSome_iff_exists.mp (serverAsks.mpr server)
    refine ⟨call, asked, ?_⟩
    obtain ⟨pem, key, signing, lifetime, decoded, carries, signed, asks, _, body⟩ :=
      serverTells call asked
    obtain ⟨rfl, rfl, rfl⟩ := Sample.parts_requestFor decoded carries asks Sample.carries_rsa
    cases signed
    have template : templateArn "arn:aws-cn:ca" false ["server auth"] =
        "arn:aws-cn:acm-pca:::template/EndEntityServerAuthCertificate/V1" := by decide
    have ends : validityEnd 1000 (.ofSeconds (90 * 86400)) = 7777000 := by decide
    rw [body, ends, ← template]
    rfl
  · obtain ⟨call, asked⟩ := Option.isSome_iff_exists.mp (authorityAsks.mpr authority)
    refine ⟨call, asked, ?_⟩
    obtain ⟨pem, key, signing, lifetime, decoded, carries, signed, asks, _, body⟩ :=
      authorityTells call asked
    obtain ⟨rfl, rfl, rfl⟩ := Sample.parts_requestFor decoded carries asks Sample.carries_p384
    cases signed
    have template : templateArn "arn:aws:ca" true [] =
        "arn:aws:acm-pca:::template/SubordinateCACertificate_PathLen0/V1" := by decide
    have ends : validityEnd 2000 (.ofSeconds (90 * 86400)) = 7778000 := by decide
    rw [body, ends, ← template]
    rfl

end Issuance.PrivateCa
