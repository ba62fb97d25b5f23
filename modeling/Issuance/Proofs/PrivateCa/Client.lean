import Issuance.PrivateCa.Client
import Issuance.Proofs.Authority.Checks
import Issuance.Proofs.Text.Utf8

namespace Issuance

/-- A text that is not blank stands under a key of the secret. -/
structure Secret.Holds (secret : Secret) (key text : String) : Prop where
  entry : secret.entry? key = some (Text.utf8Bytes text)
  filled : Text.isBlankText text = false

/-- The issuer names a secret. -/
def IssuerSpec.Names (spec : IssuerSpec) (reference : SecretReference) : Prop :=
  spec.secretRef = some reference ∧ reference.name ≠ ""

theorem IssuerSpec.Names.unique {spec : IssuerSpec} {reference other : SecretReference}
    (names : spec.Names reference) (also : spec.Names other) : reference = other :=
  Option.some.inj (names.1.symm.trans also.1)

namespace PrivateCa

section Entries

variable {secret other : Secret} {key text : String}

theorem Credentials.readEntry_eq_ok_iff :
    readEntry secret key = .ok text ↔ secret.Holds key text := by
  unfold readEntry
  dsimp only
  constructor
  · intro read
    split at read
    · cases read
    next bytes entry =>
    split at read
    · cases read
    next characters decoded =>
    split at read
    · cases read
    next filled =>
    cases read
    refine ⟨?_, ?_⟩
    · rw [entry, Text.utf8Bytes, String.toList_ofList, Text.decodeUtf8_eq_ok_iff.mp decoded]
    · rw [Text.isBlankText, String.toList_ofList]
      exact eq_false_of_ne_true filled
  · rintro ⟨entry, filled⟩
    rw [Text.isBlankText] at filled
    rw [entry]
    dsimp only
    rw [Text.decodeUtf8_utf8Bytes]
    dsimp only
    rw [filled, String.ofList_toList]
    rfl

theorem Credentials.checks_readEntry (secret : Secret) (key : String) :
    Checks (secret.Holds key) (readEntry secret key) := by
  refine ⟨fun text => readEntry_eq_ok_iff, fun failure failed => ?_⟩
  unfold readEntry at failed
  dsimp only at failed
  split at failed
  · cases failed
    exact ⟨_, rfl⟩
  split at failed
  · cases failed
    exact ⟨_, rfl⟩
  split at failed
  · cases failed
    exact ⟨_, rfl⟩
  · cases failed

theorem Credentials.readEntry_congr (name : secret.metadata.name = other.metadata.name)
    (entry : secret.entry? key = other.entry? key) :
    readEntry secret key = readEntry other key := by
  rw [readEntry, readEntry, name, entry]

end Entries

section Selection

variable {secret other : Secret} {reference : SecretReference} {credentials : Credentials}

/-- The entry of the access key is the selected one or the standard one. -/
def accessEntry (reference : SecretReference) : String :=
  (reference.accessKeySelector.map KeySelector.key).getD "AWS_ACCESS_KEY_ID"

def secretEntry (reference : SecretReference) : String :=
  (reference.secretKeySelector.map KeySelector.key).getD "AWS_SECRET_ACCESS_KEY"

/-- Both halves of the credentials stand in their entries of the secret. -/
structure Credentials.StandIn (credentials : Credentials) (secret : Secret)
    (reference : SecretReference) : Prop where
  accessKey : secret.Holds (accessEntry reference) credentials.accessKey
  secretKey : secret.Holds (secretEntry reference) credentials.secretKey

/-- The secrets agree in their names and in the entries of the credentials. -/
structure SelectsAlike (reference : SecretReference) (secret other : Secret) : Prop where
  name : secret.metadata.name = other.metadata.name
  accessKey : secret.entry? (accessEntry reference) = other.entry? (accessEntry reference)
  secretKey : secret.entry? (secretEntry reference) = other.entry? (secretEntry reference)

theorem Credentials.selectedKey_eq (selector : Option KeySelector) (standard : String) :
    selectedKey selector standard = (selector.map KeySelector.key).getD standard := by
  cases selector <;> rfl

theorem Credentials.ofSecret_eq (secret : Secret) (reference : SecretReference) :
    ofSecret secret reference = (readEntry secret (accessEntry reference)).bind fun accessKey =>
      (readEntry secret (secretEntry reference)).map (Credentials.mk accessKey) := by
  rw [ofSecret, selectedKey_eq, selectedKey_eq]
  rfl

/-- Credentials are just what their entries hold. -/
theorem Credentials.checks_ofSecret (secret : Secret) (reference : SecretReference) :
    Checks (fun credentials => credentials.StandIn secret reference)
      (ofSecret secret reference) := by
  rw [ofSecret_eq]
  have checks := (checks_readEntry secret (accessEntry reference)).bind fun accessKey _ =>
    (checks_readEntry secret (secretEntry reference)).map (Credentials.mk accessKey)
  refine checks.congr fun credentials => ⟨?_, ?_⟩
  · rintro ⟨accessKey, access, secretKey, hidden, rfl⟩
    exact ⟨access, hidden⟩
  · intro stand
    exact ⟨_, stand.accessKey, _, stand.secretKey, rfl⟩

theorem Credentials.StandIn.unique {other : Credentials}
    (stand : credentials.StandIn secret reference) (also : other.StandIn secret reference) :
    credentials = other :=
  (checks_ofSecret secret reference).unique stand also

/-- No other entry of a secret counts. -/
theorem Credentials.ofSecret_congr (alike : SelectsAlike reference secret other) :
    ofSecret secret reference = ofSecret other reference := by
  rw [ofSecret_eq, ofSecret_eq, readEntry_congr alike.name alike.accessKey,
    readEntry_congr alike.name alike.secretKey]

end Selection

section Place

variable {reference : SecretReference} {key : AuthorityKey}
  {controllerNamespace namespaceName : String}

/-- The namespace of a secret is the one that the reference names, else that of the issuer, else
that of the controller. -/
inductive LiesIn (reference : SecretReference) (key : AuthorityKey)
    (controllerNamespace : String) : String → Prop
  | named {namespaceName : String} (given : reference.namespaceName = some namespaceName)
      (filled : namespaceName ≠ "") : LiesIn reference key controllerNamespace namespaceName
  | besideIssuer {namespaceName : String} (unnamed : reference.namespaceName.getD "" = "")
      (placed : key.namespaceName = some namespaceName) :
      LiesIn reference key controllerNamespace namespaceName
  | besideController (unnamed : reference.namespaceName.getD "" = "")
      (unplaced : key.namespaceName = none) :
      LiesIn reference key controllerNamespace controllerNamespace

theorem secretNamespace_eq_iff :
    secretNamespace reference key controllerNamespace = namespaceName ↔
      LiesIn reference key controllerNamespace namespaceName := by
  unfold secretNamespace
  split
  · next found used =>
    obtain ⟨given, filled⟩ := Option.filter_eq_some_iff.mp used
    have filled := of_decide_eq_true filled
    constructor
    · rintro rfl
      exact .named given filled
    · rintro (⟨other, _⟩ | ⟨unnamed, _⟩ | ⟨unnamed, _⟩)
      · exact Option.some.inj (given.symm.trans other)
      · rw [given] at unnamed
        exact absurd unnamed filled
      · rw [given] at unnamed
        exact absurd unnamed filled
  · next unused =>
    have empty (name : String) (given : reference.namespaceName = some name) : name = "" := by
      simpa [given] using unused
    have unnamed : reference.namespaceName.getD "" = "" := by
      cases given : reference.namespaceName with
      | none => rfl
      | some name => exact empty name given
    constructor
    · rintro rfl
      cases placed : key.namespaceName with
      | none => exact .besideController unnamed placed
      | some name => exact .besideIssuer unnamed placed
    · rintro (⟨given, filled⟩ | ⟨_, placed⟩ | ⟨_, unplaced⟩)
      · exact absurd (empty _ given) filled
      · rw [placed]
        rfl
      · rw [unplaced]
        rfl

end Place

namespace Client

section Build

variable {controllerNamespace : String} {standardRegion : Option String} {key : AuthorityKey}
  {spec : IssuerSpec} {answer : Option Secret} {place : SecretPlace}

/-- The region that the issuer names, else that of the surroundings. -/
def IsRegion (spec : IssuerSpec) (standardRegion : Option String) (region : String) : Prop :=
  spec.region = some region ∧ region ≠ "" ∨
    spec.region.getD "" = "" ∧ standardRegion = some region

theorem region?_eq_some_iff {region : String} :
    region? spec standardRegion = some region ↔ IsRegion spec standardRegion region := by
  unfold region? IsRegion
  cases spec.region with
  | none => simp
  | some named =>
    by_cases empty : named = "" <;> simp [empty]

/-- A client is bound to the authority of the issuer. -/
theorem checks_bind (key : AuthorityKey) (spec : IssuerSpec) (standardRegion : Option String)
    (credentials : Option Credentials) :
    Checks (fun client => client.authorityArn = spec.arn ∧
      IsRegion spec standardRegion client.region ∧ client.credentials = credentials)
      (bind key spec standardRegion credentials) := by
  unfold bind
  simp only [← region?_eq_some_iff]
  split
  · next missing => exact .of_configuration _ (by simp [missing])
  · next region found =>
    refine .of_ok fun client => ⟨?_, ?_⟩
    · rintro rfl
      exact ⟨rfl, found, rfl⟩
    · rintro ⟨arn, named, rfl⟩
      rw [← arn, Option.some.inj (found.symm.trans named)]

/-- What building a client comes to. -/
inductive Builds (controllerNamespace : String) (standardRegion : Option String)
    (key : AuthorityKey) (spec : IssuerSpec) :
    Exchange SecretPlace (Option Secret) ProvisionerFailure Client → Prop
  | refuses (blank : Text.isBlankText spec.arn = true) (reason : String) :
      Builds controllerNamespace standardRegion key spec (.settled (.error (.configuration reason)))
  | binds (filled : Text.isBlankText spec.arn = false)
      (unnamed : ∀ reference, ¬spec.Names reference) :
      Builds controllerNamespace standardRegion key spec
        (.settled (bind key spec standardRegion none))
  | reads (filled : Text.isBlankText spec.arn = false) {reference : SecretReference}
      {place : SecretPlace} (names : spec.Names reference) (name : place.name = reference.name)
      (lies : LiesIn reference key controllerNamespace place.namespaceName) :
      Builds controllerNamespace standardRegion key spec
        (.ask place (bindSecret key spec standardRegion reference place))

theorem builds (controllerNamespace : String) (standardRegion : Option String)
    (key : AuthorityKey) (spec : IssuerSpec) :
    Builds controllerNamespace standardRegion key spec
      (build controllerNamespace standardRegion key spec) := by
  unfold build
  split
  · next blank => exact .refuses blank _
  next filled =>
  have filled := eq_false_of_ne_true filled
  split
  · next unnamed =>
    refine .binds filled fun reference names => names.2 ?_
    simpa [names.1] using unnamed
  · next reference used =>
    obtain ⟨given, named⟩ := Option.filter_eq_some_iff.mp used
    exact .reads filled ⟨given, of_decide_eq_true named⟩ rfl (secretNamespace_eq_iff.mp rfl)

/-- The client has the credentials of the secret that the issuer names, and none without one. -/
structure Supplies (spec : IssuerSpec) (answer : Option Secret)
    (credentials : Option Credentials) : Prop where
  ofSecret : ∀ reference, spec.Names reference → ∃ secret given, answer = some secret ∧
    credentials = some given ∧ given.StandIn secret reference
  ofSurroundings : (∀ reference, ¬spec.Names reference) → credentials = none

/-- There are credentials just if the secret that the issuer names holds both halves. -/
theorem exists_supplies_iff : (∃ credentials, Supplies spec answer credentials) ↔
    ∀ reference, spec.Names reference → ∃ secret accessKey secretKey, answer = some secret ∧
      secret.Holds (accessEntry reference) accessKey ∧
      secret.Holds (secretEntry reference) secretKey := by
  constructor
  · rintro ⟨credentials, supplies⟩ reference names
    obtain ⟨secret, given, present, _, stand⟩ := supplies.ofSecret reference names
    exact ⟨secret, _, _, present, stand.accessKey, stand.secretKey⟩
  · intro holds
    by_cases named : ∃ reference, spec.Names reference
    · obtain ⟨reference, names⟩ := named
      obtain ⟨secret, accessKey, secretKey, present, access, hidden⟩ := holds reference names
      refine ⟨some ⟨accessKey, secretKey⟩, fun other also => ?_, fun unnamed => ?_⟩
      · obtain rfl := names.unique also
        exact ⟨secret, _, present, rfl, access, hidden⟩
      · exact absurd names (unnamed reference)
    · exact ⟨none, fun reference names => absurd ⟨reference, names⟩ named, fun _ => rfl⟩

theorem checks_bindSecret (key : AuthorityKey) (spec : IssuerSpec)
    (standardRegion : Option String) (reference : SecretReference) (place : SecretPlace)
    (secret : Secret) :
    Checks (fun client => ∃ given : Credentials, given.StandIn secret reference ∧
      client.authorityArn = spec.arn ∧ IsRegion spec standardRegion client.region ∧
        client.credentials = some given)
      (bindSecret key spec standardRegion reference place (some secret)) :=
  (Credentials.checks_ofSecret secret reference).bind fun given _ =>
    checks_bind key spec standardRegion (some given)

variable {exchange : Exchange SecretPlace (Option Secret) ProvisionerFailure Client}
  (builds : Builds controllerNamespace standardRegion key spec exchange)

include builds

/-- A secret is asked for just when the issuer names one. -/
theorem Builds.question?_eq_some_iff : exchange.question? = some place ↔
    Text.isBlankText spec.arn = false ∧ ∃ reference, spec.Names reference ∧
      place.name = reference.name ∧
      LiesIn reference key controllerNamespace place.namespaceName := by
  cases builds with
  | refuses blank reason =>
    constructor
    · nofun
    · rintro ⟨filled, _⟩
      exact absurd (blank.symm.trans filled) (by decide)
  | binds filled unnamed =>
    constructor
    · nofun
    · rintro ⟨_, reference, names, _⟩
      exact absurd names (unnamed reference)
  | @reads filled reference asked names name lies =>
    constructor
    · rintro ⟨⟩
      exact ⟨filled, reference, names, name, lies⟩
    · rintro ⟨_, other, also, otherName, otherLies⟩
      obtain rfl := names.unique also
      have spaces : asked.namespaceName = place.namespaceName :=
        (secretNamespace_eq_iff.mpr lies).symm.trans (secretNamespace_eq_iff.mpr otherLies)
      cases asked
      cases place
      simp_all [Exchange.question?]

/-- A client is built just from what its issuer names. -/
theorem Builds.checks (answer : Option Secret) :
    Checks (fun client => Text.isBlankText spec.arn = false ∧ client.authorityArn = spec.arn ∧
      IsRegion spec standardRegion client.region ∧ Supplies spec answer client.credentials)
      (exchange.conclude answer) := by
  cases builds with
  | refuses blank reason =>
    apply Checks.of_configuration
    rintro client ⟨filled, _⟩
    exact absurd (blank.symm.trans filled) (by decide)
  | binds filled unnamed =>
    refine (checks_bind key spec standardRegion none).congr fun client => ⟨?_, ?_⟩
    · rintro ⟨arn, region, bare⟩
      exact ⟨filled, arn, region, fun reference names => absurd names (unnamed reference),
        fun _ => bare⟩
    · rintro ⟨_, arn, region, supplies⟩
      exact ⟨arn, region, supplies.ofSurroundings unnamed⟩
  | @reads filled reference asked names =>
    cases answer with
    | none =>
      apply Checks.of_configuration
      rintro client ⟨_, _, _, supplies⟩
      obtain ⟨_, _, present, _⟩ := supplies.ofSecret reference names
      cases present
    | some secret =>
      have bound := checks_bindSecret key spec standardRegion reference asked secret
      refine bound.congr fun client => ⟨?_, ?_⟩
      · rintro ⟨given, stand, arn, region, supplied⟩
        refine ⟨filled, arn, region, fun other also => ?_, fun unnamed => absurd names (unnamed _)⟩
        obtain rfl := names.unique also
        exact ⟨secret, given, rfl, supplied, stand⟩
      · rintro ⟨_, arn, region, supplies⟩
        obtain ⟨_, given, ⟨⟩, supplied, stand⟩ := supplies.ofSecret reference names
        exact ⟨given, stand, arn, region, supplied⟩

/-- Secrets that select alike lead to the same client or to the same failure. -/
theorem Builds.conclude_congr {secret other : Secret}
    (alike : ∀ reference, spec.Names reference → SelectsAlike reference secret other) :
    exchange.conclude (some secret) = exchange.conclude (some other) := by
  cases builds with
  | refuses => rfl
  | binds => rfl
  | @reads _ reference asked names =>
    change bindSecret key spec standardRegion reference asked (some secret) =
      bindSecret key spec standardRegion reference asked (some other)
    rw [bindSecret, bindSecret, Credentials.ofSecret_congr (alike reference names)]

end Build

end Client

/-- Building a client asks for no secret but the one that the issuer names, which lies where the
reference, the issuer or the controller says. It succeeds just if there are a region and both
halves of the credentials, of which the client has exactly those, and it fails by configuration
only. Nothing else in the secret counts. -/
theorem client_built_from_named_secret (controllerNamespace : String)
    (standardRegion : Option String) (key : AuthorityKey) (spec : IssuerSpec) :
    (∀ place, (Client.build controllerNamespace standardRegion key spec).question? = some place ↔
      Text.isBlankText spec.arn = false ∧ ∃ reference, spec.Names reference ∧
        place.name = reference.name ∧
        LiesIn reference key controllerNamespace place.namespaceName) ∧
    (∀ answer,
      (∃ client, (Client.build controllerNamespace standardRegion key spec).conclude answer =
        .ok client) ↔
      Text.isBlankText spec.arn = false ∧
        (∀ reference, spec.Names reference → ∃ secret accessKey secretKey, answer = some secret ∧
          secret.Holds (accessEntry reference) accessKey ∧
          secret.Holds (secretEntry reference) secretKey) ∧
        ∃ region, Client.IsRegion spec standardRegion region) ∧
    (∀ answer client, (Client.build controllerNamespace standardRegion key spec).conclude answer =
      .ok client → client.authorityArn = spec.arn ∧
        Client.IsRegion spec standardRegion client.region ∧
        Client.Supplies spec answer client.credentials) ∧
    (∀ answer failure, (Client.build controllerNamespace standardRegion key spec).conclude answer =
      .error failure → ∃ reason, failure = .configuration reason) ∧
    ∀ secret other, (∀ reference, spec.Names reference → SelectsAlike reference secret other) →
      (Client.build controllerNamespace standardRegion key spec).conclude (some secret) =
        (Client.build controllerNamespace standardRegion key spec).conclude (some other) := by
  have builds := Client.builds controllerNamespace standardRegion key spec
  refine ⟨fun place => builds.question?_eq_some_iff, fun answer => ?_,
    fun answer client built => ?_, fun answer failure => (builds.checks answer).blames failure,
    fun secret other alike => builds.conclude_congr alike⟩
  · rw [← Client.exists_supplies_iff]
    simp only [(builds.checks answer).ok_iff]
    constructor
    · rintro ⟨client, filled, _, region, supplies⟩
      exact ⟨filled, ⟨_, supplies⟩, _, region⟩
    · rintro ⟨filled, ⟨credentials, supplies⟩, region, isRegion⟩
      exact ⟨⟨spec.arn, region, credentials⟩, filled, rfl, isRegion, supplies⟩
  · exact (((builds.checks answer).ok_iff client).mp built).2

namespace Sample

/-- The issuer names a secret but no namespace, and no entry for the secret key. -/
def reference : SecretReference :=
  { name := "creds", namespaceName := some "", accessKeySelector := some ⟨"id"⟩ }

/-- The region is left to the surroundings. -/
def spec : IssuerSpec := { arn := "arn:ca", secretRef := some reference }

/-- A secret with entries for both halves, and perhaps more. -/
def secret (more : List (String × List UInt8)) : Secret where
  metadata := { name := some "creds" }
  data := some ([("id", [97]), ("AWS_SECRET_ACCESS_KEY", [98])] ++ more)

theorem names_reference : spec.Names reference := ⟨rfl, by decide⟩

theorem standIn_secret (more : List (String × List UInt8)) :
    Credentials.StandIn ⟨"a", "b"⟩ (secret more) reference := ⟨⟨rfl, rfl⟩, ⟨rfl, rfl⟩⟩

end Sample

/-- The secret of a cluster issuer lies beside the controller, and an entry that is not selected
does not change what comes of it. -/
theorem sample_secret_beside_controller :
    (Client.build "system" (some "eu-west-1") (.clusterIssuer "ca") Sample.spec).question? =
      some ⟨"system", "creds"⟩ ∧
    SelectsAlike Sample.reference (Sample.secret []) (Sample.secret [("AWS_ACCESS_KEY_ID", [99])]) ∧
    ∃ client, (Client.build "system" (some "eu-west-1") (.clusterIssuer "ca") Sample.spec).conclude
        (some (Sample.secret [("AWS_ACCESS_KEY_ID", [99])])) = .ok client ∧
      client.authorityArn = "arn:ca" ∧ client.credentials = some ⟨"a", "b"⟩ := by
  have alike : SelectsAlike Sample.reference (Sample.secret [])
      (Sample.secret [("AWS_ACCESS_KEY_ID", [99])]) := ⟨rfl, rfl, rfl⟩
  obtain ⟨asks, succeeds, binds, _, congruent⟩ :=
    client_built_from_named_secret "system" (some "eu-west-1") (.clusterIssuer "ca") Sample.spec
  obtain ⟨client, built⟩ := (succeeds (some (Sample.secret []))).mpr ⟨by decide, by
    rintro reference names
    obtain rfl := names.unique Sample.names_reference
    have stand := Sample.standIn_secret []
    exact ⟨_, _, _, rfl, stand.accessKey, stand.secretKey⟩, _, .inr ⟨rfl, rfl⟩⟩
  obtain ⟨arn, _, supplies⟩ := binds _ client built
  obtain ⟨secret, given, present, supplied, stand⟩ :=
    supplies.ofSecret Sample.reference Sample.names_reference
  obtain rfl := Option.some.inj present
  have beside : (Client.build "system" (some "eu-west-1") (.clusterIssuer "ca")
      Sample.spec).question? = some ⟨"system", "creds"⟩ :=
    (asks _).mpr ⟨by decide, _, Sample.names_reference, rfl, .besideController rfl rfl⟩
  refine ⟨beside, alike, client, ?_, arn, ?_⟩
  · rw [← congruent (Sample.secret []) _ fun reference names => ?_]
    · exact built
    · obtain rfl := names.unique Sample.names_reference
      exact alike
  · rw [supplied, stand.unique (Sample.standIn_secret [])]

end PrivateCa

end Issuance
