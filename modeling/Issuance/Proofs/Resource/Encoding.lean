import Issuance.Proofs.Encoding.Json
import Issuance.Resource.CertificateRequest
import Issuance.Resource.Issuer

namespace Issuance

theorem ConditionStatus.restores (status : ConditionStatus) :
    Json.Restores toJson ofJson? status := by
  cases status <;> exact ⟨rfl, nofun⟩

namespace Condition

def members : List Json.Member :=
  [.plain "type", .plain "status", .plainOrNull "lastTransitionTime", .plainOrNull "reason",
    .plainOrNull "message"]

theorem restores (condition : Condition) : Json.Restores toJson ofJson? condition := by
  refine ⟨?_, nofun⟩
  simp [toJson, ofJson?, Json.asFields, Json.asText, condition.status.restores.reads]

theorem overlooks : Json.Overlooks ofJson? (Json.Grows members) := by
  refine Json.overlooks_record fun old new allowed => ?_
  simp only [members, List.forall_mem_cons] at allowed
  obtain ⟨kind, status, time, reason, message, -⟩ := allowed
  simp [ofJson?, Json.asFields, Json.lookup_of_plain kind, Json.lookup_of_plain status,
    Json.orNull_of_plain time, Json.orNull_of_plain reason, Json.orNull_of_plain message]

end Condition

namespace IssuerReference

def members : List Json.Member := [.plain "name", .plainOrNull "kind", .plainOrNull "group"]

theorem restores (reference : IssuerReference) : Json.Restores toJson ofJson? reference := by
  refine ⟨?_, nofun⟩
  simp [toJson, ofJson?, Json.asFields, Json.asText]

theorem overlooks : Json.Overlooks ofJson? (Json.Grows members) := by
  refine Json.overlooks_record fun old new allowed => ?_
  simp only [members, List.forall_mem_cons] at allowed
  obtain ⟨name, kind, group, -⟩ := allowed
  simp [ofJson?, Json.asFields, Json.lookup_of_plain name, Json.orNull_of_plain kind,
    Json.orNull_of_plain group]

end IssuerReference

namespace CertificateRequestSpec

def members : List Json.Member :=
  [.plain "request", ⟨"issuerRef", false, Json.Grows IssuerReference.members⟩,
    .plainOrNull "duration", .plainOrNull "usages", .plain "isCA"]

theorem restores (spec : CertificateRequestSpec) : Json.Restores toJson ofJson? spec := by
  refine ⟨?_, nofun⟩
  simp [toJson, ofJson?, Json.asFields, Json.asText, Json.asBool, spec.issuerRef.restores.reads]

theorem overlooks : Json.Overlooks ofJson? (Json.Grows members) := by
  refine Json.overlooks_record fun old new allowed => ?_
  simp only [members, List.forall_mem_cons] at allowed
  obtain ⟨request, issuer, duration, usages, authority, -⟩ := allowed
  simp [ofJson?, Json.asFields, Json.lookup_of_plain request,
    Json.bind_grown issuer IssuerReference.overlooks, Json.orNull_of_plain duration,
    Json.orNull_of_plain usages, Json.lookup_of_plain authority]

end CertificateRequestSpec

namespace CertificateRequestStatus

def members : List Json.Member :=
  [⟨"conditions", false, Json.GrowsEach (Json.Grows Condition.members)⟩,
    .plainOrNull "certificate", .plainOrNull "ca", .plainOrNull "failureTime"]

theorem restores (status : CertificateRequestStatus) : Json.Restores toJson ofJson? status := by
  refine ⟨?_, nofun⟩
  have conditions := Json.restores_list fun condition (_ : condition ∈ status.conditions) =>
    condition.restores
  simp [toJson, ofJson?, Json.asFields, conditions.reads]

theorem overlooks : Json.Overlooks ofJson? (Json.Grows members) := by
  refine Json.overlooks_record fun old new allowed => ?_
  simp only [members, List.forall_mem_cons] at allowed
  obtain ⟨conditions, certificate, ca, failed, -⟩ := allowed
  simp [ofJson?, Json.asFields, Json.elim_grown conditions Condition.overlooks.list,
    Json.orNull_of_plain certificate, Json.orNull_of_plain ca, Json.orNull_of_plain failed]

end CertificateRequestStatus

namespace KeySelector

def members : List Json.Member := [.plain "key"]

theorem restores (selector : KeySelector) : Json.Restores toJson ofJson? selector := by
  refine ⟨?_, nofun⟩
  simp [toJson, ofJson?, Json.asFields, Json.asText]

theorem overlooks : Json.Overlooks ofJson? (Json.Grows members) := by
  refine Json.overlooks_record fun old new allowed => ?_
  simp only [members, List.forall_mem_cons] at allowed
  simp [ofJson?, Json.asFields, Json.lookup_of_plain allowed.1]

end KeySelector

namespace SecretReference

def members : List Json.Member :=
  [.plain "name", .plainOrNull "namespace",
    ⟨"accessKeyIDSelector", true, Json.Grows KeySelector.members⟩,
    ⟨"secretAccessKeySelector", true, Json.Grows KeySelector.members⟩]

theorem restores (reference : SecretReference) : Json.Restores toJson ofJson? reference := by
  refine ⟨?_, nofun⟩
  simp [toJson, ofJson?, Json.asFields, Json.asText, KeySelector.restores]

theorem overlooks : Json.Overlooks ofJson? (Json.Grows members) := by
  refine Json.overlooks_record fun old new allowed => ?_
  simp only [members, List.forall_mem_cons] at allowed
  obtain ⟨name, place, access, secret, -⟩ := allowed
  simp [ofJson?, Json.asFields, Json.lookup_of_plain name, Json.orNull_of_plain place,
    Json.orNull_grown access KeySelector.overlooks, Json.orNull_grown secret KeySelector.overlooks]

end SecretReference

namespace IssuerSpec

def members : List Json.Member :=
  [.plain "arn", .plainOrNull "region",
    ⟨"secretRef", true, Json.Grows SecretReference.members⟩]

theorem ofMembers?_restored (spec : IssuerSpec) :
    spec.toJson.asRecord.bind ofMembers? = some spec := by
  simp [toJson, Json.asRecord, ofMembers?, Json.asText, SecretReference.restores]

theorem restores (spec : IssuerSpec) : Json.Restores toJson ofJson? spec :=
  ⟨spec.ofMembers?_restored, nofun⟩

theorem ofMembers?_grown {old new : List (String × Json)}
    (allowed : ∀ member ∈ members,
      member.Allows (old.lookup member.name) (new.lookup member.name)) :
    ofMembers? new = ofMembers? old := by
  simp only [members, List.forall_mem_cons] at allowed
  obtain ⟨arn, region, secret, -⟩ := allowed
  simp [ofMembers?, Json.lookup_of_plain arn, Json.orNull_of_plain region,
    Json.orNull_grown secret SecretReference.overlooks]

theorem overlooks : Json.Overlooks ofJson? (Json.Grows members) :=
  Json.overlooks_record fun _ _ allowed => ofMembers?_grown allowed

end IssuerSpec

namespace ClusterIssuerSpec

theorem restores (spec : ClusterIssuerSpec) : Json.Restores toJson ofJson? spec where
  reads := congrArg (Option.map mk) spec.issuer.ofMembers?_restored
  filled := nofun

theorem overlooks : Json.Overlooks ofJson? (Json.Grows IssuerSpec.members) :=
  Json.overlooks_record fun _ _ allowed =>
    congrArg (Option.map mk) (IssuerSpec.ofMembers?_grown allowed)

end ClusterIssuerSpec

namespace IssuerStatus

def members : List Json.Member :=
  [⟨"conditions", false, Json.GrowsEach (Json.Grows Condition.members)⟩]

theorem restores (status : IssuerStatus) : Json.Restores toJson ofJson? status := by
  refine ⟨?_, nofun⟩
  have conditions := Json.restores_list fun condition (_ : condition ∈ status.conditions) =>
    condition.restores
  simp [toJson, ofJson?, Json.asFields, conditions.reads]

theorem overlooks : Json.Overlooks ofJson? (Json.Grows members) := by
  refine Json.overlooks_record fun old new allowed => ?_
  simp only [members, List.forall_mem_cons] at allowed
  simp [ofJson?, Json.asFields, Json.elim_grown allowed.1 Condition.overlooks.list]

end IssuerStatus

namespace Metadata

def members : List Json.Member :=
  ["annotations", "creationTimestamp", "deletionGracePeriodSeconds", "deletionTimestamp",
    "finalizers", "generateName", "generation", "labels", "managedFields", "name", "namespace",
    "ownerReferences", "resourceVersion", "selfLink", "uid"].map .plainOrNull

/-- Nothing is there but names, labels and annotations. -/
def IsPlain (metadata : Metadata) : Prop :=
  metadata =
    { name := metadata.name
      namespaceName := metadata.namespaceName
      generateName := metadata.generateName
      labels := metadata.labels
      annotations := metadata.annotations }

theorem IsPlain.restores {metadata : Metadata} (plain : metadata.IsPlain) :
    Json.Restores toJson ofJson? metadata := by
  refine ⟨?_, nofun⟩
  rw [plain]
  simp only [toJson, Json.optional_none, List.append_nil]
  simp only [ofJson?, Json.asRecord_bind, Json.nullable_eq, Json.lookup_append,
    Json.lookup_optional, String.reduceEq, ↓reduceIte, Option.or_none, Option.none_or,
    Json.orNull_none, Json.orNull_map, Json.restores_text, Json.restores_map, implies_true]
  rfl

theorem overlooks : Json.Overlooks ofJson? (Json.Grows members) := by
  refine Json.overlooks_record fun old new allowed => ?_
  simp only [members, List.forall_mem_map, List.forall_mem_cons] at allowed
  obtain ⟨annotations, created, grace, deleted, finalizers, generateName, generation, labels,
    managed, name, place, owners, version, link, uid, -⟩ := allowed
  simp only [ofJson?, Json.asRecord_bind, Json.nullable_eq, Json.orNull_of_plain annotations,
    Json.orNull_of_plain created, Json.orNull_of_plain grace, Json.orNull_of_plain deleted,
    Json.orNull_of_plain finalizers, Json.orNull_of_plain generateName,
    Json.orNull_of_plain generation, Json.orNull_of_plain labels, Json.orNull_of_plain managed,
    Json.orNull_of_plain name, Json.orNull_of_plain place, Json.orNull_of_plain owners,
    Json.orNull_of_plain version, Json.orNull_of_plain link, Json.orNull_of_plain uid]

end Metadata

namespace CertificateRequest

def members : List Json.Member :=
  [⟨"metadata", false, Json.Grows Metadata.members⟩,
    ⟨"spec", false, Json.Grows CertificateRequestSpec.members⟩,
    ⟨"status", true, Json.Grows CertificateRequestStatus.members⟩]

theorem restores {request : CertificateRequest} (plain : request.metadata.IsPlain) :
    Json.Restores toJson ofJson? request := by
  refine ⟨?_, nofun⟩
  simp [toJson, ofJson?, Json.asFields, plain.restores.reads, request.spec.restores.reads,
    CertificateRequestStatus.restores]

theorem overlooks : Json.Overlooks ofJson? (Json.Grows members) := by
  refine Json.overlooks_record fun old new allowed => ?_
  simp only [members, List.forall_mem_cons] at allowed
  obtain ⟨metadata, spec, status, -⟩ := allowed
  simp [ofJson?, Json.asFields, Json.bind_grown metadata Metadata.overlooks,
    Json.bind_grown spec CertificateRequestSpec.overlooks,
    Json.orNull_grown status CertificateRequestStatus.overlooks]

end CertificateRequest

/-- What is known of an issuer of either kind. -/
def issuerMembers : List Json.Member :=
  [⟨"metadata", false, Json.Grows Metadata.members⟩, ⟨"spec", false, Json.Grows IssuerSpec.members⟩,
    ⟨"status", true, Json.Grows IssuerStatus.members⟩]

namespace Issuer

theorem restores {issuer : Issuer} (plain : issuer.metadata.IsPlain) :
    Json.Restores toJson ofJson? issuer := by
  refine ⟨?_, nofun⟩
  simp [toJson, ofJson?, Json.asFields, plain.restores.reads, issuer.spec.restores.reads,
    IssuerStatus.restores]

theorem overlooks : Json.Overlooks ofJson? (Json.Grows issuerMembers) := by
  refine Json.overlooks_record fun old new allowed => ?_
  simp only [issuerMembers, List.forall_mem_cons] at allowed
  obtain ⟨metadata, spec, status, -⟩ := allowed
  simp [ofJson?, Json.asFields, Json.bind_grown metadata Metadata.overlooks,
    Json.bind_grown spec IssuerSpec.overlooks, Json.orNull_grown status IssuerStatus.overlooks]

end Issuer

namespace ClusterIssuer

theorem restores {issuer : ClusterIssuer} (plain : issuer.metadata.IsPlain) :
    Json.Restores toJson ofJson? issuer := by
  refine ⟨?_, nofun⟩
  simp [toJson, ofJson?, Json.asFields, plain.restores.reads, issuer.spec.restores.reads,
    IssuerStatus.restores]

theorem overlooks : Json.Overlooks ofJson? (Json.Grows issuerMembers) := by
  refine Json.overlooks_record fun old new allowed => ?_
  simp only [issuerMembers, List.forall_mem_cons] at allowed
  obtain ⟨metadata, spec, status, -⟩ := allowed
  simp [ofJson?, Json.asFields, Json.bind_grown metadata Metadata.overlooks,
    Json.bind_grown spec ClusterIssuerSpec.overlooks,
    Json.orNull_grown status IssuerStatus.overlooks]

end ClusterIssuer

/-- Resources and their parts survive in JSON, and a cluster issuer has the specification of an
issuer there. -/
structure ResourcesSurvive : Prop where
  condition : Json.Survives Condition.members Condition.toJson Condition.ofJson? fun _ => True
  issuerReference : Json.Survives IssuerReference.members IssuerReference.toJson
    IssuerReference.ofJson? fun _ => True
  requestSpec : Json.Survives CertificateRequestSpec.members CertificateRequestSpec.toJson
    CertificateRequestSpec.ofJson? fun _ => True
  requestStatus : Json.Survives CertificateRequestStatus.members CertificateRequestStatus.toJson
    CertificateRequestStatus.ofJson? fun _ => True
  secretReference : Json.Survives SecretReference.members SecretReference.toJson
    SecretReference.ofJson? fun _ => True
  issuerSpec : Json.Survives IssuerSpec.members IssuerSpec.toJson IssuerSpec.ofJson? fun _ => True
  clusterIssuerSpec : Json.Survives IssuerSpec.members ClusterIssuerSpec.toJson
    ClusterIssuerSpec.ofJson? fun _ => True
  issuerStatus : Json.Survives IssuerStatus.members IssuerStatus.toJson IssuerStatus.ofJson?
    fun _ => True
  request : Json.Survives CertificateRequest.members CertificateRequest.toJson
    CertificateRequest.ofJson? fun request => request.metadata.IsPlain
  issuer : Json.Survives issuerMembers Issuer.toJson Issuer.ofJson?
    fun issuer => issuer.metadata.IsPlain
  clusterIssuer : Json.Survives issuerMembers ClusterIssuer.toJson ClusterIssuer.ofJson?
    fun issuer => issuer.metadata.IsPlain
  flatWritten : ∀ spec : ClusterIssuerSpec, spec.toJson = spec.issuer.toJson
  flatRead : ∀ members, ClusterIssuerSpec.ofJson? (.record members) =
    (IssuerSpec.ofJson? (.record members)).map ClusterIssuerSpec.mk

/-- Resources and their parts are read back as they were written, and nothing is lost when they are
read, written and read again. -/
theorem resources_survive_encoding : ResourcesSurvive where
  condition := Json.survives (fun condition _ => condition.restores) Condition.overlooks (by decide)
  issuerReference := Json.survives (fun reference _ => reference.restores)
    IssuerReference.overlooks (by decide)
  requestSpec := Json.survives (fun spec _ => spec.restores) CertificateRequestSpec.overlooks
    (by decide)
  requestStatus := Json.survives (fun status _ => status.restores)
    CertificateRequestStatus.overlooks (by decide)
  secretReference := Json.survives (fun reference _ => reference.restores)
    SecretReference.overlooks (by decide)
  issuerSpec := Json.survives (fun spec _ => spec.restores) IssuerSpec.overlooks (by decide)
  clusterIssuerSpec := Json.survives (fun spec _ => spec.restores) ClusterIssuerSpec.overlooks
    (by decide)
  issuerStatus := Json.survives (fun status _ => status.restores) IssuerStatus.overlooks
    (by decide)
  request := Json.survives (fun _ plain => CertificateRequest.restores plain)
    CertificateRequest.overlooks (by decide)
  issuer := Json.survives (fun _ plain => Issuer.restores plain) Issuer.overlooks (by decide)
  clusterIssuer := Json.survives (fun _ plain => ClusterIssuer.restores plain)
    ClusterIssuer.overlooks (by decide)
  flatWritten _ := rfl
  flatRead _ := rfl

namespace Sample

/-- A request with a label and an annotation. -/
def tagged : CertificateRequest :=
  { metadata :=
      { name := some "web"
        namespaceName := some "team"
        labels := some [("app", "web")]
        annotations := some [(CertificateRequest.arnKey, "arn:1")] }
    spec := { request := "YQ==", issuerRef := { name := "ca" }, usages := some ["server auth"] } }

/-- The request as it is written, with more than its readers know. -/
def taggedGrown : Json :=
  .record
    [("metadata", tagged.metadata.toJson),
      ("spec", .record
        [("request", .text "YQ=="),
          ("issuerRef", .record [("name", .text "ca"), ("scope", .text "team"), ("kind", .null)]),
          ("usages", .list [.text "server auth"]), ("isCA", .bool false)]),
      ("priority", .integer 1), ("status", .null)]

theorem grows_tagged : Json.Grows CertificateRequest.members tagged.toJson taggedGrown := by
  have reference : Json.Grows IssuerReference.members tagged.spec.issuerRef.toJson
      (.record [("name", .text "ca"), ("scope", .text "team"), ("kind", .null)]) := by
    refine .record ?_
    simp only [IssuerReference.members, List.forall_mem_cons]
    exact ⟨.same _, .nulled rfl, .same _, List.forall_mem_nil _⟩
  have spec : Json.Grows CertificateRequestSpec.members tagged.spec.toJson
      (.record
        [("request", .text "YQ=="),
          ("issuerRef", .record [("name", .text "ca"), ("scope", .text "team"), ("kind", .null)]),
          ("usages", .list [.text "server auth"]), ("isCA", .bool false)]) := by
    refine .record ?_
    simp only [CertificateRequestSpec.members, List.forall_mem_cons]
    exact ⟨.same _, .grown reference, .same _, .same _, .same _, List.forall_mem_nil _⟩
  refine .record ?_
  simp only [CertificateRequest.members, List.forall_mem_cons]
  exact ⟨.same _, .grown spec, .nulled rfl, List.forall_mem_nil _⟩

end Sample

/-- A request is read back, also when others write more into it. -/
theorem sample_request_read_back :
    Sample.tagged.metadata.IsPlain ∧
      Json.Grows CertificateRequest.members Sample.tagged.toJson Sample.taggedGrown ∧
      CertificateRequest.ofJson? Sample.tagged.toJson = some Sample.tagged ∧
      CertificateRequest.ofJson? Sample.taggedGrown = some Sample.tagged := by
  have plain : Sample.tagged.metadata.IsPlain := rfl
  have restored := resources_survive_encoding.request.restored Sample.tagged plain
  have grown := resources_survive_encoding.request.grown _ _ Sample.grows_tagged
  exact ⟨plain, Sample.grows_tagged, restored, grown.trans restored⟩

end Issuance
