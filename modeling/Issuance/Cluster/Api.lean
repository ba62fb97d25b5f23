import Issuance.Authority.Exchange
import Issuance.Cluster.Http
import Issuance.PrivateCa.Client
import Issuance.Reconcile.Effect

namespace Issuance.ClusterApi

/-- An access is refused, or it makes one call. -/
abbrev Access (α : Type) : Type := Exchange HttpCall HttpReply String α

/-- A call that cannot be sent fails like one without a usable reply. -/
def access (call : HttpCall) (fault : String) (conclude : HttpReply → StoreAnswer α) : Access α :=
  match call.sent? with
  | none => .settled (.error fault)
  | some call => .ask call conclude

def requestsPath : String := "/apis/cert-manager.io/v1/certificaterequests"

def requestPath (namespaceName name : String) : String :=
  s!"/apis/cert-manager.io/v1/namespaces/{namespaceName}/certificaterequests/{name}"

def issuerPath (namespaceName name : String) : String :=
  s!"/apis/awspca.cert-manager.io/v1beta1/namespaces/{namespaceName}/awspcaissuers/{name}"

def clusterIssuerPath (name : String) : String :=
  s!"/apis/awspca.cert-manager.io/v1beta1/awspcaclusterissuers/{name}"

/-- A reply holds a resource, or it says that there is none. -/
def concludeRead (read : Json → Option α) (reason : String) (reply : HttpReply) :
    StoreAnswer (Option α) :=
  match reply.value? read with
  | some value => .ok (some value)
  | none => if reply.isNotFound then .ok none else .error reason

/-- A resource is not read without a name. -/
def readResource (read : Json → Option α) (path name reason : String) : Access (Option α) :=
  if name.isEmpty then .settled (.error reason)
  else access (.read path) reason (concludeRead read reason)

def readRequest (namespaceName name : String) : Access (Option CertificateRequest) :=
  readResource CertificateRequest.ofJson? (requestPath namespaceName name) name
    s!"Failed to get CertificateRequest {namespaceName}/{name}"

def readIssuer (namespaceName name : String) : Access (Option Issuer) :=
  readResource Issuer.ofJson? (issuerPath namespaceName name) name
    s!"Failed to get AWSPCAIssuer {namespaceName}/{name}"

def readClusterIssuer (name : String) : Access (Option ClusterIssuer) :=
  readResource ClusterIssuer.ofJson? (clusterIssuerPath name) name
    s!"Failed to get AWSPCAClusterIssuer {name}"

/-- The namespace and the name of a request that is written. -/
def identity (request : CertificateRequest) : StoreAnswer (String × String) :=
  match request.metadata.name, request.metadata.namespaceName with
  | none, _ => .error "CertificateRequest has no name"
  | some _, none => .error "CertificateRequest has no namespace"
  | some name, some namespaceName => .ok (namespaceName, name)

/-- The reply to a write holds the request. -/
def concludeWrite (reason : String) (reply : HttpReply) : StoreAnswer Unit :=
  match reply.value? CertificateRequest.ofJson? with
  | some _ => .ok ()
  | none => .error reason

/-- The greatest number of bytes in the name of a field manager. -/
def managerLimit : Nat := 128

/-- A request is written under its own name, and by a manager whose name is not too long. -/
def writeRequest (fieldManager : String) (request : CertificateRequest)
    (reason : String → String → String) (call : String → HttpCall) : Access Unit :=
  match identity request with
  | .error fault => .settled (.error fault)
  | .ok (namespaceName, name) =>
    let fault := reason namespaceName name
    if name.isEmpty || managerLimit < fieldManager.utf8ByteSize then .settled (.error fault)
    else access (call (requestPath namespaceName name)) fault (concludeWrite fault)

/-- The body that sets the identifier of a certificate. -/
def annotationPatch (arn : String) : Json :=
  .record [("metadata", .record [("annotations", .record
    [(CertificateRequest.arnKey, .text arn)])])]

def annotate (fieldManager : String) (request : CertificateRequest) (arn : String) : Access Unit :=
  writeRequest fieldManager request
    (fun namespaceName name =>
      s!"Failed to annotate CertificateRequest {namespaceName}/{name} with certificate ARN")
    fun path =>
      .change path "application/merge-patch+json" [("fieldManager", fieldManager)]
        (annotationPatch arn)

/-- The body that applies the owned part of a status. -/
def statusPatch (status : CertificateRequestStatus) : Json :=
  .record
    [("apiVersion", .text CertificateRequest.apiVersion),
      ("kind", .text CertificateRequest.kindName), ("status", status.owned.toJson)]

/-- A status is applied, also over the fields of another manager. -/
def writeStatus (fieldManager : String) (request : CertificateRequest)
    (status : CertificateRequestStatus) : Access Unit :=
  writeRequest fieldManager request
    (fun namespaceName name =>
      s!"Failed to update status of CertificateRequest {namespaceName}/{name}")
    fun path =>
      .change (path ++ "/status") "application/apply-patch+yaml"
        [("fieldManager", fieldManager), ("force", "true")] (statusPatch status)

def secretPath (place : PrivateCa.SecretPlace) : String :=
  s!"/api/v1/namespaces/{place.namespaceName}/secrets/{place.name}"

def secret? (reply : HttpReply) : Option Secret := reply.value? Secret.ofJson?

/-- A client for an issuer is built with a secret of the cluster. -/
def buildClient (controllerNamespace : String) (standardRegion : Option String)
    (key : AuthorityKey) (spec : IssuerSpec) :
    Exchange HttpCall HttpReply ProvisionerFailure PrivateCa.Client :=
  match PrivateCa.Client.build controllerNamespace standardRegion key spec with
  | .settled result => .settled result
  | .ask place conclude =>
    match (HttpCall.read (secretPath place)).sent? with
    | none => .settled (conclude none)
    | some call => .ask call fun reply => conclude (secret? reply)

end Issuance.ClusterApi
