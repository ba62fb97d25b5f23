import Issuance.Resource.CertificateRequest
import Issuance.Resource.Entries
import Issuance.Resource.Issuer

namespace Issuance

/-- A name is unique within its namespace. -/
structure ResourceName where
  namespaceName : String
  name : String
  deriving DecidableEq, Repr, Inhabited

namespace Metadata

/-- The name under which a resource is stored. -/
def resourceName (metadata : Metadata) : ResourceName :=
  ⟨metadata.namespaceName.getD "", metadata.name.getD ""⟩

end Metadata

namespace CertificateRequestStatus

/-- A written status brings its Ready conditions and all of its other fields, and the stored
conditions of other kinds stay. -/
def merge (stored written : CertificateRequestStatus) : CertificateRequestStatus :=
  { written with
    conditions :=
      (stored.conditions.filter fun condition => !condition.isReadyKind) ++
        written.conditions.filter Condition.isReadyKind }

end CertificateRequestStatus

namespace CertificateRequest

/-- A written status is merged into the stored one. -/
def mergeStatus (written : CertificateRequestStatus) (request : CertificateRequest) :
    CertificateRequest :=
  { request with status := some ((request.status.getD {}).merge written) }

/-- A request with the identifier of its certificate. -/
def annotateArn (arn : String) (request : CertificateRequest) : CertificateRequest :=
  { request with metadata := request.metadata.annotate arnKey arn }

/-- Another controller adds a condition. -/
def addCondition (condition : Condition) (request : CertificateRequest) : CertificateRequest :=
  let status := request.status.getD {}
  { request with status := some { status with conditions := status.conditions ++ [condition] } }

end CertificateRequest

/-- The resources of a cluster. -/
structure Cluster where
  requests : List (ResourceName × CertificateRequest) := []
  issuers : List (ResourceName × Issuer) := []
  clusterIssuers : List (String × ClusterIssuer) := []
  deriving Inhabited

namespace Cluster

def request? (cluster : Cluster) (name : ResourceName) : Option CertificateRequest :=
  cluster.requests.lookup name

def issuer? (cluster : Cluster) (name : ResourceName) : Option Issuer :=
  cluster.issuers.lookup name

def clusterIssuer? (cluster : Cluster) (name : String) : Option ClusterIssuer :=
  cluster.clusterIssuers.lookup name

/-- A request takes the place of the one of the same name. -/
def putRequest (cluster : Cluster) (request : CertificateRequest) : Cluster :=
  { cluster with
    requests := Entries.set request.metadata.resourceName request cluster.requests }

def putIssuer (cluster : Cluster) (issuer : Issuer) : Cluster :=
  { cluster with issuers := Entries.set issuer.metadata.resourceName issuer cluster.issuers }

def putClusterIssuer (cluster : Cluster) (issuer : ClusterIssuer) : Cluster :=
  { cluster with
    clusterIssuers := Entries.set (issuer.metadata.name.getD "") issuer cluster.clusterIssuers }

def deleteRequest (cluster : Cluster) (name : ResourceName) : Cluster :=
  { cluster with requests := Entries.remove name cluster.requests }

/-- A stored request changes where it stands. -/
def changeRequest (cluster : Cluster) (name : ResourceName)
    (change : CertificateRequest → CertificateRequest) : Cluster :=
  { cluster with requests := Entries.adjust name change cluster.requests }

end Cluster

end Issuance
