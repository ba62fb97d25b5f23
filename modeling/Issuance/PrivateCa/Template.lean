namespace Issuance.PrivateCa

/-- The templates that requests can lead to. -/
inductive Template where
  | subordinateCa
  | codeSigning
  | clientAuth
  | serverAuth
  | ocspSigning
  | endEntity
  | passthrough
  deriving DecidableEq, Repr

namespace Template

/-- The name of a template without its partition. -/
def path : Template → String
  | subordinateCa => "acm-pca:::template/SubordinateCACertificate_PathLen0/V1"
  | codeSigning => "acm-pca:::template/CodeSigningCertificate/V1"
  | clientAuth => "acm-pca:::template/EndEntityClientAuthCertificate/V1"
  | serverAuth => "acm-pca:::template/EndEntityServerAuthCertificate/V1"
  | ocspSigning => "acm-pca:::template/OCSPSigningCertificate/V1"
  | endEntity => "acm-pca:::template/EndEntityCertificate/V1"
  | passthrough => "acm-pca:::template/BlankEndEntityCertificate_APICSRPassthrough/V1"

/-- One known usage, or client and server authentication together, has a template. -/
def ofUsages (usages : List String) : Template :=
  if usages = ["code signing"] then codeSigning
  else if usages = ["client auth"] then clientAuth
  else if usages = ["server auth"] then serverAuth
  else if usages = ["ocsp signing"] then ocspSigning
  else if usages = ["client auth", "server auth"] then endEntity
  else if usages = ["server auth", "client auth"] then endEntity
  else passthrough

/-- A request for an authority has a template of its own. -/
def select (isCa : Bool) (usages : List String) : Template :=
  if isCa then subordinateCa else ofUsages usages

end Template

/-- The scheme and the partition of an identifier, which lead every identifier beside it. -/
def partitionLead (arn : String) : String :=
  match arn.toList.dropWhile (· ≠ ':') with
  | [] => "arn:aws:"
  | _ :: rest =>
    match rest.takeWhile (· ≠ ':') with
    | [] => "arn:aws:"
    | partition =>
      String.ofList (arn.toList.takeWhile (· ≠ ':') ++ [':'] ++ partition ++ [':'])

/-- The identifier of the template for a request to an authority. -/
def templateArn (authorityArn : String) (isCa : Bool) (usages : List String) : String :=
  partitionLead authorityArn ++ (Template.select isCa usages).path

end Issuance.PrivateCa
