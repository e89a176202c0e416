import EtcdFleet.Cluster.Descriptor
import EtcdFleet.Resource.Kind
import EtcdFleet.Text.Blank
import EtcdFleet.Text.Pieces

set_option autoImplicit false

/-!
# The resource of a cluster

The document that the etcd operator turns into a running cluster. It depends on the descriptor alone,
and its `spec` on nothing but the specification, the labels and the annotations.
-/

namespace EtcdFleet

def gibibytes (count : UInt32) : String := Text.decimal count.toNat ++ "Gi"

def filledPieces (cs : List Char) : List (List Char) :=
  ((Text.pieces ',' cs).map Text.trim).filter (!·.isEmpty)

/-- Extra names for the server certificates; nothing when there is not a single one. -/
def extraSans? (text : String) : Option (List String) :=
  let names := (filledPieces text.toList).map String.ofList
  if names.isEmpty then none else some names

namespace Cluster

def resources (cpu memory : String) : Document :=
  .object [("cpu", .text cpu), ("memory", .text memory)]

/-- Requests and limits are equal, so members are never moved for want of what they asked for. -/
def resourcesDocument (spec : ClusterSpec) : Document :=
  let needs := resources (Text.decimal spec.totalCpu.toNat) (gibibytes spec.totalMem)
  .object [("limits", needs), ("requests", needs)]

def volumeDocument (spec : ClusterSpec) : Document :=
  .object [("accessModes", .texts ["ReadWriteOnce"]),
    ("resources", .object
      [("requests", .object [("storage", .text (gibibytes spec.diskSize))])])]

def extraArguments : SecurityMode → List String
  | .plain => ["logger=zap"]
  | .tls => ["logger=zap", "client-cert-auth=true"]

def secureDocument (cluster : Cluster) : Document :=
  let sans := extraSans? ((cluster.annotation? Annotation.extraSans).getD "")
  .object [("tls", .object [("autoTLSCert", .record
    [("autoGenerateClientCert", some (.bool true)),
      ("autoGeneratePeerCert", some (.bool true)),
      ("autoGenerateServerCert", some (.bool true)),
      ("extraServerCertSANs", sans.map .texts)])])]

def templateDocument (cluster : Cluster) : Document :=
  .object [("annotations", .ofStringMap cluster.metadata.annotations),
    ("env", .list (cluster.spec.env.map EnvVar.toDocument)),
    ("extraArgs", .texts (extraArguments cluster.securityMode)),
    ("labels", .ofStringMap cluster.metadata.labels),
    ("persistentVolumeClaimSpec", volumeDocument cluster.spec),
    ("resources", resourcesDocument cluster.spec)]

def desiredSpec (cluster : Cluster) : Document :=
  .record
    [("secure",
        match cluster.securityMode with
        | .tls => some cluster.secureDocument
        | .plain => none),
      ("size", some (.integer cluster.spec.size.toNat)),
      ("template", some cluster.templateDocument),
      ("version", some (.text cluster.spec.version))]

def resource (cluster : Cluster) (kind : ResourceKind) : Document :=
  .object [("apiVersion", .text kind.apiVersion), ("kind", .text kind.kind),
    ("metadata", .record
      [("name", some (.text cluster.name)),
        ("namespace", some (.text cluster.namespace)),
        ("ownerReferences", ownerReferences cluster.name cluster.metadata.uid)]),
    ("spec", cluster.desiredSpec)]

end Cluster
end EtcdFleet
