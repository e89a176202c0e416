import EtcdFleet.Cluster.EnvVar
import EtcdFleet.Cluster.Status
import EtcdFleet.Failure
import EtcdFleet.Text.Numeral

set_option autoImplicit false

/-!
# Cluster descriptors

What a managed etcd cluster is meant to be, and what is required of it before anything is created or
changed. Annotations choose the transport and record what creation found out.
-/

namespace EtcdFleet

/-! ## The annotations that have a meaning -/

namespace Annotation

def scheme : String := "scheme"
def extraSans : String := "extraServerCertSANs"
def importedAddress : String := "importedAddr"
def certificateName : String := "certName"
def extensionClientUrls : String := "extClientURL"
def featureGates : String := "featureGates"

end Annotation

inductive SecurityMode
  | plain
  | tls
  deriving DecidableEq

namespace SecurityMode

def label : SecurityMode → String
  | plain => "plain"
  | tls => "tls"

def scheme : SecurityMode → String
  | plain => "http"
  | tls => "https"

/-- Anything but the exact scheme `https` is plain. -/
def ofAnnotations (annotations : StringMap) : SecurityMode :=
  if annotations.find? Annotation.scheme = some "https" then tls else plain

def ofDocument? : Document → Option SecurityMode := labelled? label [plain, tls]

end SecurityMode

structure ClusterMeta where
  name : String
  «namespace» : String
  uid : Option String
  labels : StringMap
  annotations : StringMap
  deriving DecidableEq

structure ClusterSpec where
  /-- The name of the provider that realizes the cluster. -/
  clusterType : String
  size : UInt32
  version : String
  /-- Gibibytes of disk for each member. -/
  diskSize : UInt32
  totalCpu : UInt32
  /-- Gibibytes of memory. -/
  totalMem : UInt32
  env : List EnvVar
  deriving DecidableEq

structure Cluster where
  metadata : ClusterMeta
  spec : ClusterSpec
  status : ClusterStatus
  deriving DecidableEq

namespace ClusterMeta

def toDocument (metadata : ClusterMeta) : Document :=
  .record [("annotations", some (.ofStringMap metadata.annotations)),
    ("labels", some (.ofStringMap metadata.labels)),
    ("name", some (.text metadata.name)),
    ("namespace", some (.text metadata.namespace)),
    ("uid", metadata.uid.map .text)]

def ofFields? (fields : Fields) : Option ClusterMeta := do
  let name ← fields.required 0 "name" Document.text?
  let «namespace» ← fields.required 1 "namespace" Document.text?
  let uid ← fields.optional 2 "uid" Document.text?
  let labels ← fields.orDefault 3 "labels" Document.stringMap? .empty
  let annotations ← fields.orDefault 4 "annotations" Document.stringMap? .empty
  return ⟨name, «namespace», uid, labels, annotations⟩

def ofDocument? (doc : Document) : Option ClusterMeta := (Fields.strict? 5 doc).bind ofFields?

end ClusterMeta

namespace ClusterSpec

def toDocument (spec : ClusterSpec) : Document :=
  .object [("clusterType", .text spec.clusterType),
    ("diskSize", .integer spec.diskSize.toNat),
    ("env", .list (spec.env.map EnvVar.toDocument)),
    ("size", .integer spec.size.toNat),
    ("totalCpu", .integer spec.totalCpu.toNat),
    ("totalMem", .integer spec.totalMem.toNat),
    ("version", .text spec.version)]

def ofFields? (fields : Fields) : Option ClusterSpec := do
  let clusterType ← fields.required 0 "clusterType" Document.text?
  let size ← fields.required 1 "size" Document.word32?
  let version ← fields.required 2 "version" Document.text?
  let diskSize ← fields.required 3 "diskSize" Document.word32?
  let totalCpu ← fields.required 4 "totalCpu" Document.word32?
  let totalMem ← fields.required 5 "totalMem" Document.word32?
  let env ← fields.orDefault 6 "env" (Document.listOf? EnvVar.ofDocument?) []
  return ⟨clusterType, size, version, diskSize, totalCpu, totalMem, env⟩

def ofDocument? (doc : Document) : Option ClusterSpec := (Fields.strict? 7 doc).bind ofFields?

end ClusterSpec

inductive Defect
  | noName
  | noNamespace (cluster : String)
  | noMembers (cluster : String)
  | repeatedVariable (envVar cluster : String)
  deriving DecidableEq

def Defect.reason : Defect → String
  | noName => "cluster name is required"
  | noNamespace cluster => "cluster " ++ cluster ++ " has no namespace"
  | noMembers cluster => "cluster " ++ cluster ++ " must have at least one member"
  | repeatedVariable envVar cluster =>
    "duplicate environment variable " ++ envVar ++ " in cluster " ++ cluster

def Defect.toOperatorError (defect : Defect) : OperatorError := .validation defect.reason

def firstRepeated? (seen : List String) : List String → Option String
  | [] => none
  | name :: rest => if name ∈ seen then some name else firstRepeated? (name :: seen) rest

namespace Cluster

def blank : Cluster :=
  ⟨⟨"", "", none, .empty, .empty⟩, ⟨"", 0, "", 0, 0, 0, []⟩, .initial⟩

instance : Inhabited Cluster := ⟨blank⟩

def name (cluster : Cluster) : String := cluster.metadata.name

def «namespace» (cluster : Cluster) : String := cluster.metadata.namespace

def annotation? (cluster : Cluster) (name : String) : Option String :=
  cluster.metadata.annotations.find? name

def annotate (cluster : Cluster) (name value : String) : Cluster :=
  { cluster with metadata.annotations := cluster.metadata.annotations.insert name value }

def securityMode (cluster : Cluster) : SecurityMode :=
  .ofAnnotations cluster.metadata.annotations

def defect? (cluster : Cluster) : Option Defect :=
  if cluster.name.isEmpty then some .noName
  else if cluster.namespace.isEmpty then some (.noNamespace cluster.name)
  else if cluster.spec.size = 0 then some (.noMembers cluster.name)
  else (firstRepeated? [] (cluster.spec.env.map (·.name))).map (.repeatedVariable · cluster.name)

def validate (cluster : Cluster) : Except ProviderError Unit :=
  match cluster.defect? with
  | none => .ok ()
  | some defect => .error (.invalidDescriptor defect.toOperatorError)

def toDocument (cluster : Cluster) : Document :=
  .object [("metadata", cluster.metadata.toDocument), ("spec", cluster.spec.toDocument),
    ("status", cluster.status.toDocument)]

def ofFields? (fields : Fields) : Option Cluster := do
  let metadata ← fields.required 0 "metadata" ClusterMeta.ofDocument?
  let spec ← fields.required 1 "spec" ClusterSpec.ofDocument?
  let status ← fields.orDefault 2 "status" ClusterStatus.ofDocument? .initial
  return ⟨metadata, spec, status⟩

def ofDocument? (doc : Document) : Option Cluster := (Fields.strict? 3 doc).bind ofFields?

end Cluster
end EtcdFleet
