import EtcdFleet.Cluster.Descriptor
import EtcdFleet.Document.Path
import EtcdFleet.Resource.Kind
import EtcdFleet.Time.Instant

set_option autoImplicit false

/-!
# Inspection tasks

One scheduled inspection of a cluster by a feature, and the resource that stands for it. A task is
named for the two, so that whether it exists is a question about one name.
-/

namespace EtcdFleet

structure Task where
  name : String
  «namespace» : String
  clusterName : String
  feature : String
  createdAt : Option Instant
  deriving DecidableEq

namespace Task

def nameFor (clusterName feature : String) : String := clusterName ++ "-" ++ feature

def ofCluster (cluster : Cluster) (feature : String) : Task where
  name := nameFor cluster.name feature
  «namespace» := cluster.namespace
  clusterName := cluster.name
  feature := feature
  createdAt := none

def toDocument (task : Task) : Document :=
  .record [("clusterName", some (.text task.clusterName)),
    ("createdAt", task.createdAt.map fun instant => .text instant.toText),
    ("feature", some (.text task.feature)),
    ("name", some (.text task.name)),
    ("namespace", some (.text task.namespace))]

def ofFields? (fields : Fields) : Option Task := do
  let name ← fields.required 0 "name" Document.text?
  let «namespace» ← fields.required 1 "namespace" Document.text?
  let clusterName ← fields.required 2 "clusterName" Document.text?
  let feature ← fields.required 3 "feature" Document.text?
  let createdAt ← fields.required 4 "createdAt" fun doc => doc.text?.bind Instant.ofFreeText?
  return ⟨name, «namespace», clusterName, feature, some createdAt⟩

def ofDocument? (doc : Document) : Option Task := (Fields.strict? 5 doc).bind ofFields?

/-! ## The resource of a task -/

def resource (task : Task) (kind : ResourceKind) (cluster : Cluster) : Document :=
  .object [("apiVersion", .text kind.apiVersion), ("kind", .text kind.kind),
    ("metadata", .record
      [("labels", some (.object
          [("clusterName", .text task.clusterName), ("inspectionType", .text task.feature)])),
        ("name", some (.text task.name)),
        ("namespace", some (.text task.namespace)),
        ("ownerReferences", ownerReferences cluster.name cluster.metadata.uid)]),
    ("spec", .object
      [("clusterName", .text task.clusterName), ("inspectionType", .text task.feature)])]

def requiredText (doc : Document) (path : Path) : Except ProviderError String := do
  match ← doc.getText? path with
  | some text => return text
  | none => throw (.malformed path "a string")

def creationPath : Path := ["metadata", "creationTimestamp"]

def creation (doc : Document) : Except ProviderError (Option Instant) := do
  match ← doc.getText? creationPath with
  | none => return none
  | some text =>
    match Instant.ofExactText? text with
    | some instant => return some instant
    | none => throw (.malformed creationPath "an RFC 3339 time")

/-- The time is read first. -/
def ofResource (doc : Document) : Except ProviderError Task := do
  let createdAt ← creation doc
  let name ← requiredText doc ["metadata", "name"]
  let «namespace» ← requiredText doc ["metadata", "namespace"]
  let clusterName ← requiredText doc ["spec", "clusterName"]
  let feature ← requiredText doc ["spec", "inspectionType"]
  return ⟨name, «namespace», clusterName, feature, createdAt⟩

end Task
end EtcdFleet
