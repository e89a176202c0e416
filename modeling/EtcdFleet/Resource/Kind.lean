import EtcdFleet.Document.Fields

set_option autoImplicit false

/-!
# Kinds of namespaced resources

The two resource kinds that the operator writes by default, and the owner entry by which a written
resource is removed together with the cluster it belongs to.
-/

namespace EtcdFleet

structure ResourceKind where
  group : String
  version : String
  kind : String
  plural : String
  deriving DecidableEq

namespace ResourceKind

/-- The core group has no name and is left out. -/
def apiVersion (kind : ResourceKind) : String :=
  if kind.group.isEmpty then kind.version else kind.group ++ "/" ++ kind.version

def etcdCluster : ResourceKind :=
  ⟨"etcd.tkestack.io", "v1alpha1", "EtcdCluster", "etcdclusters"⟩

def etcdInspection : ResourceKind :=
  ⟨"kstone.tkestack.io", "v1alpha1", "EtcdInspection", "etcdinspections"⟩

def toDocument (kind : ResourceKind) : Document :=
  .object [("group", .text kind.group), ("kind", .text kind.kind), ("plural", .text kind.plural),
    ("version", .text kind.version)]

def ofFields? (fields : Fields) : Option ResourceKind := do
  let group ← fields.required 0 "group" Document.text?
  let version ← fields.required 1 "version" Document.text?
  let kind ← fields.required 2 "kind" Document.text?
  let plural ← fields.required 3 "plural" Document.text?
  return ⟨group, version, kind, plural⟩

def ofDocument? (rule : Fields.Rule) (doc : Document) : Option ResourceKind :=
  (rule 4 doc).bind ofFields?

end ResourceKind

/-- The owners of a resource that belongs to the cluster of that name; without an identity there is
nothing to refer to. -/
def ownerReferences (name : String) (uid : Option String) : Option Document :=
  uid.map fun uid => .list [.object
    [("apiVersion", .text "kstone.tkestack.io/v1alpha1"),
      ("blockOwnerDeletion", .bool true),
      ("controller", .bool true),
      ("kind", .text "EtcdCluster"),
      ("name", .text name),
      ("uid", .text uid)]]

end EtcdFleet
