import EtcdFleet.Document.Fields
import EtcdFleet.Time.Instant

set_option autoImplicit false

/-!
# The metadata of Kubernetes objects

The members that metadata has, and the shape of each. Reading keeps those members and refuses a wrong
shape; every other member is dropped, and so is a null. What has been read once reads as itself.
-/

namespace EtcdFleet.Kubernetes

inductive ScalarShape
  | text
  | flag
  | integer
  /-- An RFC 3339 time, kept to the second. -/
  | time
  | anything
  deriving DecidableEq

inductive MemberShape
  | scalar (shape : ScalarShape)
  | texts
  | textMap
  /-- A list of records; the names of the texts that every record has, and the other fields. -/
  | records (always : List String) (others : List (String × ScalarShape))

namespace ScalarShape

def read? : ScalarShape → Document → Option Document
  | text, doc => doc.text?.map .text
  | flag, doc => doc.bool?.map .bool
  | integer, doc => doc.signed?.map .integer
  | time, doc => (doc.text?.bind Instant.ofFreeText?).map fun instant => .text instant.toSecondText
  | anything, doc => some doc

end ScalarShape

def readMembers? {α : Type} (read : α → Document → Option Document)
    (members : List (String × Document)) : List (String × α) → Option (List (String × Document))
  | [] => some []
  | (name, shape) :: rest => do
    let found ← Document.member? members name (read shape)
    let later ← readMembers? read members rest
    return (found.map (name, ·)).toList ++ later

/-- A text that is missing is empty. -/
def readAlways? (members : List (String × Document)) (names : List String) :
    Option (List (String × Document)) :=
  names.mapM fun name =>
    (Document.member? members name Document.text?).map fun found => (name, .text (found.getD ""))

def readRecord? (always : List String) (others : List (String × ScalarShape)) (doc : Document) :
    Option Document := do
  let members ← doc.object?
  let required ← readAlways? members always
  let optional ← readMembers? ScalarShape.read? members others
  return .object (NameMap.ofEntries (required ++ optional)).entries

namespace MemberShape

def read? : MemberShape → Document → Option Document
  | scalar shape, doc => shape.read? doc
  | texts, doc => (Document.listOf? Document.text? doc).map .texts
  | textMap, doc => doc.stringMap?.map .ofStringMap
  | records always others, doc => (Document.listOf? (readRecord? always others) doc).map .list

end MemberShape

def metadataShapes : List (String × MemberShape) :=
  [("annotations", .textMap),
    ("creationTimestamp", .scalar .time),
    ("deletionGracePeriodSeconds", .scalar .integer),
    ("deletionTimestamp", .scalar .time),
    ("finalizers", .texts),
    ("generateName", .scalar .text),
    ("generation", .scalar .integer),
    ("labels", .textMap),
    ("managedFields", .records []
      [("apiVersion", .text), ("fieldsType", .text), ("fieldsV1", .anything), ("manager", .text),
        ("operation", .text), ("subresource", .text), ("time", .time)]),
    ("name", .scalar .text),
    ("namespace", .scalar .text),
    ("ownerReferences", .records ["apiVersion", "kind", "name", "uid"]
      [("blockOwnerDeletion", .flag), ("controller", .flag)]),
    ("resourceVersion", .scalar .text),
    ("selfLink", .scalar .text),
    ("uid", .scalar .text)]

def readMetadata? (doc : Document) : Option Document := do
  let members ← doc.object?
  return .object (← readMembers? MemberShape.read? members metadataShapes)

end EtcdFleet.Kubernetes
