import EtcdFleet.Document.Reader
import EtcdFleet.Kubernetes.Selection

set_option autoImplicit false

/-!
# Kubernetes objects

An object has metadata, a type that may be missing, and any other members. The type counts only where
both its parts are texts. A part that is no text ends the search for the type: it is dropped, and the
parts after it are ordinary members.
-/

namespace EtcdFleet.Kubernetes

structure TypeParts where
  apiVersion : Option String
  kind : Option String

def TypeParts.none : TypeParts := ⟨.none, .none⟩

namespace TypeParts

def isPart (name : String) : Bool := name == "apiVersion" || name == "kind"

def add? (parts : TypeParts) (name value : String) : Option TypeParts :=
  if name = "apiVersion" then
    if parts.apiVersion.isSome then Option.none else some { parts with apiVersion := some value }
  else if parts.kind.isSome then Option.none else some { parts with kind := some value }

def members : TypeParts → List (String × Document)
  | ⟨some apiVersion, some kind⟩ => [("apiVersion", .text apiVersion), ("kind", .text kind)]
  | _ => []

end TypeParts

def splitType (parts : TypeParts) : List (String × Document) →
    List (String × Document) × List (String × Document)
  | [] => (parts.members, [])
  | (name, value) :: rest =>
    if TypeParts.isPart name then
      match value.text?.bind (parts.add? name) with
      | some more => splitType more rest
      | none => ([], rest)
    else
      let (type, others) := splitType parts rest
      (type, (name, value) :: others)

/-- The object that the members written in this order stand for. Metadata that is missing is empty,
and metadata written twice is refused. -/
def objectOfMembers? (members : List (String × Document)) : Option Document := do
  let (type, others) := splitType .none (members.filter fun member => member.1 != "metadata")
  let metadata ←
    match members.filter fun member => member.1 == "metadata" with
    | [] => some (.object [])
    | [(_, doc)] => readMetadata? doc
    | _ => none
  return .object (NameMap.ofEntries (others ++ type ++ [("metadata", metadata)])).entries

def objectOfDocument? (doc : Document) : Option Document := doc.object?.bind objectOfMembers?

/-- The members of the outermost object are taken in the order in which they are written. Metadata is
read for its own members, every other member as a whole. -/
def objectOfWritten? : Written → Option Document
  | .object members => do
    let room := Written.depthLimit - 1
    let found ← Written.select? (fun name =>
      some (if name = "metadata" then selectMetadata? room else Written.toDocument? room)) members
    objectOfMembers? found
  | _ => none

def objectOfText? (text : String) : Option Document :=
  (Written.ofText? text).bind objectOfWritten?

end EtcdFleet.Kubernetes
