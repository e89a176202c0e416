import EtcdFleet.Document.Written
import EtcdFleet.Kubernetes.Metadata

set_option autoImplicit false

/-!
# What is read of written metadata

Of metadata only the members that it has are read, and of the records in it only theirs; whatever else
is written there is passed over. A member may be written more than once: every time it has its shape
or is null, and the last time counts.
-/

namespace EtcdFleet.Kubernetes

open Written (toDocument? select?)

def selectObject? (read? : String → Option (Written → Option Document)) :
    Written → Option Document
  | .object members => (select? read? members).map fun found => .object (NameMap.ofEntries found).entries
  | _ => none

def fitting? (fits : Document → Bool) (room : Nat) (value : Written) : Option Document :=
  (value.toDocument? room).filter fits

def ScalarShape.select? (room : Nat) (shape : ScalarShape) : Written → Option Document :=
  fitting? (fun doc => doc.isNull || (shape.read? doc).isSome) room

def selectRecord? (room : Nat) (always : List String) (others : List (String × ScalarShape)) :
    Written → Option Document :=
  selectObject? fun name =>
    if name ∈ always then some (ScalarShape.text.select? (room - 1))
    else (others.lookup name).map (ScalarShape.select? (room - 1))

namespace MemberShape

def select? (room : Nat) : MemberShape → Written → Option Document
  | _, .null => some .null
  | scalar shape, value => shape.select? room value
  | texts, value => fitting? (fun doc => (Document.listOf? Document.text? doc).isSome) room value
  | textMap, value =>
    selectObject? (fun _ => some (fitting? (fun doc => doc.text?.isSome) (room - 1))) value
  | records always others, .list items =>
    (items.mapM (selectRecord? (room - 1) always others)).map .list
  | records _ _, _ => none

end MemberShape

/-- Nothing outside the members of metadata is looked at. -/
def selectMetadata? (room : Nat) : Written → Option Document :=
  selectObject? fun name => (metadataShapes.lookup name).map (MemberShape.select? (room - 1))

end EtcdFleet.Kubernetes
