import EtcdFleet.Document

set_option autoImplicit false

/-!
# Values as they are written

A written value keeps the members of its objects in their order, repeated names included, and may hold
numbers and texts that have no value. It stands for a document where everything in it has a value and
it is nested no deeper than allowed: of a repeated name the last value counts.
-/

namespace EtcdFleet

inductive Written
  | null
  | bool (value : Bool)
  | number (value : Option Number)
  | text (value : Option String)
  | list (items : List Written)
  | object (members : List (Option String × Written))

namespace Written

instance : Inhabited Written := ⟨.null⟩

def depthLimit : Nat := 127

mutual

/-- The document of a value in which lists and objects are nested at most `room` deep. -/
def toDocument? (room : Nat) : Written → Option Document
  | .null => some .null
  | .bool value => some (.bool value)
  | .number value => value.map .number
  | .text value => value.map .text
  | .list items => if room = 0 then none else (itemDocuments? (room - 1) items).map .list
  | .object members =>
    if room = 0 then none else (memberDocuments? (room - 1) members []).map .object

def itemDocuments? (room : Nat) : List Written → Option (List Document)
  | [] => some []
  | item :: rest => do
    let first ← item.toDocument? room
    let later ← itemDocuments? room rest
    return first :: later

def memberDocuments? (room : Nat) : List (Option String × Written) → List (String × Document) →
    Option (List (String × Document))
  | [], done => some done
  | (name, value) :: rest, done => do
    let name ← name
    let doc ← value.toDocument? room
    memberDocuments? room rest (Entries.insert name doc done)

end

/-- The members that are read, in their order. What is not read is passed over, up to its name. -/
def select? (read? : String → Option (Written → Option Document)) :
    List (Option String × Written) → Option (List (String × Document))
  | [] => some []
  | (name, value) :: rest => do
    let name ← name
    let later ← select? read? rest
    match read? name with
    | none => return later
    | some read => return (name, ← read value) :: later

end Written
end EtcdFleet
