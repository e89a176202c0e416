import EtcdFleet.Document

set_option autoImplicit false

/-!
# Fields of a record

A record is written as an object or as the list of its fields in their order; the list may end early.
Members that no field names are passed over. A field says what an absent value means, and whether a
null is one.
-/

namespace EtcdFleet

inductive Fields
  | named (members : List (String × Document))
  | ordered (items : List Document)

abbrev Fields.Rule := Nat → Document → Option Fields

namespace Fields

def strict? : Rule
  | _, .object members => some (.named members)
  | count, .list items => if items.length ≤ count then some (.ordered items) else none
  | _, _ => none

def lenient? : Rule
  | _, .object members => some (.named members)
  | _, .list items => some (.ordered items)
  | _, _ => none

def item? : Fields → Nat → String → Option Document
  | .named members, _, name => Entries.find? name members
  | .ordered items, position, _ => items[position]?

variable {α : Type}

def required (fields : Fields) (position : Nat) (name : String) (read : Document → Option α) :
    Option α :=
  (fields.item? position name).bind read

def orDefault (fields : Fields) (position : Nat) (name : String) (read : Document → Option α)
    (value : α) : Option α :=
  match fields.item? position name with
  | none => some value
  | some doc => read doc

def orNull (read : Document → Option α) : Document → Option (Option α)
  | .null => some none
  | doc => (read doc).map some

/-- Absent and null are both nothing. -/
def optional (fields : Fields) (position : Nat) (name : String) (read : Document → Option α) :
    Option (Option α) :=
  fields.orDefault position name (orNull read) none

/-- As `optional`, but a list does not end before this field. -/
def nullable (fields : Fields) (position : Nat) (name : String) (read : Document → Option α) :
    Option (Option α) :=
  match fields with
  | .named _ => fields.optional position name read
  | .ordered _ => fields.required position name (orNull read)

end Fields

structure RecordStyle where
  fields : Fields.Rule
  isNothing : Document → Bool

namespace RecordStyle

/-- A list is no longer than the record, and null is nothing. -/
def strict : RecordStyle := ⟨Fields.strict?, Document.isNull⟩

/-- A list may be longer, and what is empty is nothing. -/
def lenient : RecordStyle where
  fields := Fields.lenient?
  isNothing doc := doc.list?.any (·.isEmpty) || doc.object?.any (·.isEmpty)

end RecordStyle

namespace Document

def member? {α : Type} (members : List (String × Document)) (name : String)
    (read : Document → Option α) : Option (Option α) :=
  (Fields.named members).optional 0 name read

def listOf? {α : Type} (read : Document → Option α) : Document → Option (List α)
  | .list items => items.mapM read
  | _ => none

def stringMap? : Document → Option StringMap
  | .object members =>
    (members.mapM fun member : String × Document => member.2.text?.map (member.1, ·)).map
      NameMap.ofEntries
  | _ => none

/-- The name of a case without content: a text, or an object whose one member has that name and holds
nothing, in whatever way `isNothing` says. -/
def caseName? (isNothing : Document → Bool) : Document → Option String
  | .text name => some name
  | .object [(name, content)] => if isNothing content then some name else none
  | _ => none

def natBelow? (bound : Nat) (doc : Document) : Option Nat :=
  (doc.integerWithin? 0 (bound - 1)).map Int.toNat

def word16? (doc : Document) : Option UInt16 := (doc.natBelow? UInt16.size).map UInt16.ofNat

def word32? (doc : Document) : Option UInt32 := (doc.natBelow? UInt32.size).map UInt32.ofNat

def word64? (doc : Document) : Option UInt64 := (doc.natBelow? UInt64.size).map UInt64.ofNat

def signed64? (doc : Document) : Option Int64 := doc.signed?.map Int64.ofInt

end Document
end EtcdFleet
