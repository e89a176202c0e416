import EtcdFleet.NameMap

set_option autoImplicit false

/-!
# Documents

The untyped content of a declarative resource. Integers and floating point numbers are told apart: a
float is never an integer, whatever its value. Every reader and every builder below keeps the
members of an object in name order and each name once, so equal contents are equal documents.
-/

namespace EtcdFleet

/-- Integers lie between the least signed and the greatest unsigned 64 bit number; a float is held
by its IEEE 754 bits. -/
inductive Number
  | integer (value : Int)
  | float (bits : UInt64)
  deriving DecidableEq

inductive Document
  | null
  | bool (value : Bool)
  | number (value : Number)
  | text (value : String)
  | list (items : List Document)
  | object (members : List (String × Document))

namespace Document

instance : Inhabited Document := ⟨.null⟩

def integer (value : Int) : Document := .number (.integer value)

/-- An object of the fields that are there; the fields are given in name order. -/
def record (fields : List (String × Option Document)) : Document :=
  .object (fields.filterMap fun field => field.2.map (field.1, ·))

def texts (values : List String) : Document := .list (values.map .text)

def ofStringMap (map : StringMap) : Document :=
  .object (map.entries.map fun entry => (entry.1, .text entry.2))

def isNull : Document → Bool
  | .null => true
  | _ => false

def bool? : Document → Option Bool
  | .bool value => some value
  | _ => none

def text? : Document → Option String
  | .text value => some value
  | _ => none

def list? : Document → Option (List Document)
  | .list items => some items
  | _ => none

def object? : Document → Option (List (String × Document))
  | .object members => some members
  | _ => none

def integerWithin? (least greatest : Int) : Document → Option Int
  | .number (.integer value) =>
    if least ≤ value ∧ value ≤ greatest then some value else none
  | _ => none

def signed? : Document → Option Int :=
  integerWithin? Int64.minValue.toInt Int64.maxValue.toInt

end Document
end EtcdFleet
