import EtcdFleet.Document

set_option autoImplicit false

/-!
# Tables of a TOML text

What the statements of a TOML text build, one after the other. A table is defined once: by its header,
or by the dotted keys of one table. A header may still define a table that only the path of another
header has called for; an inline table is closed.
-/

namespace EtcdFleet.Toml

inductive Form
  | header
  | path
  | dottedKey
  deriving DecidableEq

inductive Node
  | value (doc : Document)
  | table (form : Form) (members : List (String × Node))
  /-- An array of tables, the last one first. -/
  | tables (done : List (List (String × Node)))

abbrev Members := List (String × Node)

inductive Statement
  | table (path : List String) (name : String)
  | arrayTable (path : List String) (name : String)
  | entry (path : List String) (name : String) (value : Document)

/-- Changes the table at a path. Tables that are missing on the way are made, with the given form; a
path of dotted keys does not enter a table that has a header. -/
def edit (made : Form) : List String → Form → Members → (Form → Members → Option Members) →
    Option Members
  | [], form, members, change => change form members
  | name :: rest, _, members, change =>
    match Entries.find? name members with
    | none =>
      (edit made rest made [] change).map fun inner =>
        Entries.insert name (.table made inner) members
    | some (.table form inner) =>
      if made = .dottedKey ∧ form = .header then none
      else
        (edit made rest form inner change).map fun inner =>
          Entries.insert name (.table form inner) members
    | some (.tables (last :: before)) =>
      (edit made rest .header last change).map fun last =>
        Entries.insert name (.tables (last :: before)) members
    | some _ => none

def defineTable (name : String) (members : Members) : Option Members :=
  match Entries.find? name members with
  | none => some (Entries.insert name (.table .header []) members)
  | some (.table .path inner) => some (Entries.insert name (.table .header inner) members)
  | some _ => none

def appendTable (name : String) (members : Members) : Option Members :=
  match Entries.find? name members with
  | none => some (Entries.insert name (.tables [[]]) members)
  | some (.tables before) => some (Entries.insert name (.tables ([] :: before)) members)
  | some _ => none

/-- A dotted key ends in a table that dotted keys have made, a plain one in the table itself. -/
def defineEntry (dotted : Bool) (name : String) (value : Document) (form : Form)
    (members : Members) : Option Members :=
  if dotted = (form == .dottedKey) ∧ (Entries.find? name members).isNone then
    some (Entries.insert name (.value value) members)
  else none

structure Building where
  root : Members
  current : List String

namespace Building

def start : Building := ⟨[], []⟩

def take? (building : Building) : Statement → Option Building
  | .table path name =>
    (edit .path path .header building.root fun _ => defineTable name).map fun root =>
      ⟨root, path ++ [name]⟩
  | .arrayTable path name =>
    (edit .path path .header building.root fun _ => appendTable name).map fun root =>
      ⟨root, path ++ [name]⟩
  | .entry path name value =>
    (edit .path building.current .header building.root fun form members =>
      edit .dottedKey path form members (defineEntry (!path.isEmpty) name value)).map fun root =>
        { building with root }

end Building

mutual

def Node.toDocument : Node → Document
  | .value doc => doc
  | .table _ members => .object (memberDocuments members)
  | .tables done => .list (tableDocuments done).reverse

def memberDocuments : List (String × Node) → List (String × Document)
  | [] => []
  | (name, node) :: rest => (name, node.toDocument) :: memberDocuments rest

def tableDocuments : List (List (String × Node)) → List Document
  | [] => []
  | members :: rest => .object (memberDocuments members) :: tableDocuments rest

end

def ofStatements? (statements : List Statement) : Option Document :=
  (statements.foldlM Building.take? .start).map fun building =>
    .object (memberDocuments building.root)

end EtcdFleet.Toml
