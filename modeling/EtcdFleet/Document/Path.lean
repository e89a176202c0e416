import EtcdFleet.Document
import EtcdFleet.Failure

set_option autoImplicit false

/-!
# Reading and writing inside a document

A missing value and an explicit null both read as nothing; a value that is neither an object nor
nothing blocks every path through it. Reading and writing are blocked by the same value, the first
such one on the path, and a blocked write changes nothing. `lookup?` and `assign?` name the blocking
value by its path; the functions after them report it as a malformed document.
-/

namespace EtcdFleet

abbrev Path := List String

namespace Document

def members? : Document → Option (List (String × Document))
  | .null => some []
  | .object members => some members
  | _ => none

def lookup? (doc : Document) : Path → Except Path (Option Document)
  | [] => .ok (some doc)
  | name :: rest =>
    match doc.members? with
    | none => .error []
    | some members =>
      match Entries.find? name members with
      | none | some .null => .ok none
      | some child => (child.lookup? rest).mapError (name :: ·)

/-- Objects that are missing on the way are created. -/
def assign? (doc : Document) : Path → Document → Except Path Document
  | [], value => .ok value
  | name :: rest, value =>
    match doc.members? with
    | none => .error []
    | some members =>
      match ((Entries.find? name members).getD (.object [])).assign? rest value with
      | .error blocking => .error (name :: blocking)
      | .ok child => .ok (.object (Entries.insert name child members))

def blocked (path : Path) : ProviderError := .malformed path "an object"

def get? (doc : Document) (path : Path) : Except ProviderError (Option Document) :=
  (doc.lookup? path).mapError blocked

def put (doc : Document) (path : Path) (value : Document) : Except ProviderError Document :=
  (doc.assign? path value).mapError blocked

def getAs? {α : Type} (view : Document → Option α) (expected : String) (doc : Document)
    (path : Path) : Except ProviderError (Option α) := do
  match ← doc.get? path with
  | none => return none
  | some value =>
    match view value with
    | some found => return some found
    | none => throw (.malformed path expected)

def getInteger? : Document → Path → Except ProviderError (Option Int) :=
  getAs? signed? "an integer"

def getText? : Document → Path → Except ProviderError (Option String) :=
  getAs? text? "a string"

def getList? : Document → Path → Except ProviderError (Option (List Document)) :=
  getAs? list? "a list"

def getObject? : Document → Path → Except ProviderError (Option (List (String × Document))) :=
  getAs? object? "an object"

theorem assign?_of_empty {doc : Document} (h : doc.members? = some []) (path : Path)
    (value : Document) : ∃ written, doc.assign? path value = .ok written := by
  induction path generalizing doc with
  | nil => exact ⟨value, rfl⟩
  | cons name rest ih =>
    obtain ⟨child, hchild⟩ := @ih (.object []) rfl
    refine ⟨.object [(name, child)], ?_⟩
    simp [assign?, h, Entries.find?, hchild, Entries.insert, Entries.place]

end Document
end EtcdFleet
