import EtcdFleet.Document.Path
import EtcdFleet.Resource.Kind
import EtcdFleet.Text.Numeral

set_option autoImplicit false

/-!
# The document store

Documents by kind, namespace and name. A document is stored under the name that it carries itself.
Its version counts the writes it has seen: a creation gives it the first, every update the next. An
update that names a version loses to any write after that version, one that names none always
wins.
-/

namespace EtcdFleet

structure ResourceKey where
  kind : ResourceKind
  «namespace» : String
  name : String
  deriving DecidableEq

namespace Document

def resourceName (doc : Document) : Except ProviderError String := do
  match ← doc.getText? ["metadata", "name"] with
  | some name =>
    if name.isEmpty then throw (.malformed ["metadata", "name"] "a non-empty string")
    else return name
  | none => throw (.malformed ["metadata", "name"] "a non-empty string")

def versionPath : Path := ["metadata", "resourceVersion"]

/-- The version of a stored document; no numeral counts as none. -/
def storedVersion (doc : Document) : Except ProviderError Nat := do
  let text ← doc.getText? versionPath
  return (text.bind fun text => Text.unsignedBelow? UInt64.size text.toList).getD 0

def withVersion (doc : Document) (version : Nat) : Except ProviderError Document :=
  doc.put versionPath (.text (Text.decimal version))

end Document

structure Store where
  entries : List (ResourceKey × Document)
  distinct : (entries.map (·.1)).Nodup

namespace Store

def lookup (key : ResourceKey) : List (ResourceKey × Document) → Option Document
  | [] => none
  | (other, doc) :: rest => if other = key then some doc else lookup key rest

/-- Replaces the document of the key, or appends one. -/
def write (key : ResourceKey) (doc : Document) :
    List (ResourceKey × Document) → List (ResourceKey × Document)
  | [] => [(key, doc)]
  | (other, old) :: rest =>
    if other = key then (key, doc) :: rest else (other, old) :: write key doc rest

theorem mem_keys_write {key other : ResourceKey} {doc : Document}
    {entries : List (ResourceKey × Document)} :
    other ∈ (write key doc entries).map (·.1) ↔ other = key ∨ other ∈ entries.map (·.1) := by
  induction entries with
  | nil => simp [write]
  | cons entry rest ih =>
    obtain ⟨first, old⟩ := entry
    by_cases h : first = key
    · subst h; simp [write]
    · simp only [write, h, ↓reduceIte, List.map_cons, List.mem_cons, ih]
      grind

theorem nodup_keys_write {key : ResourceKey} {doc : Document}
    {entries : List (ResourceKey × Document)} (h : (entries.map (·.1)).Nodup) :
    ((write key doc entries).map (·.1)).Nodup := by
  induction entries with
  | nil => simp [write]
  | cons entry rest ih =>
    obtain ⟨first, old⟩ := entry
    have hparts := List.nodup_cons.1 h
    by_cases hk : first = key
    · subst hk; simpa [write] using h
    · simp only [write, hk, ↓reduceIte, List.map_cons]
      refine List.nodup_cons.2 ⟨fun hmem => ?_, ih hparts.2⟩
      rcases mem_keys_write.1 hmem with heq | hrest
      · exact hk heq
      · exact hparts.1 hrest

theorem lookup_write_self (key : ResourceKey) (doc : Document)
    (entries : List (ResourceKey × Document)) :
    lookup key (write key doc entries) = some doc := by
  induction entries with
  | nil => simp [write, lookup]
  | cons entry rest ih =>
    obtain ⟨first, old⟩ := entry
    by_cases h : first = key <;> simp [write, lookup, h, ih]

theorem lookup_write_of_ne {key other : ResourceKey} (doc : Document)
    (entries : List (ResourceKey × Document)) (h : other ≠ key) :
    lookup other (write key doc entries) = lookup other entries := by
  induction entries with
  | nil => simp [write, lookup, Ne.symm h]
  | cons entry rest ih =>
    obtain ⟨first, old⟩ := entry
    by_cases hk : first = key
    · simp [write, lookup, hk, Ne.symm h]
    · simp [write, lookup, hk, ih]

def empty : Store := ⟨[], by simp⟩

instance : Inhabited Store := ⟨empty⟩

def find? (store : Store) (key : ResourceKey) : Option Document := lookup key store.entries

def put (store : Store) (key : ResourceKey) (doc : Document) : Store :=
  ⟨write key doc store.entries, nodup_keys_write store.distinct⟩

def size (store : Store) : Nat := store.entries.length

def keys (store : Store) : List ResourceKey := store.entries.map (·.1)

theorem find?_put_self (store : Store) (key : ResourceKey) (doc : Document) :
    (store.put key doc).find? key = some doc :=
  lookup_write_self key doc store.entries

theorem find?_put_of_ne (store : Store) {key other : ResourceKey} (doc : Document)
    (h : other ≠ key) : (store.put key doc).find? other = store.find? other :=
  lookup_write_of_ne doc store.entries h

def missing (key : ResourceKey) : ProviderError :=
  .resourceNotFound key.kind.kind key.name key.namespace

def get (store : Store) (key : ResourceKey) : Except ProviderError Document :=
  match store.find? key with
  | some doc => .ok doc
  | none => .error (missing key)

/-- Places a document as it is, whatever was there. -/
def insert (store : Store) (kind : ResourceKind) («namespace» : String) (doc : Document) :
    Except ProviderError Store := do
  let name ← doc.resourceName
  return store.put ⟨kind, «namespace», name⟩ doc

def create (store : Store) (kind : ResourceKind) («namespace» : String) (doc : Document) :
    Except ProviderError (Document × Store) := do
  let name ← doc.resourceName
  let key : ResourceKey := ⟨kind, «namespace», name⟩
  if (store.find? key).isSome then throw (.alreadyExists kind.kind name «namespace»)
  let stored ← doc.withVersion 1
  return (stored, store.put key stored)

def staleWrite (key : ResourceKey) (requested : String) (current : Nat) : ProviderError :=
  .conflict (key.kind.kind ++ "/" ++ key.name ++ " was modified (resourceVersion " ++ requested ++
    " != " ++ Text.decimal current ++ ")")

def update (store : Store) (kind : ResourceKind) («namespace» : String) (doc : Document) :
    Except ProviderError (Document × Store) := do
  let name ← doc.resourceName
  let key : ResourceKey := ⟨kind, «namespace», name⟩
  let existing ← store.get key
  let current ← existing.storedVersion
  match ← doc.getText? Document.versionPath with
  | some requested =>
    if requested ≠ Text.decimal current then throw (staleWrite key requested current)
  | none => pure ()
  let stored ← doc.withVersion (current + 1)
  return (stored, store.put key stored)

end Store
end EtcdFleet
