set_option autoImplicit false

/-!
# Values by name

Entries are kept in the order of their names, which is the order of the code points and so also of
the UTF-8 bytes. The functions on bare entry lists serve documents, whose nesting leaves no room for
a proof; their laws hold for every list, ordered or not. `NameMap` carries the order as a field, so
two maps with the same values are equal.
-/

namespace EtcdFleet

universe u

namespace Entries

variable {α : Type u}

def find? (name : String) : List (String × α) → Option α
  | [] => none
  | (key, value) :: rest => if key = name then some value else find? name rest

/-- Changes the first entry of that name and leaves every entry where it is. -/
def replace (name : String) (value : α) : List (String × α) → List (String × α)
  | [] => []
  | (key, old) :: rest =>
    if key = name then (key, value) :: rest else (key, old) :: replace name value rest

/-- Puts a new entry in front of the first greater name. -/
def place (name : String) (value : α) : List (String × α) → List (String × α)
  | [] => [(name, value)]
  | (key, old) :: rest =>
    if name < key then (name, value) :: (key, old) :: rest else (key, old) :: place name value rest

def insert (name : String) (value : α) (entries : List (String × α)) : List (String × α) :=
  if (find? name entries).isSome then replace name value entries else place name value entries

theorem find?_replace_self {name : String} (value : α) {entries : List (String × α)}
    (h : (find? name entries).isSome) : find? name (replace name value entries) = some value := by
  induction entries with
  | nil => simp [find?] at h
  | cons entry rest ih =>
    obtain ⟨key, old⟩ := entry
    by_cases hk : key = name
    · simp [replace, find?, hk]
    · simp only [find?, hk, ↓reduceIte] at h
      simp [replace, find?, hk, ih h]

theorem find?_place_self {name : String} (value : α) {entries : List (String × α)}
    (h : find? name entries = none) : find? name (place name value entries) = some value := by
  induction entries with
  | nil => simp [place, find?]
  | cons entry rest ih =>
    obtain ⟨key, old⟩ := entry
    by_cases hk : key = name
    · simp [find?, hk] at h
    · simp only [find?, hk, ↓reduceIte] at h
      simp only [place]
      split
      · simp [find?]
      · simp [find?, hk, ih h]

theorem find?_replace_of_ne {name other : String} (value : α) (entries : List (String × α))
    (h : other ≠ name) : find? other (replace name value entries) = find? other entries := by
  induction entries with
  | nil => rfl
  | cons entry rest ih =>
    obtain ⟨key, old⟩ := entry
    by_cases hk : key = name
    · have hother : key ≠ other := fun e => h (e.symm.trans hk)
      simp [replace, find?, hk, hk ▸ hother]
    · simp [replace, find?, hk, ih]

theorem find?_place_of_ne {name other : String} (value : α) (entries : List (String × α))
    (h : other ≠ name) : find? other (place name value entries) = find? other entries := by
  induction entries with
  | nil => simp [place, find?, Ne.symm h]
  | cons entry rest ih =>
    obtain ⟨key, old⟩ := entry
    simp only [place]
    split
    · simp [find?, Ne.symm h]
    · simp [find?, ih]

theorem find?_insert_self (name : String) (value : α) (entries : List (String × α)) :
    find? name (insert name value entries) = some value := by
  unfold insert
  split
  · exact find?_replace_self value ‹_›
  · exact find?_place_self value (Option.not_isSome_iff_eq_none.1 ‹_›)

theorem find?_insert_of_ne {name other : String} (value : α) (entries : List (String × α))
    (h : other ≠ name) : find? other (insert name value entries) = find? other entries := by
  unfold insert
  split
  · exact find?_replace_of_ne value entries h
  · exact find?_place_of_ne value entries h

theorem replace_replace (name : String) (value later : α) (entries : List (String × α)) :
    replace name later (replace name value entries) = replace name later entries := by
  induction entries with
  | nil => rfl
  | cons entry rest ih =>
    obtain ⟨key, old⟩ := entry
    by_cases hk : key = name <;> simp [replace, hk, ih]

theorem replace_place {name : String} (value later : α) {entries : List (String × α)}
    (h : find? name entries = none) :
    replace name later (place name value entries) = place name later entries := by
  induction entries with
  | nil => simp [place, replace]
  | cons entry rest ih =>
    obtain ⟨key, old⟩ := entry
    by_cases hk : key = name
    · simp [find?, hk] at h
    · simp only [find?, hk, ↓reduceIte] at h
      simp only [place]
      split
      · simp [replace]
      · simp [replace, hk, ih h]

theorem insert_insert_self (name : String) (value later : α) (entries : List (String × α)) :
    insert name later (insert name value entries) = insert name later entries := by
  by_cases h : (find? name entries).isSome
  · have hnow : (find? name (replace name value entries)).isSome := by
      rw [find?_replace_self value h]; rfl
    simp [insert, h, hnow, replace_replace]
  · have hnone : find? name entries = none := by simpa using h
    have hnow : (find? name (place name value entries)).isSome := by
      rw [find?_place_self value hnone]; rfl
    simp [insert, hnone, hnow, replace_place]

def Ordered (entries : List (String × α)) : Prop :=
  entries.Pairwise fun before after => before.1 < after.1

theorem mem_replace {name : String} {value : α} {entries : List (String × α)}
    {entry : String × α} (h : entry ∈ replace name value entries) :
    ∃ held ∈ entries, held.1 = entry.1 := by
  induction entries with
  | nil => simp [replace] at h
  | cons first rest ih =>
    obtain ⟨key, old⟩ := first
    by_cases hk : key = name
    · simp only [replace, hk, ↓reduceIte, List.mem_cons] at h
      rcases h with rfl | hmem
      · exact ⟨(key, old), by simp, hk⟩
      · exact ⟨entry, by simp [hmem], rfl⟩
    · simp only [replace, hk, ↓reduceIte, List.mem_cons] at h
      rcases h with rfl | hmem
      · exact ⟨(key, old), by simp, rfl⟩
      · obtain ⟨held, hheld, heq⟩ := ih hmem
        exact ⟨held, by simp [hheld], heq⟩

theorem mem_place {name : String} {value : α} {entries : List (String × α)}
    {entry : String × α} (h : entry ∈ place name value entries) :
    entry = (name, value) ∨ entry ∈ entries := by
  induction entries with
  | nil => simpa [place] using h
  | cons first rest ih =>
    obtain ⟨key, old⟩ := first
    simp only [place] at h
    split at h
    · simpa using h
    · simp only [List.mem_cons] at h ⊢
      rcases h with rfl | hmem
      · exact .inr (.inl rfl)
      · rcases ih hmem with heq | hrest
        · exact .inl heq
        · exact .inr (.inr hrest)

theorem Ordered.replace {entries : List (String × α)} (h : Ordered entries) (name : String)
    (value : α) : Ordered (Entries.replace name value entries) := by
  induction entries with
  | nil => exact List.Pairwise.nil
  | cons entry rest ih =>
    obtain ⟨key, old⟩ := entry
    have hparts := List.pairwise_cons.1 h
    by_cases hk : key = name
    · simp only [Entries.replace, hk, ↓reduceIte]
      exact List.pairwise_cons.2 ⟨fun other hmem => hk ▸ hparts.1 other hmem, hparts.2⟩
    · simp only [Entries.replace, hk, ↓reduceIte]
      refine List.pairwise_cons.2 ⟨fun other hmem => ?_, ih hparts.2⟩
      obtain ⟨held, hheld, heq⟩ := mem_replace hmem
      exact heq ▸ hparts.1 held hheld

theorem Ordered.place {entries : List (String × α)} (h : Ordered entries) {name : String}
    (value : α) (hnew : find? name entries = none) : Ordered (Entries.place name value entries) := by
  induction entries with
  | nil => simp [Entries.place, Ordered]
  | cons entry rest ih =>
    obtain ⟨key, old⟩ := entry
    have hparts := List.pairwise_cons.1 h
    have hne : key ≠ name := fun e => by simp [find?, e] at hnew
    simp only [find?, hne, ↓reduceIte] at hnew
    simp only [Entries.place]
    split
    · rename_i hlt
      refine List.pairwise_cons.2 ⟨fun other hmem => ?_, h⟩
      rcases List.mem_cons.1 hmem with rfl | hrest
      · exact hlt
      · exact String.lt_trans hlt (hparts.1 other hrest)
    · rename_i hge
      refine List.pairwise_cons.2 ⟨fun other hmem => ?_, ih hparts.2 hnew⟩
      rcases mem_place hmem with rfl | hrest
      · refine Decidable.byContradiction fun hnot => hne ?_
        exact String.le_antisymm (String.not_lt.1 hge) (String.not_lt.1 hnot)
      · exact hparts.1 other hrest

theorem Ordered.insert {entries : List (String × α)} (h : Ordered entries) (name : String)
    (value : α) : Ordered (Entries.insert name value entries) := by
  unfold Entries.insert
  split
  · exact h.replace name value
  · exact h.place value (Option.not_isSome_iff_eq_none.1 ‹_›)

end Entries

structure NameMap (α : Type u) where
  entries : List (String × α)
  ordered : Entries.Ordered entries

namespace NameMap

variable {α : Type u}

instance [DecidableEq α] : DecidableEq (NameMap α) := fun a b =>
  decidable_of_iff (a.entries = b.entries) (by cases a; cases b; simp)

def empty : NameMap α := ⟨[], List.Pairwise.nil⟩

instance : Inhabited (NameMap α) := ⟨empty⟩

def find? (map : NameMap α) (name : String) : Option α := Entries.find? name map.entries

def insert (map : NameMap α) (name : String) (value : α) : NameMap α :=
  ⟨Entries.insert name value map.entries, map.ordered.insert name value⟩

def names (map : NameMap α) : List String := map.entries.map (·.1)

/-- A later entry of a name replaces an earlier one. -/
def ofEntries (entries : List (String × α)) : NameMap α :=
  entries.foldl (fun map entry => map.insert entry.1 entry.2) empty

theorem find?_empty (name : String) : (empty : NameMap α).find? name = none := rfl

theorem find?_insert_self (map : NameMap α) (name : String) (value : α) :
    (map.insert name value).find? name = some value :=
  Entries.find?_insert_self name value map.entries

theorem find?_insert_of_ne (map : NameMap α) {name other : String} (value : α)
    (h : other ≠ name) : (map.insert name value).find? other = map.find? other :=
  Entries.find?_insert_of_ne value map.entries h

theorem names_ordered (map : NameMap α) : map.names.Pairwise (· < ·) := by
  simpa [names, List.pairwise_map, Entries.Ordered] using map.ordered

end NameMap

abbrev StringMap := NameMap String

def sortedNames (names : List String) : List String :=
  (NameMap.ofEntries (names.map fun name => (name, ()))).names

theorem sortedNames_ordered (names : List String) : (sortedNames names).Pairwise (· < ·) :=
  NameMap.names_ordered _

end EtcdFleet
