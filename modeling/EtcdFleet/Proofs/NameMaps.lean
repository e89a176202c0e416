import Mathlib.Data.List.Nodup
import EtcdFleet.NameMap

set_option autoImplicit false

/-!
# What a map by name is made of

The names of a map are those under which something is found, and a map is what is found in it: in their order
the entries leave no room for a second map with the same values.
-/

namespace EtcdFleet

/-! ## Names in their order -/

theorem nodup_of_increasing {names : List String} (h : names.Pairwise (· < ·)) : names.Nodup := by
  refine h.imp ?_
  rintro first second hlt rfl
  exact String.lt_irrefl _ hlt

theorem names_eq_of_mem {names others : List String} (h : names.Pairwise (· < ·))
    (hothers : others.Pairwise (· < ·)) (hmem : ∀ name, name ∈ names ↔ name ∈ others) :
    names = others := by
  have hperm : names.Perm others :=
    (List.perm_ext_iff_of_nodup (nodup_of_increasing h) (nodup_of_increasing hothers)).2 hmem
  exact hperm.eq_of_pairwise (fun _ _ _ _ hab hba => absurd hba (String.lt_asymm hab)) h hothers

universe u

namespace Entries

variable {α : Type u} {name : String} {value : α} {entries others : List (String × α)}

theorem find?_eq_none_iff : find? name entries = none ↔ name ∉ entries.map (·.1) := by
  induction entries with
  | nil => simp [find?]
  | cons entry rest ih =>
    obtain ⟨key, held⟩ := entry
    by_cases hkey : key = name
    · simp [find?, hkey]
    · simp [find?, hkey, Ne.symm hkey, ih]

theorem find?_append (name : String) (entries others : List (String × α)) :
    find? name (entries ++ others) = (find? name entries).or (find? name others) := by
  induction entries with
  | nil => rfl
  | cons entry rest ih =>
    obtain ⟨key, held⟩ := entry
    by_cases hkey : key = name
    · simp [find?, hkey]
    · simp [find?, hkey, ih]

theorem mem_of_find? (h : find? name entries = some value) : (name, value) ∈ entries := by
  induction entries with
  | nil => cases h
  | cons entry rest ih =>
    obtain ⟨key, held⟩ := entry
    by_cases hkey : key = name
    · rw [find?, if_pos hkey] at h
      rw [hkey, Option.some.inj h]
      exact List.mem_cons_self
    · rw [find?, if_neg hkey] at h
      exact List.mem_cons_of_mem _ (ih h)

theorem find?_of_mem (hnodup : (entries.map (·.1)).Nodup) (h : (name, value) ∈ entries) :
    find? name entries = some value := by
  induction entries with
  | nil => cases h
  | cons entry rest ih =>
    obtain ⟨key, held⟩ := entry
    obtain ⟨hnew, hrest⟩ := List.nodup_cons.1 hnodup
    rcases List.mem_cons.1 h with heq | hmem
    · obtain ⟨rfl, rfl⟩ := Prod.mk.inj heq
      rw [find?, if_pos rfl]
    · have hkey : key ≠ name := by
        rintro rfl
        exact hnew (List.mem_map.2 ⟨_, hmem, rfl⟩)
      rw [find?, if_neg hkey, ih hrest hmem]

theorem Ordered.nodup (h : Ordered entries) : (entries.map (·.1)).Nodup :=
  nodup_of_increasing (List.pairwise_map.2 h)

theorem find?_reverse (hnodup : (entries.map (·.1)).Nodup) (name : String) :
    find? name entries.reverse = find? name entries := by
  have hreverse : (entries.reverse.map (·.1)).Nodup := by
    rw [List.map_reverse]
    exact List.nodup_reverse.2 hnodup
  cases hfound : find? name entries with
  | some value => exact find?_of_mem hreverse (List.mem_reverse.2 (mem_of_find? hfound))
  | none =>
    rw [find?_eq_none_iff, List.map_reverse, List.mem_reverse]
    exact find?_eq_none_iff.1 hfound

theorem find?_filter (keep : String → Bool) (name : String) (entries : List (String × α)) :
    find? name (entries.filter fun entry => keep entry.1) =
      if keep name then find? name entries else none := by
  induction entries with
  | nil => simp [find?]
  | cons entry rest ih =>
    obtain ⟨key, held⟩ := entry
    by_cases hkey : key = name
    · subst hkey
      cases hkeep : keep key <;> simp [find?, hkeep, ih]
    · cases hkeep : keep key <;> simp [find?, hkeep, hkey, ih]

theorem filter_eq_of_find? (hnodup : (entries.map (·.1)).Nodup) (h : find? name entries = some value) :
    (entries.filter fun entry => entry.1 == name) = [(name, value)] := by
  induction entries with
  | nil => cases h
  | cons entry rest ih =>
    obtain ⟨key, held⟩ := entry
    obtain ⟨hnew, hrest⟩ := List.nodup_cons.1 hnodup
    by_cases hkey : key = name
    · subst hkey
      rw [find?, if_pos rfl] at h
      obtain rfl := Option.some.inj h
      rw [List.filter_cons_of_pos (by simp), List.filter_eq_nil_iff.2]
      intro other hother heq
      exact hnew (List.mem_map.2 ⟨other, hother, by simpa using heq⟩)
    · rw [find?, if_neg hkey] at h
      rw [List.filter_cons_of_neg (by simpa using hkey), ih hrest h]

theorem Ordered.eq_of_find? (h : Ordered entries) (hothers : Ordered others)
    (hfind : ∀ name, find? name entries = find? name others) : entries = others := by
  have hmem : ∀ entry, entry ∈ entries ↔ entry ∈ others := by
    rintro ⟨name, value⟩
    constructor
    · intro hentry
      exact mem_of_find? ((hfind name).symm.trans (find?_of_mem h.nodup hentry))
    · intro hentry
      exact mem_of_find? ((hfind name).trans (find?_of_mem hothers.nodup hentry))
  have hperm : entries.Perm others :=
    (List.perm_ext_iff_of_nodup (h.nodup.of_map _) (hothers.nodup.of_map _)).2 hmem
  exact hperm.eq_of_pairwise (fun _ _ _ _ hab hba => absurd hba (String.lt_asymm hab)) h hothers

end Entries

namespace NameMap

variable {α : Type u} {name : String} {map other : NameMap α}

theorem insert_insert_self (map : NameMap α) (name : String) (value later : α) :
    (map.insert name value).insert name later = map.insert name later := by
  rw [NameMap.insert, NameMap.mk.injEq]
  exact Entries.insert_insert_self name value later map.entries

theorem find?_eq_none_iff : map.find? name = none ↔ name ∉ map.names := Entries.find?_eq_none_iff

theorem mem_names_iff : name ∈ map.names ↔ map.find? name ≠ none := by
  rw [Ne, find?_eq_none_iff, not_not]

theorem find?_insert (map : NameMap α) (name other : String) (value : α) :
    (map.insert name value).find? other = if name = other then some value else map.find? other := by
  split
  · subst_vars
    exact map.find?_insert_self _ value
  · exact map.find?_insert_of_ne value (Ne.symm ‹_›)

/-- Of the entries of one name the last counts. -/
theorem find?_ofEntries (entries : List (String × α)) (name : String) :
    (ofEntries entries).find? name = Entries.find? name entries.reverse := by
  have hfold : ∀ map : NameMap α,
      (entries.foldl (fun map entry => map.insert entry.1 entry.2) map).find? name =
        (Entries.find? name entries.reverse).or (map.find? name) := by
    induction entries with
    | nil => exact fun map => rfl
    | cons entry rest ih =>
      intro map
      obtain ⟨key, held⟩ := entry
      rw [List.foldl_cons, ih, find?_insert, List.reverse_cons, Entries.find?_append, Option.or_assoc]
      by_cases hkey : key = name
      · simp [Entries.find?, hkey]
      · simp [Entries.find?, hkey]
  rw [ofEntries, hfold, find?_empty, Option.or_none]

theorem find?_ofEntries_of_nodup {entries : List (String × α)} (h : (entries.map (·.1)).Nodup)
    (name : String) : (ofEntries entries).find? name = Entries.find? name entries := by
  rw [find?_ofEntries, Entries.find?_reverse h]

theorem ext_find? (h : ∀ name, map.find? name = other.find? name) : map = other := by
  have hentries := map.ordered.eq_of_find? other.ordered h
  cases map
  cases other
  rw [NameMap.mk.injEq]
  exact hentries

theorem ofEntries_entries (map : NameMap α) : ofEntries map.entries = map :=
  ext_find? (find?_ofEntries_of_nodup map.ordered.nodup)

end NameMap

theorem mem_sortedNames_iff {name : String} {names : List String} :
    name ∈ sortedNames names ↔ name ∈ names := by
  rw [sortedNames, NameMap.mem_names_iff, NameMap.find?_ofEntries, Ne, Entries.find?_eq_none_iff,
    not_not]
  simp

end EtcdFleet
