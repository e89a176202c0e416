import EtcdFleet.Proofs.DocumentPaths
import EtcdFleet.Resource.Call

set_option autoImplicit false

/-!
# What a write does to the document store

Each operation of the store is described once by when it succeeds and by what it then leaves behind; no
later proof opens one of them. Every stored document carries the name under which it is stored, so what
was fetched under a name is put back under it. A version is written as the plain numeral of a number and
read back as that number as long as it fits 64 bits.
-/

namespace EtcdFleet

namespace Text

theorem unsigned?_toDigits (n : Nat) : unsigned? (Nat.toDigits 10 n) = some n := by
  cases hd : Nat.toDigits 10 n with
  | nil => exact absurd hd Nat.toDigits_ne_nil
  | cons c cs =>
    have hdigit : c.isDigit = true :=
      Nat.isDigit_of_mem_toDigits (by decide) (by decide) (hd ▸ List.mem_cons_self)
    have hplus : c ≠ '+' := by
      rintro rfl
      exact absurd hdigit (by decide)
    have hread : unsigned? (c :: cs) = digits? (c :: cs) := by
      unfold unsigned?
      split
      · rename_i heq
        exact absurd (List.cons.inj heq).1 hplus
      · rfl
    rw [hread, ← hd, digits?_toDigits]

theorem lt_of_unsignedBelow? {bound n : Nat} {cs : List Char}
    (h : unsignedBelow? bound cs = some n) : n < bound := by
  have hfilter := (Option.filter_eq_some_iff.1 h).2
  simpa using hfilter

theorem unsignedBelow?_decimal {bound n : Nat} (h : n < bound) :
    unsignedBelow? bound (decimal n).toList = some n := by
  rw [unsignedBelow?, decimal_toList, unsigned?_toDigits]
  simp [Option.filter, h]

end Text

namespace Document

/-! ## Names and versions of documents -/

def namePath : Path := ["metadata", "name"]

theorem namePath_apart_versionPath : Path.Apart namePath versionPath := by decide

theorem exists_lookup?_beside {doc : Document} (path : Path) {name : String}
    {found : Option Document} (h : doc.lookup? (path ++ [name]) = .ok found) (other : String) :
    ∃ beside, doc.lookup? (path ++ [other]) = .ok beside := by
  induction path generalizing doc found with
  | nil =>
    cases hm : doc.members? with
    | none => simp [lookup?, hm] at h
    | some members =>
      rw [List.nil_append, lookup?_of_members? hm, lookup?_name]
      exact ⟨_, rfl⟩
  | cons first rest ih =>
    cases hm : doc.members? with
    | none => simp [lookup?, hm] at h
    | some members =>
      rw [List.cons_append, lookup?_of_members? hm, lookup?_childOr _ _ (by simp),
        mapError_eq_ok_iff] at h
      obtain ⟨beside, hb⟩ := ih h
      rw [List.cons_append, lookup?_of_members? hm, lookup?_childOr _ _ (by simp), hb]
      exact ⟨beside, rfl⟩

theorem resourceName_eq_ok_iff {doc : Document} {name : String} :
    doc.resourceName = .ok name ↔ doc.getText? namePath = .ok (some name) ∧ name ≠ "" := by
  rw [resourceName, namePath]
  cases doc.getText? ["metadata", "name"] with
  | error failure => simp [error_bind]
  | ok text =>
    rw [ok_bind]
    cases text with
    | none => simp [throw, throwThe, MonadExceptOf.throw]
    | some found =>
      by_cases hf : found = ""
      · subst hf
        constructor
        · intro h; cases h
        · rintro ⟨h, hne⟩; exact absurd (Option.some.inj (Except.ok.inj h)).symm hne
      · have hempty : found.isEmpty = false := by simpa using hf
        simp only [hempty, Bool.false_eq_true, ↓reduceIte]
        constructor
        · intro h; cases h; exact ⟨rfl, hf⟩
        · rintro ⟨h, _⟩; cases h; rfl

theorem resourceName_congr {doc other : Document} (h : doc.get? namePath = other.get? namePath) :
    doc.resourceName = other.resourceName := by
  have ht : doc.getText? namePath = other.getText? namePath := getAs?_congr h _ _
  simp only [resourceName, namePath] at ht ⊢
  rw [ht]

theorem storedVersion_of_decimal {doc : Document} {version : Nat}
    (h : doc.getText? versionPath = .ok (some (Text.decimal version)))
    (hfits : version < UInt64.size) : doc.storedVersion = .ok version := by
  rw [storedVersion, h, ok_bind, Option.bind_some, Text.unsignedBelow?_decimal hfits]
  rfl

theorem storedVersion_of_none {doc : Document} (h : doc.getText? versionPath = .ok none) :
    doc.storedVersion = .ok 0 := by
  rw [storedVersion, h]
  rfl

/-- Nothing stands between a name and the version beside it. -/
theorem exists_get?_version {doc : Document} {name : String} (h : doc.resourceName = .ok name) :
    ∃ found, doc.get? versionPath = .ok found := by
  obtain ⟨_, hf⟩ := get?_of_getAs? (resourceName_eq_ok_iff.1 h).1
  obtain ⟨beside, hb⟩ :=
    exists_lookup?_beside ["metadata"] (get?_eq_ok_iff.1 hf) "resourceVersion"
  exact ⟨beside, get?_eq_ok_iff.2 hb⟩

theorem exists_withVersion {doc : Document} {name : String} (h : doc.resourceName = .ok name)
    (version : Nat) : ∃ written, doc.withVersion version = .ok written := by
  obtain ⟨found, hfound⟩ := exists_get?_version h
  exact exists_put_of_get? hfound _

theorem get?_version_withVersion {doc written : Document} {version : Nat}
    (h : doc.withVersion version = .ok written) :
    written.get? versionPath = .ok (some (.text (Text.decimal version))) :=
  get?_put_self (by decide) rfl h

theorem getText?_withVersion {doc written : Document} {version : Nat}
    (h : doc.withVersion version = .ok written) :
    written.getText? versionPath = .ok (some (Text.decimal version)) :=
  getText?_of_get? (get?_version_withVersion h)

theorem get?_withVersion_of_apart {doc written : Document} {version : Nat} {path : Path}
    (hapart : Path.Apart versionPath path) (h : doc.withVersion version = .ok written) :
    written.get? path = doc.get? path :=
  get?_put_of_apart hapart h

theorem resourceName_withVersion {doc written : Document} {version : Nat}
    (h : doc.withVersion version = .ok written) : written.resourceName = doc.resourceName :=
  resourceName_congr (get?_withVersion_of_apart namePath_apart_versionPath.symm h)

theorem withVersion_withVersion {doc written : Document} {version : Nat}
    (h : doc.withVersion version = .ok written) (later : Nat) :
    written.withVersion later = doc.withVersion later :=
  put_put_self h _

end Document

namespace Store

/-! ## When an operation succeeds, and what it leaves -/

variable {store after : Store} {kind : ResourceKind} {«namespace» : String}
  {doc written : Document}

theorem get_eq_ok_iff {key : ResourceKey} :
    store.get key = .ok doc ↔ store.find? key = some doc := by
  rw [get]
  cases store.find? key <;> simp

theorem get_put_self (store : Store) (key : ResourceKey) (doc : Document) :
    (store.put key doc).get key = .ok doc :=
  get_eq_ok_iff.2 (store.find?_put_self key doc)

theorem get_eq_error_iff {key : ResourceKey} {failure : ProviderError} :
    store.get key = .error failure ↔ store.find? key = none ∧ failure = missing key := by
  rw [get]
  cases store.find? key <;> simp [eq_comm]

theorem insert_eq_ok_iff :
    store.insert kind «namespace» doc = .ok after ↔
      ∃ name, doc.resourceName = .ok name ∧ after = store.put ⟨kind, «namespace», name⟩ doc := by
  rw [insert, bind_eq_ok_iff]
  simp [pure, Except.pure, eq_comm]

theorem create_eq_ok_iff :
    store.create kind «namespace» doc = .ok (written, after) ↔
      ∃ name, doc.resourceName = .ok name ∧ store.find? ⟨kind, «namespace», name⟩ = none ∧
        doc.withVersion 1 = .ok written ∧
        after = store.put ⟨kind, «namespace», name⟩ written := by
  rw [create, bind_eq_ok_iff]
  refine exists_congr fun name => and_congr_right fun _ => ?_
  cases hf : store.find? ⟨kind, «namespace», name⟩ with
  | some held => simp [hf, throw, throwThe, MonadExceptOf.throw, error_bind]
  | none =>
    simp only [hf, Option.isSome_none, Bool.false_eq_true, ↓reduceIte, bind_eq_ok_iff]
    simp only [pure, Except.pure, Except.ok.injEq, Prod.mk.injEq, true_and]
    grind

theorem create_of_taken {name : String} {held : Document} (hname : doc.resourceName = .ok name)
    (hheld : store.find? ⟨kind, «namespace», name⟩ = some held) :
    store.create kind «namespace» doc = .error (.alreadyExists kind.kind name «namespace») := by
  rw [create, hname, ok_bind]
  simp only [hheld, Option.isSome_some, ↓reduceIte]
  rfl

theorem update_of_current {name : String} {existing : Document} {current : Nat}
    (hname : doc.resourceName = .ok name)
    (hexisting : store.find? ⟨kind, «namespace», name⟩ = some existing)
    (hcurrent : existing.storedVersion = .ok current)
    (hrequested : doc.getText? Document.versionPath = .ok none ∨
      doc.getText? Document.versionPath = .ok (some (Text.decimal current)))
    (hwritten : doc.withVersion (current + 1) = .ok written) :
    store.update kind «namespace» doc =
      .ok (written, store.put ⟨kind, «namespace», name⟩ written) := by
  rw [update, hname, ok_bind]
  dsimp only
  rw [get_eq_ok_iff.2 hexisting, ok_bind, hcurrent, ok_bind]
  rcases hrequested with h | h
  · rw [h, ok_bind, hwritten]; rfl
  · rw [h, ok_bind, hwritten]
    simp only [ne_eq, not_true_eq_false, ↓reduceIte]
    rfl

theorem update_of_stale {name requested : String} {existing : Document} {current : Nat}
    (hname : doc.resourceName = .ok name)
    (hexisting : store.find? ⟨kind, «namespace», name⟩ = some existing)
    (hcurrent : existing.storedVersion = .ok current)
    (hrequested : doc.getText? Document.versionPath = .ok (some requested))
    (hstale : requested ≠ Text.decimal current) :
    store.update kind «namespace» doc =
      .error (staleWrite ⟨kind, «namespace», name⟩ requested current) := by
  rw [update, hname, ok_bind]
  dsimp only
  rw [get_eq_ok_iff.2 hexisting, ok_bind, hcurrent, ok_bind, hrequested, ok_bind]
  simp only [ne_eq, hstale, not_false_eq_true, ↓reduceIte]
  rfl

theorem update_of_unversioned {name : String} {existing : Document} {failure : ProviderError}
    (hname : doc.resourceName = .ok name)
    (hexisting : store.find? ⟨kind, «namespace», name⟩ = some existing)
    (hstored : existing.storedVersion = .error failure) :
    store.update kind «namespace» doc = .error failure := by
  rw [update, hname, ok_bind]
  dsimp only
  rw [get_eq_ok_iff.2 hexisting, ok_bind, hstored, error_bind]

/-- An update succeeds when it names no version or the current one. -/
theorem update_eq_ok_iff :
    store.update kind «namespace» doc = .ok (written, after) ↔
      ∃ name existing current, doc.resourceName = .ok name ∧
        store.find? ⟨kind, «namespace», name⟩ = some existing ∧
        existing.storedVersion = .ok current ∧
        (doc.getText? Document.versionPath = .ok none ∨
          doc.getText? Document.versionPath = .ok (some (Text.decimal current))) ∧
        doc.withVersion (current + 1) = .ok written ∧
        after = store.put ⟨kind, «namespace», name⟩ written := by
  constructor
  · intro h
    obtain ⟨name, hname, h'⟩ := bind_eq_ok_iff.1 h
    obtain ⟨existing, hget, h'⟩ := bind_eq_ok_iff.1 h'
    obtain ⟨current, hcurrent, h'⟩ := bind_eq_ok_iff.1 h'
    obtain ⟨requested?, hrequested, h'⟩ := bind_eq_ok_iff.1 h'
    obtain ⟨stored, hstored⟩ := Document.exists_withVersion hname (current + 1)
    have hexisting := get_eq_ok_iff.1 hget
    have hallowed : requested? = none ∨ requested? = some (Text.decimal current) := by
      cases requested? with
      | none => exact .inl rfl
      | some requested =>
        refine .inr (congrArg some (Decidable.byContradiction fun hstale => ?_))
        rw [update_of_stale hname hexisting hcurrent hrequested hstale] at h
        cases h
    have hread : doc.getText? Document.versionPath = .ok none ∨
        doc.getText? Document.versionPath = .ok (some (Text.decimal current)) := by
      rcases hallowed with rfl | rfl
      · exact .inl hrequested
      · exact .inr hrequested
    rw [update_of_current hname hexisting hcurrent hread hstored] at h
    cases h
    exact ⟨name, existing, current, hname, hexisting, hcurrent, hread, hstored, rfl⟩
  · rintro ⟨name, existing, current, hname, hexisting, hcurrent, hread, hwritten, rfl⟩
    exact update_of_current hname hexisting hcurrent hread hwritten

/-! ## Stores that come about by operations -/

theorem mem_keys_iff {key : ResourceKey} : key ∈ store.keys ↔ store.find? key ≠ none := by
  rw [keys, find?]
  induction store.entries with
  | nil => simp [lookup]
  | cons entry rest ih =>
    obtain ⟨first, held⟩ := entry
    by_cases hk : first = key
    · simp [lookup, hk]
    · simp [lookup, hk, Ne.symm hk, ih]

theorem write_of_lookup_none {key : ResourceKey} {entries : List (ResourceKey × Document)}
    (h : lookup key entries = none) (doc : Document) :
    write key doc entries = entries ++ [(key, doc)] := by
  induction entries with
  | nil => rfl
  | cons entry rest ih =>
    obtain ⟨first, held⟩ := entry
    by_cases hk : first = key
    · simp [lookup, hk] at h
    · simp only [lookup, hk, ↓reduceIte] at h
      simp [write, hk, ih h]

theorem entries_put_of_absent {key : ResourceKey} (h : store.find? key = none) (doc : Document) :
    (store.put key doc).entries = store.entries ++ [(key, doc)] :=
  write_of_lookup_none h doc

theorem find?_put (store : Store) (key other : ResourceKey) (doc : Document) :
    (store.put key doc).find? other = if other = key then some doc else store.find? other := by
  split
  · subst_vars; exact find?_put_self store _ doc
  · exact find?_put_of_ne store doc ‹_›

/-- Every document carries the name that it is stored under. -/
def WellNamed (store : Store) : Prop :=
  ∀ key doc, store.find? key = some doc → doc.resourceName = .ok key.name

theorem wellNamed_empty : WellNamed empty := by
  intro key doc h
  cases h

theorem WellNamed.put (h : WellNamed store) {key : ResourceKey}
    (hname : doc.resourceName = .ok key.name) : WellNamed (store.put key doc) := by
  intro other held hheld
  rw [find?_put] at hheld
  split at hheld
  · subst_vars; cases hheld; exact hname
  · exact h other held hheld

inductive Reachable : Store → Prop
  | empty : Reachable .empty
  | insert {store after : Store} {kind : ResourceKind} {«namespace» : String} {doc : Document} :
      Reachable store → store.insert kind «namespace» doc = .ok after → Reachable after
  | create {store after : Store} {kind : ResourceKind} {«namespace» : String}
      {doc written : Document} :
      Reachable store → store.create kind «namespace» doc = .ok (written, after) → Reachable after
  | update {store after : Store} {kind : ResourceKind} {«namespace» : String}
      {doc written : Document} :
      Reachable store → store.update kind «namespace» doc = .ok (written, after) → Reachable after

theorem Reachable.wellNamed (h : Reachable store) : WellNamed store := by
  induction h with
  | empty => exact wellNamed_empty
  | insert _ hw ih =>
    obtain ⟨name, hname, rfl⟩ := insert_eq_ok_iff.1 hw
    exact ih.put hname
  | create _ hw ih =>
    obtain ⟨name, hname, _, hwritten, rfl⟩ := create_eq_ok_iff.1 hw
    exact ih.put ((Document.resourceName_withVersion hwritten).trans hname)
  | update _ hw ih =>
    obtain ⟨name, _, _, hname, _, _, _, hwritten, rfl⟩ := update_eq_ok_iff.1 hw
    exact ih.put ((Document.resourceName_withVersion hwritten).trans hname)

end Store
end EtcdFleet
