import EtcdFleet.Document.Path

set_option autoImplicit false

/-!
# Reading back what was written in a document

A written value is read at its own path and nowhere beside it: a path that neither leads to the written
place nor through it reads the same value, or is blocked by the same one, before and after. Writing is
blocked exactly where reading is. Two writes at such paths may be made in either order, and of two writes
at one path the later one stands alone.
-/

namespace EtcdFleet

/-! ## Checked steps -/

theorem ok_bind {ε α β : Type} (value : α) (next : α → Except ε β) :
    (Except.ok value >>= next) = next value := rfl

theorem error_bind {ε α β : Type} (failure : ε) (next : α → Except ε β) :
    (Except.error failure >>= next) = .error failure := rfl

theorem bind_eq_ok_iff {ε α β : Type} {first : Except ε α} {next : α → Except ε β} {result : β} :
    (first >>= next) = .ok result ↔ ∃ value, first = .ok value ∧ next value = .ok result := by
  cases first with
  | error failure => simp [error_bind]
  | ok value => simp [ok_bind]

theorem mapError_ok {ε η α : Type} (wrap : ε → η) (value : α) :
    (Except.ok value).mapError wrap = .ok value := rfl

theorem mapError_error {ε η α : Type} (wrap : ε → η) (failure : ε) :
    (Except.error failure : Except ε α).mapError wrap = .error (wrap failure) := rfl

theorem mapError_eq_ok_iff {ε η α : Type} {wrap : ε → η} {result : Except ε α} {value : α} :
    result.mapError wrap = .ok value ↔ result = .ok value := by
  cases result <;> simp [mapError_ok, mapError_error]

/-! ## Entries in any order -/

namespace Entries

universe u
variable {α : Type u}

theorem replace_replace_comm {first second : String} (hne : first ≠ second) (a b : α)
    (entries : List (String × α)) :
    replace first a (replace second b entries) = replace second b (replace first a entries) := by
  induction entries with
  | nil => rfl
  | cons entry rest ih =>
    obtain ⟨key, old⟩ := entry
    by_cases h1 : key = first
    · subst h1; simp [replace, hne]
    · by_cases h2 : key = second
      · subst h2; simp [replace, h1]
      · simp [replace, h1, h2, ih]

theorem replace_place_comm {first second : String} (hne : first ≠ second) (a b : α)
    (entries : List (String × α)) :
    replace first a (place second b entries) = place second b (replace first a entries) := by
  induction entries with
  | nil => simp [place, replace, hne.symm]
  | cons entry rest ih =>
    obtain ⟨key, old⟩ := entry
    by_cases hk : key = first
    · subst hk
      by_cases hlt : second < key <;> simp [place, replace, hlt, hne.symm]
    · by_cases hlt : second < key <;> simp [place, replace, hlt, hk, hne.symm, ih]

theorem place_place_of_lt {first second : String} (hlt : first < second) (a b : α)
    (entries : List (String × α)) :
    place first a (place second b entries) = place second b (place first a entries) := by
  have hback : ¬ second < first := String.lt_asymm hlt
  induction entries with
  | nil => simp [place, hlt, hback]
  | cons entry rest ih =>
    obtain ⟨key, old⟩ := entry
    by_cases h2 : second < key
    · have h1 : first < key := String.lt_trans hlt h2
      simp [place, h1, h2, hlt, hback]
    · by_cases h1 : first < key
      · simp [place, h1, h2, hback]
      · simp [place, h1, h2, ih]

theorem place_place_comm {first second : String} (hne : first ≠ second) (a b : α)
    (entries : List (String × α)) :
    place first a (place second b entries) = place second b (place first a entries) := by
  by_cases hlt : first < second
  · exact place_place_of_lt hlt a b entries
  · have hgt : second < first := by
      refine Decidable.byContradiction fun hnot => hne ?_
      exact String.le_antisymm (String.not_lt.1 hnot) (String.not_lt.1 hlt)
    exact (place_place_of_lt hgt b a entries).symm

theorem insert_insert_comm {first second : String} (hne : first ≠ second) (a b : α)
    (entries : List (String × α)) :
    insert first a (insert second b entries) = insert second b (insert first a entries) := by
  have h1 : (find? first (insert second b entries)).isSome = (find? first entries).isSome := by
    rw [find?_insert_of_ne b entries hne]
  have h2 : (find? second (insert first a entries)).isSome = (find? second entries).isSome := by
    rw [find?_insert_of_ne a entries hne.symm]
  rw [insert, insert.eq_1 second b (insert first a entries), h1, h2]
  unfold insert
  split <;> split
  · exact replace_replace_comm hne a b entries
  · exact replace_place_comm hne a b entries
  · exact (replace_place_comm hne.symm b a entries).symm
  · exact place_place_comm hne a b entries

end Entries

/-! ## Paths -/

/-- Neither path leads to the place of the other or through it. -/
def Path.Apart (p q : Path) : Prop := ¬ p <+: q ∧ ¬ q <+: p

instance (p q : Path) : Decidable (Path.Apart p q) :=
  inferInstanceAs (Decidable (¬ p <+: q ∧ ¬ q <+: p))

theorem Path.Apart.symm {p q : Path} (h : Path.Apart p q) : Path.Apart q p := ⟨h.2, h.1⟩

theorem Path.Apart.left_ne_nil {p q : Path} (h : Path.Apart p q) : p ≠ [] := by
  rintro rfl
  exact h.1 List.nil_prefix

theorem Path.apart_cons {name other : String} {p q : Path} :
    Path.Apart (name :: p) (other :: q) ↔ (name = other → Path.Apart p q) := by
  by_cases hn : name = other
  · subst hn; simp [Path.Apart, List.cons_prefix_cons]
  · simp [Path.Apart, List.cons_prefix_cons, hn, Ne.symm hn]

namespace Document

/-! ## Where reading and writing are blocked -/

theorem lookup?_of_members? {doc : Document} {members : List (String × Document)}
    (h : doc.members? = some members) (name : String) (rest : Path) :
    doc.lookup? (name :: rest) = (Document.object members).lookup? (name :: rest) := by
  rw [lookup?, lookup?, h]
  rfl

theorem lookup?_of_empty (doc : Document) (h : doc.members? = some []) {path : Path}
    (hne : path ≠ []) : doc.lookup? path = .ok none := by
  cases path with
  | nil => exact absurd rfl hne
  | cons name rest => simp [lookup?, h, Entries.find?]

theorem eq_null_of_isNull {doc : Document} (h : doc.isNull = true) : doc = .null := by
  cases doc with
  | null => rfl
  | _ => cases h

theorem lookup?_of_find? {members : List (String × Document)} {name : String} {child : Document}
    (h : Entries.find? name members = some child) (hn : child.isNull = false) (rest : Path) :
    (Document.object members).lookup? (name :: rest) =
      (child.lookup? rest).mapError (name :: ·) := by
  simp only [lookup?, members?, h]
  cases child with
  | null => cases hn
  | _ => rfl

theorem lookup?_of_find?_null {members : List (String × Document)} {name : String} (rest : Path)
    (h : (Entries.find? name members).getD .null = .null) :
    (Document.object members).lookup? (name :: rest) = .ok none := by
  simp only [lookup?, members?]
  cases hf : Entries.find? name members with
  | none => rfl
  | some child =>
    rw [hf] at h
    cases h
    rfl

theorem lookup?_name (members : List (String × Document)) (name : String) :
    (Document.object members).lookup? [name] =
      .ok ((Entries.find? name members).filter (!·.isNull)) := by
  cases hf : Entries.find? name members with
  | none => rw [lookup?_of_find?_null [] (by rw [hf]; rfl)]; rfl
  | some child =>
    cases hn : child.isNull with
    | false => rw [lookup?_of_find? hf hn]; simp [lookup?, mapError_ok, Option.filter, hn]
    | true =>
      obtain rfl := eq_null_of_isNull hn
      rw [lookup?_of_find?_null [] (by rw [hf]; rfl)]
      rfl

/-- The value that a path goes on from, where an absent one counts as an empty object. -/
def childOr (members : List (String × Document)) (name : String) : Document :=
  (Entries.find? name members).getD (.object [])

theorem childOr_insert_self (name : String) (child : Document)
    (members : List (String × Document)) :
    childOr (Entries.insert name child members) name = child := by
  rw [childOr, Entries.find?_insert_self]
  rfl

theorem childOr_insert_of_ne {name other : String} (child : Document)
    (members : List (String × Document)) (h : other ≠ name) :
    childOr (Entries.insert name child members) other = childOr members other := by
  rw [childOr, Entries.find?_insert_of_ne child members h]
  rfl

theorem lookup?_childOr (members : List (String × Document)) (name : String) {rest : Path}
    (hne : rest ≠ []) :
    (Document.object members).lookup? (name :: rest) =
      ((childOr members name).lookup? rest).mapError (name :: ·) := by
  cases hf : Entries.find? name members with
  | none =>
    rw [lookup?_of_find?_null rest (by rw [hf]; rfl), childOr, hf]
    simp [lookup?_of_empty (.object []) rfl hne, mapError_ok]
  | some child =>
    have hc : childOr members name = child := by rw [childOr, hf]; rfl
    rw [hc]
    cases hn : child.isNull with
    | false => exact lookup?_of_find? hf hn rest
    | true =>
      obtain rfl := eq_null_of_isNull hn
      rw [lookup?_of_find?_null rest (by rw [hf]; rfl)]
      simp [lookup?_of_empty .null rfl hne, mapError_ok]

theorem assign?_cons {doc : Document} {members : List (String × Document)}
    (h : doc.members? = some members) (name : String) (rest : Path) (value : Document) :
    doc.assign? (name :: rest) value =
      (((childOr members name).assign? rest value).map fun child =>
        .object (Entries.insert name child members)).mapError (name :: ·) := by
  rw [assign?, h]
  simp only [childOr]
  cases ((Entries.find? name members).getD (.object [])).assign? rest value <;> rfl

theorem assign?_cons_eq_ok_iff {doc value written : Document} {name : String} {rest : Path} :
    doc.assign? (name :: rest) value = .ok written ↔
      ∃ members child, doc.members? = some members ∧
        (childOr members name).assign? rest value = .ok child ∧
        written = .object (Entries.insert name child members) := by
  cases hm : doc.members? with
  | none => simp [assign?, hm]
  | some members =>
    rw [assign?_cons hm]
    cases hc : (childOr members name).assign? rest value with
    | error blocking => simp [Except.map, mapError_error, hc]
    | ok child => simp [Except.map, mapError_ok, hc, eq_comm]

/-- A write is blocked by the value that blocks a read, whatever is to be written. -/
theorem assign?_eq_error_iff {doc value : Document} {path blocking : Path} :
    doc.assign? path value = .error blocking ↔ doc.lookup? path = .error blocking := by
  induction path generalizing doc blocking with
  | nil => simp [assign?, lookup?]
  | cons name rest ih =>
    cases hm : doc.members? with
    | none => simp [assign?, lookup?, hm]
    | some members =>
      rw [assign?_cons hm, lookup?_of_members? hm]
      cases rest with
      | nil => simp [lookup?_name, assign?, Except.map, mapError_ok]
      | cons next rest =>
        rw [lookup?_childOr members name (by simp)]
        have h := fun blocking => @ih (childOr members name) blocking
        cases hw : (childOr members name).assign? (next :: rest) value with
        | error first => simp [Except.map, mapError_error, (h first).1 hw]
        | ok child =>
          cases hr : (childOr members name).lookup? (next :: rest) with
          | error first => simp [(h first).2 hr] at hw
          | ok found => simp [Except.map, mapError_ok]

theorem exists_assign?_of_lookup? {doc : Document} {path : Path} {found : Option Document}
    (h : doc.lookup? path = .ok found) (value : Document) :
    ∃ written, doc.assign? path value = .ok written := by
  cases hw : doc.assign? path value with
  | ok written => exact ⟨written, rfl⟩
  | error blocking => rw [assign?_eq_error_iff.1 hw] at h; cases h

/-! ## What a write changes -/

/-- A written null reads as nothing. -/
theorem lookup?_assign?_self {doc value written : Document} {path : Path} (hne : path ≠ [])
    (h : doc.assign? path value = .ok written) :
    written.lookup? path = .ok (if value.isNull then none else some value) := by
  induction path generalizing doc written with
  | nil => exact absurd rfl hne
  | cons name rest ih =>
    obtain ⟨members, child, _, hchild, rfl⟩ := assign?_cons_eq_ok_iff.1 h
    cases rest with
    | nil =>
      cases hchild
      rw [lookup?_name, Entries.find?_insert_self]
      cases hv : value.isNull <;> simp [Option.filter, hv]
    | cons next rest =>
      rw [lookup?_childOr _ name (by simp), childOr_insert_self, ih (by simp) hchild]
      rfl

theorem lookup?_assign?_of_apart {doc value written : Document} {p q : Path}
    (hapart : Path.Apart p q) (h : doc.assign? p value = .ok written) :
    written.lookup? q = doc.lookup? q := by
  induction p generalizing doc written q with
  | nil => exact absurd rfl hapart.left_ne_nil
  | cons name rest ih =>
    cases q with
    | nil => exact absurd rfl hapart.symm.left_ne_nil
    | cons other qs =>
      obtain ⟨members, child, hmembers, hchild, rfl⟩ := assign?_cons_eq_ok_iff.1 h
      rw [lookup?_of_members? hmembers]
      by_cases hn : name = other
      · subst hn
        have hrest : Path.Apart rest qs := Path.apart_cons.1 hapart rfl
        have hqs := hrest.symm.left_ne_nil
        rw [lookup?_childOr _ name hqs, lookup?_childOr _ name hqs, childOr_insert_self,
          ih hrest hchild]
      · simp only [lookup?, members?, Entries.find?_insert_of_ne child members (Ne.symm hn)]

/-! ## Two writes -/

theorem assign?_assign?_self {doc value written : Document} {path : Path}
    (h : doc.assign? path value = .ok written) (later : Document) :
    written.assign? path later = doc.assign? path later := by
  induction path generalizing doc written with
  | nil => rfl
  | cons name rest ih =>
    obtain ⟨members, child, hmembers, hchild, rfl⟩ := assign?_cons_eq_ok_iff.1 h
    have hwritten : (Document.object (Entries.insert name child members)).members? =
        some (Entries.insert name child members) := rfl
    rw [assign?_cons hmembers, assign?_cons hwritten, childOr_insert_self, ih hchild]
    simp only [Entries.insert_insert_self]

theorem assign?_comm_of_apart {doc value other first second : Document} {p q : Path}
    (hapart : Path.Apart p q) (hp : doc.assign? p value = .ok first)
    (hq : doc.assign? q other = .ok second) :
    ∃ both, first.assign? q other = .ok both ∧ second.assign? p value = .ok both := by
  induction p generalizing doc first second q with
  | nil => exact absurd rfl hapart.left_ne_nil
  | cons name ps ih =>
    cases q with
    | nil => exact absurd rfl hapart.symm.left_ne_nil
    | cons name' qs =>
      obtain ⟨members, child, hmembers, hchild, rfl⟩ := assign?_cons_eq_ok_iff.1 hp
      obtain ⟨members', child', hmembers', hchild', rfl⟩ := assign?_cons_eq_ok_iff.1 hq
      obtain rfl : members = members' := Option.some.inj (hmembers.symm.trans hmembers')
      simp only [assign?_cons_eq_ok_iff, members?, Option.some.injEq]
      by_cases hn : name = name'
      · subst hn
        obtain ⟨both, hboth, hboth'⟩ := ih (Path.apart_cons.1 hapart rfl) hchild hchild'
        refine ⟨.object (Entries.insert name both members), ⟨_, both, rfl, ?_, ?_⟩,
          ⟨_, both, rfl, ?_, ?_⟩⟩
        · rwa [childOr_insert_self]
        · rw [Entries.insert_insert_self]
        · rwa [childOr_insert_self]
        · rw [Entries.insert_insert_self]
      · refine ⟨.object (Entries.insert name' child' (Entries.insert name child members)),
          ⟨_, child', rfl, ?_, rfl⟩, ⟨_, child, rfl, ?_, ?_⟩⟩
        · rwa [childOr_insert_of_ne child members (Ne.symm hn)]
        · rwa [childOr_insert_of_ne child' members hn]
        · rw [Entries.insert_insert_comm hn]

/-! ## The same with failures that are reported -/

theorem put_eq_ok_iff {doc value written : Document} {path : Path} :
    doc.put path value = .ok written ↔ doc.assign? path value = .ok written :=
  mapError_eq_ok_iff

theorem get?_eq_ok_iff {doc : Document} {path : Path} {found : Option Document} :
    doc.get? path = .ok found ↔ doc.lookup? path = .ok found :=
  mapError_eq_ok_iff

theorem exists_put_of_get? {doc : Document} {path : Path} {found : Option Document}
    (h : doc.get? path = .ok found) (value : Document) :
    ∃ written, doc.put path value = .ok written := by
  obtain ⟨written, hw⟩ := exists_assign?_of_lookup? (get?_eq_ok_iff.1 h) value
  exact ⟨written, put_eq_ok_iff.2 hw⟩

theorem get?_put_self {doc value written : Document} {path : Path} (hne : path ≠ [])
    (hv : value.isNull = false) (h : doc.put path value = .ok written) :
    written.get? path = .ok (some value) := by
  rw [get?_eq_ok_iff, lookup?_assign?_self hne (put_eq_ok_iff.1 h), hv]
  rfl

theorem get?_put_of_apart {doc value written : Document} {p q : Path}
    (hapart : Path.Apart p q) (h : doc.put p value = .ok written) :
    written.get? q = doc.get? q := by
  rw [get?, get?, lookup?_assign?_of_apart hapart (put_eq_ok_iff.1 h)]

theorem put_put_self {doc value written : Document} {path : Path}
    (h : doc.put path value = .ok written) (later : Document) :
    written.put path later = doc.put path later := by
  rw [put, put, assign?_assign?_self (put_eq_ok_iff.1 h)]

theorem put_comm_of_apart {doc value other first second : Document} {p q : Path}
    (hapart : Path.Apart p q) (hp : doc.put p value = .ok first)
    (hq : doc.put q other = .ok second) :
    ∃ both, first.put q other = .ok both ∧ second.put p value = .ok both := by
  obtain ⟨both, h1, h2⟩ :=
    assign?_comm_of_apart hapart (put_eq_ok_iff.1 hp) (put_eq_ok_iff.1 hq)
  exact ⟨both, put_eq_ok_iff.2 h1, put_eq_ok_iff.2 h2⟩

variable {α : Type}

theorem getAs?_congr {doc other : Document} {path : Path} (h : doc.get? path = other.get? path)
    (view : Document → Option α) (expected : String) :
    getAs? view expected doc path = getAs? view expected other path := by
  simp only [getAs?, h]

theorem getAs?_of_view (view : Document → Option α) (expected : String) {doc found : Document}
    {path : Path} {seen : α} (h : doc.get? path = .ok (some found)) (hv : view found = some seen) :
    getAs? view expected doc path = .ok (some seen) := by
  rw [getAs?, h, ok_bind]
  simp only [hv]
  rfl

theorem getText?_of_get? {doc : Document} {path : Path} {text : String}
    (h : doc.get? path = .ok (some (.text text))) : doc.getText? path = .ok (some text) :=
  getAs?_of_view text? _ h rfl

theorem getAs?_eq_ok_iff {doc : Document} {path : Path} {view : Document → Option α}
    {expected : String} {result : Option α} :
    getAs? view expected doc path = .ok result ↔
      (doc.get? path = .ok none ∧ result = none) ∨
      ∃ found seen, doc.get? path = .ok (some found) ∧ view found = some seen ∧
        result = some seen := by
  rw [getAs?]
  cases hg : doc.get? path with
  | error failure => simp [error_bind]
  | ok found? =>
    cases found? with
    | none => simp [ok_bind, pure, Except.pure, eq_comm]
    | some found =>
      rw [ok_bind]
      cases hv : view found with
      | none => simp [hv, throw, throwThe, MonadExceptOf.throw]
      | some seen => simp [hv, pure, Except.pure, eq_comm]

theorem getText?_of_none {doc : Document} {path : Path} (h : doc.get? path = .ok none) :
    doc.getText? path = .ok none :=
  getAs?_eq_ok_iff.2 (.inl ⟨h, rfl⟩)

theorem get?_of_getAs? {doc : Document} {path : Path} {view : Document → Option α}
    {expected : String} {result : Option α} (h : getAs? view expected doc path = .ok result) :
    ∃ found, doc.get? path = .ok found := by
  rcases getAs?_eq_ok_iff.1 h with ⟨hg, _⟩ | ⟨found, _, hg, _⟩
  · exact ⟨none, hg⟩
  · exact ⟨some found, hg⟩

end Document
end EtcdFleet
