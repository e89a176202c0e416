import EtcdFleet.Proofs.ResourceNames

set_option autoImplicit false

/-!
# Writing in place

A write that changes the document step by step on its way down makes an empty object of whatever is nothing
there, and may still be blocked further down. It never is once it has made one: below a new object nothing is
in the way. So a blocked write leaves the document as it was, and it is blocked by the value that blocks a
read along the same path, the first one that is neither null nor an object.
-/

namespace EtcdFleet

theorem Entries.replace_of_find? {α : Type} {name : String} {value : α}
    {entries : List (String × α)} (h : Entries.find? name entries = some value) :
    Entries.replace name value entries = entries := by
  induction entries with
  | nil => rfl
  | cons entry rest ih =>
    obtain ⟨key, held⟩ := entry
    by_cases hkey : key = name
    · rw [Entries.find?, if_pos hkey] at h
      rw [Entries.replace, if_pos hkey, Option.some.inj h]
    · rw [Entries.find?, if_neg hkey] at h
      rw [Entries.replace, if_neg hkey, ih h]

theorem Entries.insert_of_find? {α : Type} {name : String} {value : α}
    {entries : List (String × α)} (h : Entries.find? name entries = some value) :
    Entries.insert name value entries = entries := by
  rw [Entries.insert, h, Option.isSome_some, if_pos rfl, Entries.replace_of_find? h]

theorem mapError_eq_error_iff {ε η α : Type} {wrap : ε → η} {result : Except ε α} {failure : η} :
    result.mapError wrap = .error failure ↔ ∃ inner, result = .error inner ∧ failure = wrap inner := by
  cases result <;> simp [mapError_ok, mapError_error, eq_comm]

def OnlyMalformed {α : Type} (result : Except ProviderError α) : Prop :=
  ∀ failure, result = .error failure → ∃ path expected, failure = .malformed path expected

theorem onlyMalformed_ok {α : Type} (value : α) : OnlyMalformed (.ok value) := by
  intro failure h
  cases h

theorem onlyMalformed_error {α : Type} (path : Path) (expected : String) :
    OnlyMalformed (.error (.malformed path expected) : Except ProviderError α) := by
  intro failure h
  exact ⟨path, expected, (Except.error.inj h).symm⟩

theorem OnlyMalformed.bind {α β : Type} {first : Except ProviderError α}
    {next : α → Except ProviderError β} (h : OnlyMalformed first)
    (hnext : ∀ value, OnlyMalformed (next value)) : OnlyMalformed (first >>= next) := by
  intro failure hfailure
  cases first with
  | ok value => exact hnext value failure hfailure
  | error own =>
    obtain rfl := Except.error.inj hfailure
    exact h own rfl

namespace Document

variable {doc value : Document} {path blocking : Path}

/-! ## The value in the way -/

/-- The value at the end of a path that leads through objects only. -/
def reach? (doc : Document) : Path → Option Document
  | [] => some doc
  | name :: rest =>
    match doc with
    | .object members => (Entries.find? name members).bind (reach? · rest)
    | _ => none

/-- The path would go on from a value that is neither null nor an object. -/
def Obstructs (doc : Document) (path blocking : Path) : Prop :=
  (∃ name rest, path = blocking ++ name :: rest) ∧
    ∃ found, doc.reach? blocking = some found ∧ found.members? = none

theorem members?_eq_none_iff :
    doc.members? = none ↔ doc ≠ .null ∧ ∀ members, doc ≠ .object members := by
  cases doc <;> simp [members?]

theorem exists_object_of_reach? {shorter rest : Path} {name : String} {found : Document}
    (h : doc.reach? (shorter ++ name :: rest) = some found) :
    ∃ members, doc.reach? shorter = some (.object members) := by
  induction shorter generalizing doc with
  | nil =>
    cases doc with
    | object members => exact ⟨members, rfl⟩
    | _ => cases h
  | cons first after ih =>
    cases doc with
    | object members =>
      obtain ⟨child, hchild, hreach⟩ := Option.bind_eq_some_iff.1 h
      obtain ⟨inner, hinner⟩ := ih hreach
      exact ⟨inner, Option.bind_eq_some_iff.2 ⟨child, hchild, hinner⟩⟩
    | _ => cases h

theorem obstructs_of_scalar {name : String} {rest : Path} (h : doc.members? = none) :
    doc.Obstructs (name :: rest) blocking ↔ blocking = [] := by
  constructor
  · rintro ⟨_, found, hfound, _⟩
    cases blocking with
    | nil => rfl
    | cons first after =>
      cases doc with
      | object members => cases h
      | _ => cases hfound
  · rintro rfl
    exact ⟨⟨name, rest, rfl⟩, doc, rfl, h⟩

theorem not_obstructs_null {name : String} {rest : Path} :
    ¬ Document.null.Obstructs (name :: rest) blocking := by
  rintro ⟨_, found, hfound, hblocks⟩
  cases blocking with
  | nil =>
    obtain rfl := Option.some.inj hfound
    cases hblocks
  | cons first after => cases hfound

theorem obstructs_object_iff {members : List (String × Document)} {name : String} {rest : Path} :
    (Document.object members).Obstructs (name :: rest) blocking ↔ ∃ child inner,
      Entries.find? name members = some child ∧ child.Obstructs rest inner ∧
        blocking = name :: inner := by
  constructor
  · rintro ⟨⟨next, after, hpath⟩, found, hfound, hblocks⟩
    cases blocking with
    | nil =>
      obtain rfl := Option.some.inj hfound
      cases hblocks
    | cons first inner =>
      obtain ⟨rfl, hrest⟩ := List.cons.inj hpath
      obtain ⟨child, hchild, hreach⟩ := Option.bind_eq_some_iff.1 hfound
      exact ⟨child, inner, hchild, ⟨⟨next, after, hrest⟩, found, hreach, hblocks⟩, rfl⟩
  · rintro ⟨child, inner, hchild, ⟨⟨next, after, rfl⟩, found, hreach, hblocks⟩, rfl⟩
    exact ⟨⟨next, after, rfl⟩, found, Option.bind_eq_some_iff.2 ⟨child, hchild, hreach⟩, hblocks⟩

theorem lookup?_of_scalar {name : String} {rest : Path} (h : doc.members? = none) :
    doc.lookup? (name :: rest) = .error [] := by
  rw [lookup?, h]

theorem lookup?_null_ne_error : Document.null.lookup? path ≠ .error blocking := by
  intro h
  cases path with
  | nil => cases h
  | cons name rest => cases h

theorem lookup?_object_eq_error_iff {members : List (String × Document)} {name : String}
    {rest : Path} :
    (Document.object members).lookup? (name :: rest) = .error blocking ↔ ∃ child inner,
      Entries.find? name members = some child ∧ child.lookup? rest = .error inner ∧
        blocking = name :: inner := by
  cases hfound : Entries.find? name members with
  | none =>
    rw [lookup?_of_find?_null rest (by rw [hfound]; rfl)]
    simp
  | some child =>
    cases hnull : child.isNull with
    | true =>
      obtain rfl := eq_null_of_isNull hnull
      rw [lookup?_of_find?_null rest (by rw [hfound]; rfl)]
      simp [lookup?_null_ne_error]
    | false =>
      rw [lookup?_of_find? hfound hnull, mapError_eq_error_iff]
      simp

/-- A read is blocked by the first value on its way that is neither null nor an object. -/
theorem lookup?_eq_error_iff :
    doc.lookup? path = .error blocking ↔ doc.Obstructs path blocking := by
  induction path generalizing doc blocking with
  | nil =>
    constructor
    · intro h
      cases h
    · rintro ⟨⟨name, rest, hpath⟩, _⟩
      simp at hpath
  | cons name rest ih =>
    cases doc with
    | object members => simp only [lookup?_object_eq_error_iff, obstructs_object_iff, ih]
    | null => simp only [lookup?_null_ne_error, not_obstructs_null]
    | _ => rw [obstructs_of_scalar rfl, lookup?_of_scalar rfl, Except.error.injEq, eq_comm]

/-! ## The write -/

/-- What is nothing on the way becomes an empty object before the next step is tried. -/
def writeInPlace (doc value : Document) : Path → Except Path Unit × Document
  | [] => (.ok (), value)
  | name :: rest =>
    match doc.members? with
    | none => (.error [], doc)
    | some members =>
      let below := (childOr members name).writeInPlace value rest
      (below.1.mapError (name :: ·), .object (Entries.insert name below.2 members))

theorem writeInPlace_cons {name : String} {rest : Path} {members : List (String × Document)}
    (h : doc.members? = some members) :
    doc.writeInPlace value (name :: rest) =
      (((childOr members name).writeInPlace value rest).1.mapError (name :: ·),
        .object (Entries.insert name ((childOr members name).writeInPlace value rest).2 members)) := by
  rw [writeInPlace, h]

/-- A blocked write has met no value that was nothing, so what it puts back is what was there. -/
theorem object_insert_childOr {members : List (String × Document)} {name : String} {rest : Path}
    (h : doc.members? = some members)
    (hblocked : (childOr members name).assign? rest value = .error blocking) :
    .object (Entries.insert name (childOr members name) members) = doc := by
  cases hfound : Entries.find? name members with
  | none =>
    have hempty : childOr members name = .object [] := by rw [childOr, hfound]; rfl
    rw [hempty] at hblocked
    obtain ⟨written, hwritten⟩ : ∃ written, (Document.object []).assign? rest value = .ok written :=
      assign?_of_empty rfl rest value
    rw [hblocked] at hwritten
    cases hwritten
  | some child =>
    have hchild : childOr members name = child := by rw [childOr, hfound]; rfl
    rw [hchild, Entries.insert_of_find? hfound]
    cases doc with
    | object held =>
      obtain rfl := Option.some.inj h
      rfl
    | null =>
      obtain rfl := Option.some.inj h
      cases hfound
    | _ => cases h

/-- A write in place is the write that names what blocks it, and leaves the document to it. -/
theorem writeInPlace_eq (doc value : Document) (path : Path) :
    doc.writeInPlace value path =
      match doc.assign? path value with
      | .ok written => (.ok (), written)
      | .error blocking => (.error blocking, doc) := by
  induction path generalizing doc with
  | nil => rfl
  | cons name rest ih =>
    cases hmembers : doc.members? with
    | none => rw [writeInPlace, assign?, hmembers]
    | some members =>
      rw [writeInPlace_cons hmembers, assign?_cons hmembers, ih]
      cases hbelow : (childOr members name).assign? rest value with
      | ok child => rfl
      | error blocking =>
        change (Except.error (name :: blocking),
          Document.object (Entries.insert name (childOr members name) members)) = _
        rw [object_insert_childOr hmembers hbelow]
        rfl

def set (doc : Document) (value : Document) (path : Path) : Except ProviderError Unit × Document :=
  ((doc.writeInPlace value path).1.mapError blocked, (doc.writeInPlace value path).2)

theorem set_eq (doc value : Document) (path : Path) :
    doc.set value path =
      match doc.put path value with
      | .ok written => (.ok (), written)
      | .error failure => (.error failure, doc) := by
  rw [set, writeInPlace_eq, put]
  cases doc.assign? path value <;> rfl

theorem get?_eq_error_iff {failure : ProviderError} :
    doc.get? path = .error failure ↔ ∃ blocking, doc.Obstructs path blocking ∧
      failure = .malformed blocking "an object" := by
  rw [get?, mapError_eq_error_iff]
  simp only [lookup?_eq_error_iff, blocked]

theorem onlyMalformed_get? (doc : Document) (path : Path) : OnlyMalformed (doc.get? path) := by
  intro failure h
  obtain ⟨blocking, _, hfailure⟩ := get?_eq_error_iff.1 h
  exact ⟨blocking, "an object", hfailure⟩

theorem onlyMalformed_getAs? {α : Type} (view : Document → Option α) (expected : String)
    (doc : Document) (path : Path) : OnlyMalformed (getAs? view expected doc path) := by
  refine (onlyMalformed_get? doc path).bind fun found => ?_
  cases found with
  | none => exact onlyMalformed_ok none
  | some value =>
    cases hview : view value with
    | some seen =>
      simp only [hview]
      exact onlyMalformed_ok (some seen)
    | none =>
      simp only [hview]
      exact onlyMalformed_error path expected

theorem put_eq_error_iff {failure : ProviderError} :
    doc.put path value = .error failure ↔ doc.get? path = .error failure := by
  rw [put, get?, mapError_eq_error_iff, mapError_eq_error_iff]
  simp only [assign?_eq_error_iff]

theorem set_eq_error_iff {failure : ProviderError} :
    (doc.set value path).1 = .error failure ↔ doc.put path value = .error failure := by
  rw [set_eq]
  cases doc.put path value <;> simp

theorem pathText_eq (path : Path) :
    pathText path = if path = [] then "<root>" else ".".intercalate path := by
  cases path <;> rfl

/-- A write fails for what a read along the path fails for, and a failed write changes nothing. -/
theorem set_fails_where_get_does (doc value : Document) (path : Path) :
    (∀ failure, (doc.set value path).1 = .error failure ↔ doc.get? path = .error failure) ∧
    (∀ failure, doc.get? path = .error failure ↔ ∃ blocking,
      (∃ name rest, path = blocking ++ name :: rest) ∧
      (∃ found, doc.reach? blocking = some found ∧ found ≠ .null ∧
        ∀ members, found ≠ .object members) ∧
      (∀ shorter name rest, blocking = shorter ++ name :: rest →
        ∃ members, doc.reach? shorter = some (.object members)) ∧
      failure = .malformed blocking "an object") ∧
    (∀ blocking expected, (ProviderError.malformed blocking expected).message =
      "Malformed document: " ++ (if blocking = [] then "<root>" else ".".intercalate blocking) ++
        " is not " ++ expected) ∧
    (∀ failure, (doc.set value path).1 = .error failure → (doc.set value path).2 = doc) ∧
    (∀ written, doc.put path value = .ok written → doc.set value path = (.ok (), written)) := by
  refine ⟨fun failure => set_eq_error_iff.trans put_eq_error_iff, fun failure => ?_,
    fun blocking expected => ?_, fun failure hfailed => ?_, fun written hwritten => ?_⟩
  · rw [get?_eq_error_iff]
    refine exists_congr fun blocking => ?_
    constructor
    · rintro ⟨⟨hgoesOn, found, hfound, hblocks⟩, hfailure⟩
      refine ⟨hgoesOn, ⟨found, hfound, members?_eq_none_iff.1 hblocks⟩, ?_, hfailure⟩
      rintro shorter name rest rfl
      exact exists_object_of_reach? hfound
    · rintro ⟨hgoesOn, ⟨found, hfound, hblocks⟩, _, hfailure⟩
      exact ⟨⟨hgoesOn, found, hfound, members?_eq_none_iff.2 hblocks⟩, hfailure⟩
  · rw [← pathText_eq]
    rfl
  · rw [set_eq, set_eq_error_iff.1 hfailed]
  · rw [set_eq, hwritten]

end Document
end EtcdFleet
