import EtcdFleet.Proofs.StoreWrites

set_option autoImplicit false

/-!
# When a document has a name

A document is kept under the text that stands as its name in its metadata. It has a name exactly if it is an
object, its metadata is an object, and the name is a text that is not empty; whatever else is refused is
refused as malformed, with the path of the value in the way.
-/

namespace EtcdFleet.Document

/-- The document is an object whose metadata has that name. -/
def Carries (doc : Document) (name : String) : Prop :=
  ∃ members metadata, doc = .object members ∧
    Entries.find? "metadata" members = some (.object metadata) ∧
    Entries.find? "name" metadata = some (.text name)

variable {doc written : Document} {name : String}

theorem getText?_eq_some_iff {path : Path} {text : String} :
    doc.getText? path = .ok (some text) ↔ doc.get? path = .ok (some (.text text)) := by
  rw [getText?, getAs?_eq_ok_iff]
  constructor
  · rintro (⟨_, h⟩ | ⟨found, seen, hfound, hseen, h⟩)
    · cases h
    · cases h
      cases found <;> cases hseen
      exact hfound
  · intro h
    exact .inr ⟨.text text, text, h, rfl, rfl⟩

/-- Below a name something is found in an object only, and never a null. -/
theorem lookup?_cons_eq_some_iff {first : String} {rest : Path} {found : Document} :
    doc.lookup? (first :: rest) = .ok (some found) ↔
      ∃ members child, doc = .object members ∧ Entries.find? first members = some child ∧
        child.isNull = false ∧ child.lookup? rest = .ok (some found) := by
  cases doc with
  | object members =>
    cases hchild : Entries.find? first members with
    | none =>
      rw [lookup?_of_find?_null rest (by rw [hchild]; rfl)]
      simp [hchild]
    | some child =>
      cases hnull : child.isNull with
      | false =>
        rw [lookup?_of_find? hchild hnull, mapError_eq_ok_iff]
        simp [hchild, hnull]
      | true =>
        obtain rfl := eq_null_of_isNull hnull
        rw [lookup?_of_find?_null rest (by rw [hchild]; rfl)]
        simp [hchild, isNull]
  | _ => simp [lookup?, members?, Entries.find?]

theorem get?_namePath_eq_some_iff :
    doc.get? namePath = .ok (some (.text name)) ↔ doc.Carries name := by
  rw [get?_eq_ok_iff, namePath, lookup?_cons_eq_some_iff]
  constructor
  · rintro ⟨members, child, rfl, hchild, _, h⟩
    obtain ⟨metadata, found, rfl, hfound, _, h⟩ := lookup?_cons_eq_some_iff.1 h
    obtain rfl := Option.some.inj (Except.ok.inj h)
    exact ⟨members, metadata, rfl, hchild, hfound⟩
  · rintro ⟨members, metadata, rfl, hmetadata, hname⟩
    exact ⟨members, .object metadata, rfl, hmetadata, rfl,
      lookup?_cons_eq_some_iff.2 ⟨metadata, .text name, rfl, hname, rfl, rfl⟩⟩

theorem resourceName_eq_ok_iff_carries :
    doc.resourceName = .ok name ↔ doc.Carries name ∧ name ≠ "" := by
  rw [resourceName_eq_ok_iff, getText?_eq_some_iff, get?_namePath_eq_some_iff]

/-! ## Documents without a name -/

def nameless : ProviderError := .malformed namePath "a non-empty string"

def nameFault? : Except ProviderError (Option Document) → Option ProviderError
  | .error failure => some failure
  | .ok none => some nameless
  | .ok (some (.text name)) => if name = "" then some nameless else none
  | .ok (some _) => some (.malformed namePath "a string")

theorem resourceName_eq_error_iff {failure : ProviderError} :
    doc.resourceName = .error failure ↔ nameFault? (doc.get? namePath) = some failure := by
  rw [resourceName, getText?, getAs?, namePath]
  cases doc.get? ["metadata", "name"] with
  | error blocked => simp [error_bind, nameFault?]
  | ok found =>
    cases found with
    | none => simp [ok_bind, nameFault?, nameless, namePath, pure, Except.pure, throw, throwThe,
        MonadExceptOf.throw]
    | some value =>
      cases value with
      | text name =>
        by_cases hname : name = ""
        · subst hname
          simp [ok_bind, nameFault?, nameless, namePath, text?, pure, Except.pure, throw, throwThe,
            MonadExceptOf.throw]
        · simp [ok_bind, nameFault?, hname, text?, pure, Except.pure]
      | _ => simp [ok_bind, error_bind, nameFault?, namePath, text?, throw, throwThe,
          MonadExceptOf.throw]

theorem prefix_of_lookup?_eq_error {path blocking : Path} (h : doc.lookup? path = .error blocking) :
    blocking <+: path := by
  induction path generalizing doc blocking with
  | nil => cases h
  | cons first rest ih =>
    cases hm : doc.members? with
    | none =>
      simp only [lookup?, hm, Except.error.injEq] at h
      exact h ▸ List.nil_prefix
    | some members =>
      rw [lookup?_of_members? hm] at h
      by_cases hnil : (Entries.find? first members).getD .null = .null
      · rw [lookup?_of_find?_null rest hnil] at h
        cases h
      · obtain ⟨child, hchild, hnull⟩ : ∃ child, Entries.find? first members = some child ∧
            child.isNull = false := by
          cases hfound : Entries.find? first members with
          | none => exact absurd (by rw [hfound]; rfl) hnil
          | some child =>
            refine ⟨child, rfl, Bool.eq_false_iff.2 fun hnull => hnil ?_⟩
            rw [hfound, eq_null_of_isNull hnull]
            rfl
        rw [lookup?_of_find? hchild hnull] at h
        cases hrest : child.lookup? rest with
        | ok found =>
          rw [hrest] at h
          cases h
        | error inner =>
          rw [hrest] at h
          obtain rfl := Except.error.inj h
          exact List.cons_prefix_cons.2 ⟨rfl, ih hrest⟩

theorem exists_malformed_of_resourceName {failure : ProviderError}
    (h : doc.resourceName = .error failure) :
    ∃ path expected, path <+: namePath ∧ failure = .malformed path expected := by
  rw [resourceName_eq_error_iff] at h
  cases hread : doc.lookup? namePath with
  | error blocking =>
    rw [get?, hread, mapError_error] at h
    exact ⟨blocking, _, prefix_of_lookup?_eq_error hread, (Option.some.inj h).symm⟩
  | ok found =>
    rw [get?, hread, mapError_ok] at h
    cases found with
    | none => exact ⟨namePath, _, List.prefix_rfl, (Option.some.inj h).symm⟩
    | some value =>
      cases value with
      | text name =>
        rw [nameFault?] at h
        split at h
        · exact ⟨namePath, _, List.prefix_rfl, (Option.some.inj h).symm⟩
        · cases h
      | _ => exact ⟨namePath, _, List.prefix_rfl, (Option.some.inj h).symm⟩

/-- A document is refused for its name exactly if it carries none that is not empty. -/
theorem exists_resourceName_error_iff :
    (∃ failure, doc.resourceName = .error failure) ↔ ∀ name, doc.Carries name → name = "" := by
  cases hname : doc.resourceName with
  | error failure =>
    refine ⟨fun _ name hcarries => Decidable.byContradiction fun hne => ?_, fun _ => ⟨failure, rfl⟩⟩
    rw [resourceName_eq_ok_iff_carries.2 ⟨hcarries, hne⟩] at hname
    cases hname
  | ok found =>
    obtain ⟨hcarries, hne⟩ := resourceName_eq_ok_iff_carries.1 hname
    refine ⟨?_, fun h => absurd (h found hcarries) hne⟩
    rintro ⟨_, ⟨⟩⟩

end EtcdFleet.Document
