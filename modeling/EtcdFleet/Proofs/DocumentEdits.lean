import EtcdFleet.Proofs.DocumentPaths

set_option autoImplicit false

/-!
# Edits of a document

What one write does is told by what is read afterwards at its own path and beside it, by what a second write at
the same path leaves, and by writes beside each other, which may change places. Edits are writes made one after
another, and what lies beside all of them reads as before.
-/

namespace EtcdFleet

structure Edit where
  path : Path
  value : Document

namespace Document

variable {doc after : Document} {edit : Edit} {edits : List Edit}

/-- The first edit that is blocked ends them. -/
def putAll (doc : Document) (edits : List Edit) : Except ProviderError Document :=
  edits.foldlM (fun doc edit => doc.put edit.path edit.value) doc

theorem putAll_cons_eq_ok_iff :
    doc.putAll (edit :: edits) = .ok after ↔
      ∃ next, doc.put edit.path edit.value = .ok next ∧ next.putAll edits = .ok after := by
  rw [putAll, List.foldlM_cons, bind_eq_ok_iff]
  rfl

theorem get?_putAll_of_apart {path : Path}
    (hapart : ∀ edit ∈ edits, Path.Apart edit.path path) (h : doc.putAll edits = .ok after) :
    after.get? path = doc.get? path := by
  induction edits generalizing doc with
  | nil =>
    obtain rfl := Except.ok.inj h
    rfl
  | cons edit rest ih =>
    obtain ⟨next, hnext, hrest⟩ := putAll_cons_eq_ok_iff.1 h
    calc after.get? path = next.get? path :=
          ih (fun other hmem => hapart other (List.mem_cons_of_mem edit hmem)) hrest
      _ = doc.get? path := get?_put_of_apart (hapart edit List.mem_cons_self) hnext

/-! ## The laws of one write -/

variable {value written : Document} {path : Path}

theorem get?_put (hne : path ≠ []) (h : doc.put path value = .ok written) :
    written.get? path = .ok (if value.isNull then none else some value) :=
  get?_eq_ok_iff.2 (lookup?_assign?_self hne (put_eq_ok_iff.1 h))

theorem exists_put_iff (doc value : Document) (path : Path) :
    (∃ written, doc.put path value = .ok written) ↔ ∃ found, doc.get? path = .ok found := by
  constructor
  · rintro ⟨written, hwritten⟩
    cases hread : doc.lookup? path with
    | ok found => exact ⟨found, get?_eq_ok_iff.2 hread⟩
    | error blocking =>
      rw [put, assign?_eq_error_iff.2 hread] at hwritten
      cases hwritten
  · rintro ⟨found, hfound⟩
    exact exists_put_of_get? hfound value

/-- Writing and reading: at the written path, beside it, once more at the same path, and in either order. -/
theorem laws_of_writing (doc value later : Document) (p q : Path) :
    (∀ written, p ≠ [] → doc.put p value = .ok written →
      (value = .null → written.get? p = .ok none) ∧
      (value ≠ .null → written.get? p = .ok (some value))) ∧
    (∀ written, Path.Apart p q → doc.put p value = .ok written → written.get? q = doc.get? q) ∧
    (∀ written, doc.put p value = .ok written →
      ∃ final, written.put p later = .ok final ∧ doc.put p later = .ok final) ∧
    (∀ first second, Path.Apart p q → doc.put p value = .ok first → doc.put q later = .ok second →
      ∃ both, first.put q later = .ok both ∧ second.put p value = .ok both) ∧
    ((∃ written, doc.put p value = .ok written) ↔ ∃ found, doc.get? p = .ok found) := by
  refine ⟨fun written hne hwritten => ?_, fun written => get?_put_of_apart,
    fun written hwritten => ?_, fun first second => put_comm_of_apart,
    exists_put_iff doc value p⟩
  · have hread := get?_put hne hwritten
    constructor
    · rintro rfl
      exact hread
    · intro hvalue
      cases value with
      | null => exact absurd rfl hvalue
      | _ => exact hread
  · obtain ⟨found, hfound⟩ := (exists_put_iff doc value p).1 ⟨written, hwritten⟩
    obtain ⟨final, hfinal⟩ := exists_put_of_get? hfound later
    exact ⟨final, (put_put_self hwritten later).trans hfinal, hfinal⟩

end Document
end EtcdFleet
