import Mathlib.Data.Option.Basic
import EtcdFleet.Text.Scanner

set_option autoImplicit false

/-!
# What scanners take and what they give

A scanner on a text that begins with what it takes, and what can be said of everything that a scanner gives. One
law for each way of putting scanners together.
-/

namespace EtcdFleet.Text.Scanner

variable {α β : Type} {step other : Scanner α} {next : α → Scanner β} {cs rest : List Char} {value : α}

theorem run?_bind (step : Scanner α) (next : α → Scanner β) (cs : List Char) :
    (step >>= next).run? cs = (step.run? cs).bind fun found => (next found.1).run? found.2 := rfl

theorem run?_bind_of_some (h : step.run? cs = some (value, rest)) (next : α → Scanner β) :
    (step >>= next).run? cs = (next value).run? rest := by
  rw [run?_bind, h, Option.bind_some]

theorem run?_pure (value : α) (cs : List Char) :
    (pure value : Scanner α).run? cs = some (value, cs) := rfl

theorem run?_guard {c : Prop} [Decidable c] (h : c) (cs : List Char) :
    (guard c : Scanner Unit).run? cs = some ((), cs) := by
  rw [guard, if_pos h]
  rfl

theorem run?_discard (step : Scanner α) (cs : List Char) :
    run? (discard step) cs = (step.run? cs).map fun found => ((), found.2) := by
  change (step cs).bind _ = (step cs).map _
  cases step cs <;> rfl

theorem run?_orElse (step other : Scanner α) (cs : List Char) :
    (step <|> other).run? cs = (step.run? cs).or (other.run? cs) := by
  change (step cs <|> other cs) = (step cs).or (other cs)
  cases step cs <;> rfl

theorem run?_exactly (c : Char) (rest : List Char) : (exactly [c]).run? (c :: rest) = some ((), rest) := by
  simp [run?, exactly, ofFunction]

theorem run?_optionally_of_not {text : List Char} (h : text.isPrefixOf cs = false) :
    (optionally text).run? cs = some (false, cs) := by
  simp [run?, optionally, ofFunction, h]

theorem run?_takeWhile_of_head {p : Char → Bool} (h : ∀ c ∈ cs.head?, p c = false) :
    (takeWhile p).run? cs = some ([], cs) := by
  cases cs with
  | nil => rfl
  | cons c rest => simp [run?, takeWhile, ofFunction, h c rfl]

theorem run?_takeWhile_append {p : Char → Bool} {taken : List Char} (h : ∀ c ∈ taken, p c = true)
    (hrest : ∀ c ∈ rest.head?, p c = false) :
    (takeWhile p).run? (taken ++ rest) = some (taken, rest) := by
  have hnone := run?_takeWhile_of_head hrest
  simp only [run?, takeWhile, ofFunction, Option.some.injEq, Prod.mk.injEq] at hnone ⊢
  rw [List.takeWhile_append_of_pos h, List.dropWhile_append_of_pos h, hnone.1, hnone.2,
    List.append_nil]
  exact ⟨rfl, rfl⟩

/-! ## What is given -/

/-- Whatever the scanner gives has the property. -/
def Yields (step : Scanner α) (p : α → Prop) : Prop :=
  ∀ cs value rest, step.run? cs = some (value, rest) → p value

theorem Yields.any (step : Scanner α) : Yields step fun _ => True := fun _ _ _ _ => trivial

theorem Yields.pure {p : α → Prop} (h : p value) : Yields (pure value) p := by
  intro cs found rest hfound
  obtain ⟨rfl, _⟩ := Prod.mk.inj (Option.some.inj hfound)
  exact h

theorem Yields.fail {p : α → Prop} : Yields (failure : Scanner α) p := by
  intro cs found rest hfound
  cases hfound

theorem Yields.takeWhile (p : Char → Bool) : Yields (takeWhile p) fun taken => ∀ c ∈ taken, p c = true := by
  intro cs taken rest htaken c hc
  obtain ⟨rfl, _⟩ := Prod.mk.inj (Option.some.inj htaken)
  exact List.all_eq_true.1 (List.all_takeWhile) c hc

theorem Yields.bind {p : α → Prop} {q : β → Prop} (h : Yields step p)
    (hnext : ∀ value, p value → Yields (next value) q) : Yields (step >>= next) q := by
  intro cs found rest hfound
  rw [run?_bind] at hfound
  obtain ⟨⟨value, left⟩, hvalue, hrest⟩ := Option.bind_eq_some_iff.1 hfound
  exact hnext value (h cs value left hvalue) left found rest hrest

theorem Yields.orElse {p : α → Prop} (h : Yields step p) (hother : Yields other p) :
    Yields (step <|> other) p := by
  intro cs found rest hfound
  rw [run?_orElse] at hfound
  rcases Option.or_eq_some_iff.1 hfound with hfirst | ⟨_, hsecond⟩
  · exact h cs found rest hfirst
  · exact hother cs found rest hsecond

theorem Yields.guard_bind {c : Prop} [Decidable c] {q : β → Prop} {next : Unit → Scanner β}
    (h : c → Yields (next ()) q) : Yields (guard c >>= next) q := by
  by_cases hc : c
  · rw [guard, if_pos hc]
    exact Yields.bind (.any _) fun _ _ => h hc
  · rw [guard, if_neg hc]
    exact Yields.bind (p := fun _ => False) .fail fun _ hfalse => hfalse.elim

end EtcdFleet.Text.Scanner
