import Mathlib.Data.List.Infix
import EtcdFleet.Text.Pieces

set_option autoImplicit false

/-!
# Joined texts and what reads them back

Texts that are joined are told apart again by the separator, be it one character or several, as long as none of
the texts can be taken for it.
-/

namespace EtcdFleet.Text

variable {last : Char} {separator cs init before : List Char}

/-! ## Joining -/

theorem joined_eq_intercalate (separator : List Char) (texts : List (List Char)) :
    joined separator texts = separator.intercalate texts := by
  induction texts with
  | nil => rfl
  | cons text rest ih =>
    cases rest with
    | nil => exact (List.intercalate_singleton ..).symm
    | cons next rest =>
      rw [List.intercalate_cons_cons, ← ih]
      rfl

theorem pieces_intercalate_comma {texts : List String} (hne : texts ≠ [])
    (h : ∀ text ∈ texts, ',' ∉ text.toList) :
    pieces ',' (",".intercalate texts).toList = texts.map String.toList := by
  have hjoined : (",".intercalate texts).toList = joined [','] (texts.map String.toList) := by
    rw [String.toList_intercalate, joined_eq_intercalate]
    rfl
  rw [hjoined]
  exact pieces_joined (mt List.map_eq_nil_iff.1 hne) (List.forall_mem_map.2 h)

/-! ## Splitting at a text -/

/-- Splitting at every occurrence of a separator of at least one character, from the left. -/
def piecesAt (separator : List Char) : List Char → List (List Char)
  | [] => [[]]
  | c :: cs =>
    if separator <+: c :: cs then [] :: piecesAt separator (cs.drop (separator.length - 1))
    else
      match piecesAt separator cs with
      | [] => [[c]]
      | piece :: rest => (c :: piece) :: rest
termination_by cs => cs.length
decreasing_by
  · simp only [List.length_drop, List.length_cons]
    omega
  · simp

theorem piecesAt_of_notMem (hlast : last ∈ separator) (h : last ∉ cs) :
    piecesAt separator cs = [cs] := by
  induction cs with
  | nil => rw [piecesAt]
  | cons c cs ih =>
    rw [piecesAt, if_neg, ih (List.not_mem_of_not_mem_cons h)]
    exact fun hoccurs => h (hoccurs.subset hlast)

/-- A text without the last character of the separator ends where the separator begins: in front of that
place, the separator would have to end within the text or within itself. -/
theorem piecesAt_append (hinit : last ∉ init) (hbefore : last ∉ before) (after : List Char) :
    piecesAt (init ++ [last]) (before ++ (init ++ [last]) ++ after) =
      before :: piecesAt (init ++ [last]) after := by
  induction before with
  | nil =>
    obtain ⟨c, rest, hseparator⟩ := List.exists_cons_of_ne_nil (List.concat_ne_nil last init)
    rw [hseparator, List.nil_append, List.cons_append, piecesAt, if_pos]
    · rw [List.length_cons, Nat.add_sub_cancel, List.drop_left]
    · exact List.prefix_append _ _
  | cons c before ih =>
    have hends : last ∉ c :: before ++ init := fun h => (List.mem_append.1 h).elim hbefore hinit
    have hnot : ¬ init ++ [last] <+: c :: before ++ (init ++ [last]) ++ after := by
      intro hoccurs
      have hwithin : c :: before ++ init <+: c :: before ++ (init ++ [last]) ++ after :=
        ⟨last :: after, by simp⟩
      have hlonger := List.prefix_of_prefix_length_le hoccurs hwithin (by simp)
      exact hends (hlonger.subset (List.mem_append_right _ List.mem_cons_self))
    rw [List.cons_append, List.cons_append] at hnot ⊢
    rw [piecesAt, if_neg hnot, ih (List.not_mem_of_not_mem_cons hbefore)]

/-- A hyphen in front of an arrow belongs to the text before it. -/
example : piecesAt "->".toList "a-->b->>".toList = ["a-".toList, "b".toList, ">".toList] := by cbv

end EtcdFleet.Text
