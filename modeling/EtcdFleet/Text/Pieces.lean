set_option autoImplicit false

/-!
# Separated pieces

Splitting a text at every occurrence of a separator, cutting it at the first one, and joining
pieces again. Splitting always gives at least one piece, the empty text included. A text is also cut
at a number of bytes, where that is the end of a character.
-/

namespace EtcdFleet.Text

def pieces (separator : Char) : List Char → List (List Char)
  | [] => [[]]
  | c :: cs =>
    if c = separator then [] :: pieces separator cs
    else
      match pieces separator cs with
      | [] => [[c]]
      | piece :: rest => (c :: piece) :: rest

def cut? (separator : Char) : List Char → Option (List Char × List Char)
  | [] => none
  | c :: cs =>
    if c = separator then some ([], cs)
    else (cut? separator cs).map fun (before, after) => (c :: before, after)

def joined (separator : List Char) : List (List Char) → List Char
  | [] => []
  | [piece] => piece
  | piece :: rest => piece ++ separator ++ joined separator rest

/-- The texts before and after so many bytes of UTF-8, if no character lies on both sides. -/
def cutBytes? : Nat → List Char → Option (List Char × List Char)
  | 0, cs => some ([], cs)
  | _, [] => none
  | bytes, c :: cs =>
    if c.utf8Size ≤ bytes then
      (cutBytes? (bytes - c.utf8Size) cs).map fun (before, after) => (c :: before, after)
    else none

theorem pieces_ne_nil (separator : Char) (cs : List Char) : pieces separator cs ≠ [] := by
  cases cs with
  | nil => simp [pieces]
  | cons c cs =>
    simp only [pieces]
    split
    · simp
    · split <;> simp

theorem pieces_of_not_mem {separator : Char} {cs : List Char} (h : separator ∉ cs) :
    pieces separator cs = [cs] := by
  induction cs with
  | nil => rfl
  | cons c cs ih =>
    simp only [List.mem_cons, not_or] at h
    simp [pieces, Ne.symm h.1, ih h.2]

/-- A separator between two texts ends the first one's last piece and starts the second's first. -/
theorem pieces_append_separator (separator : Char) (a b : List Char) :
    pieces separator (a ++ separator :: b) = pieces separator a ++ pieces separator b := by
  induction a with
  | nil => simp [pieces]
  | cons c cs ih =>
    simp only [List.cons_append, pieces, ih]
    split
    · rfl
    · cases h : pieces separator cs with
      | nil => exact absurd h (pieces_ne_nil separator cs)
      | cons piece rest => rfl

theorem pieces_joined {separator : Char} {texts : List (List Char)} (hne : texts ≠ [])
    (h : ∀ t ∈ texts, separator ∉ t) : pieces separator (joined [separator] texts) = texts := by
  induction texts with
  | nil => exact absurd rfl hne
  | cons t rest ih =>
    cases rest with
    | nil => simpa [joined] using pieces_of_not_mem (h t (by simp))
    | cons u rest =>
      have hrest := ih (by simp) (fun x hx => h x (by simp [hx]))
      simp only [joined, List.append_assoc, List.cons_append, List.nil_append] at hrest ⊢
      rw [pieces_append_separator, pieces_of_not_mem (h t (by simp)), hrest]
      rfl

end EtcdFleet.Text
