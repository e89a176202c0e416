import Mathlib.Tactic.SplitIfs
import EtcdFleet.NameMap

set_option autoImplicit false

/-!
# Names by their bytes

Names stand in the order of their letters. It is the order of their bytes as well: of two letters the greater one
has the greater first byte, or the same first byte and the greater one where they first differ.
-/

namespace EtcdFleet

def bytesOf (text : String) : List UInt8 := text.toUTF8.data.toList

theorem bytesOf_eq (text : String) : bytesOf text = text.toList.flatMap String.utf8EncodeChar := by
  rw [bytesOf, String.toUTF8, ← String.ofList_toList (s := text), String.toByteArray_ofList]
  simp [List.utf8Encode]

theorem encoded_lt {first second : Char} (h : first < second) (rest other : List UInt8) :
    String.utf8EncodeChar first ++ rest < String.utf8EncodeChar second ++ other := by
  have hlt : first.val.toNat < second.val.toNat := h
  have hmax : second.val.toNat < 1114112 := by
    have hvalid : second.val.toNat < 55296 ∨ 57343 < second.val.toNat ∧ second.val.toNat < 1114112 :=
      second.valid
    omega
  -- Six bits at a time, as the later bytes take them.
  have hthird : ∀ n : Nat, n / 4096 = n / 64 / 64 := fun n => by omega
  have hfourth : ∀ n : Nat, n / 262144 = n / 64 / 64 / 64 := fun n => by omega
  simp only [String.utf8EncodeChar, hthird, hfourth]
  generalize first.val.toNat = n at *
  generalize second.val.toNat = m at *
  split_ifs <;> simp [List.cons_lt_cons_iff, UInt8.lt_iff_toNat_lt, ← UInt8.toNat_inj] <;> omega

theorem flatMap_lt {first second : List Char} (h : first < second) :
    first.flatMap String.utf8EncodeChar < second.flatMap String.utf8EncodeChar := by
  induction h with
  | @nil letter rest =>
    have hne : String.utf8EncodeChar letter ≠ [] := by
      simp only [String.utf8EncodeChar]
      split_ifs <;> exact List.cons_ne_nil _ _
    obtain ⟨byte, bytes, hbytes⟩ := List.exists_cons_of_ne_nil hne
    rw [List.flatMap_cons, hbytes]
    exact List.Lex.nil
  | cons h ih =>
    rw [List.flatMap_cons, List.flatMap_cons]
    exact List.append_left_lt ih
  | rel h =>
    rw [List.flatMap_cons, List.flatMap_cons]
    exact encoded_lt h _ _

theorem bytesOf_lt {first second : String} (h : first < second) : bytesOf first < bytesOf second := by
  rw [bytesOf_eq, bytesOf_eq]
  exact flatMap_lt h

end EtcdFleet
