import Mathlib.Algebra.Group.Nat.Defs
import EtcdFleet.Proofs.CalendarDays
import EtcdFleet.Proofs.Scanning
import EtcdFleet.Time.Instant

set_option autoImplicit false

/-!
# Instants read back

The text of an instant to the second, read again, is an instant with the same text.
-/

namespace EtcdFleet

open Calendar Text Scanner

namespace Instant

/-! ## Numbers of a fixed width -/

theorem isDigit_of_mem_padded {width n : Nat} {c : Char} (h : c ∈ padded width n) : c.isDigit = true := by
  rcases List.mem_append.1 h with hzero | hdigit
  · rw [List.eq_of_mem_replicate hzero]
    decide
  · exact Nat.isDigit_of_mem_toDigits (by decide) (by decide) hdigit

theorem length_padded {width n : Nat} (hwidth : 0 < width) (h : n < 10 ^ width) :
    (padded width n).length = width := by
  have hle := (Nat.length_toDigits_le_iff (by decide) hwidth).2 h
  simp only [padded, List.length_append, List.length_replicate]
  omega

theorem ofDigitChars_padded (width n : Nat) : Nat.ofDigitChars 10 (padded width n) 0 = n := by
  simp [padded, Nat.ofDigitChars_append, Nat.ofDigitChars_replicate_zero, Nat.ofDigitChars_ten_toDigits]

theorem padded_ne_nil (width n : Nat) : padded width n ≠ [] := by
  simp [padded, Nat.toDigits_ne_nil]

/-- As many digits as may be taken, or all the digits that there are. -/
theorem run?_number_padded {least most width n : Nat} {rest : List Char}
    (hleast : least ≤ (padded width n).length)
    (hmost : (padded width n).length = most ∨
      (padded width n).length ≤ most ∧ ∀ c ∈ rest.head?, c.isDigit = false) :
    (number least most).run? (padded width n ++ rest) = some (n, rest) := by
  have hall : ∀ c ∈ padded width n, c.isDigit = true := fun c => isDigit_of_mem_padded
  have htaken : ((padded width n ++ rest).takeWhile Char.isDigit).take most = padded width n := by
    rw [List.takeWhile_append_of_pos hall]
    rcases hmost with rfl | ⟨hle, hhead⟩
    · rw [List.take_left']
      rfl
    · have hnil : rest.takeWhile Char.isDigit = [] := by
        cases rest with
        | nil => rfl
        | cons c rest => exact List.takeWhile_cons_of_neg (by simp [hhead c rfl])
      rw [hnil, List.append_nil, List.take_of_length_le hle]
  simp only [run?, number, ofFunction, htaken, ofDigitChars_padded, List.drop_left]
  rw [if_pos ⟨hleast, padded_ne_nil width n⟩]

theorem bounds_of_isDigit {c : Char} (h : c.isDigit = true) : 48 ≤ c.toNat ∧ c.toNat ≤ 57 := by
  simpa [Char.isDigit, UInt32.le_iff_toNat_le] using h

theorem isBlank_of_isDigit {c : Char} (h : c.isDigit = true) : isBlank c = false := by
  have hbounds := bounds_of_isDigit h
  simp only [isBlank, UInt32.le_iff_toNat_le, UInt32.reduceToNat, Char.toNat_val,
    Bool.or_eq_false_iff, Bool.and_eq_false_imp, decide_eq_true_eq, decide_eq_false_iff_not,
    Nat.not_le, beq_eq_false_iff_ne, ne_eq, ← UInt32.toNat_inj]
  omega

theorem isDigit_of_mem_head?_padded {width n : Nat} {rest : List Char} {c : Char}
    (h : c ∈ (padded width n ++ rest).head?) : c.isDigit = true := by
  obtain ⟨first, digits, hdigits⟩ := List.exists_cons_of_ne_nil (padded_ne_nil width n)
  rw [hdigits, List.cons_append, List.head?_cons, Option.mem_some_iff] at h
  have hmem : c ∈ padded width n := by
    rw [hdigits, ← h]
    exact List.mem_cons_self
  exact isDigit_of_mem_padded hmem

theorem run?_blanks {cs : List Char} (h : ∀ c ∈ cs.head?, isBlank c = false) :
    blanks.run? cs = some ((), cs) := by
  have htaken := run?_takeWhile_of_head h
  rw [blanks, run?_discard, htaken]
  rfl

theorem run?_blanks_cons {c : Char} (h : isBlank c = false) (rest : List Char) :
    blanks.run? (c :: rest) = some ((), c :: rest) :=
  run?_blanks fun _ hc => Option.mem_some_iff.1 hc ▸ h

theorem run?_blanks_padded (width n : Nat) (rest : List Char) :
    blanks.run? (padded width n ++ rest) = some ((), padded width n ++ rest) :=
  run?_blanks fun _ hc => isBlank_of_isDigit (isDigit_of_mem_head?_padded hc)

theorem run?_freeNumber {n : Nat} (h : n < 100) (rest : List Char) :
    (freeNumber 2).run? (padded 2 n ++ rest) = some (n, rest) := by
  have hlength : (padded 2 n).length = 2 := length_padded (by decide) h
  rw [freeNumber, run?_bind_of_some (run?_blanks_padded 2 n rest)]
  exact run?_number_padded (by omega) (.inl hlength)

theorem run?_size (n : Nat) (rest : List Char) :
    (ofFunction fun cs => number 1 cs.length cs : Scanner Nat).run? (padded 4 n ++ '-' :: rest) =
      some (n, '-' :: rest) := by
  have hlength : 1 ≤ (padded 4 n).length := List.length_pos_iff.2 (padded_ne_nil 4 n)
  refine run?_number_padded hlength (.inr ⟨by simp, fun c hc => ?_⟩)
  rw [← Option.mem_some_iff.1 hc]
  rfl

theorem run?_freeYear_signed {year : Int} (h : ¬ (0 ≤ year ∧ year ≤ 9999)) (rest : List Char) :
    freeYear.run? (yearChars year ++ '-' :: rest) = some (year, '-' :: rest) := by
  have hsize := run?_size year.natAbs rest
  rw [yearChars, if_neg h]
  by_cases hnegative : year < 0
  · rw [if_pos hnegative, List.cons_append, freeYear,
      run?_bind_of_some (run?_blanks_cons (by decide) _), run?_bind_of_some rfl]
    refine (run?_bind_of_some (run?_exactly '-' _) _).trans ?_
    rw [run?_bind_of_some hsize, run?_pure]
    congr 2
    omega
  · rw [if_neg hnegative, List.cons_append, freeYear,
      run?_bind_of_some (run?_blanks_cons (by decide) _), run?_bind_of_some rfl]
    refine (run?_bind_of_some (run?_exactly '+' _) _).trans ?_
    rw [run?_bind_of_some hsize, run?_pure]
    congr 2
    omega

theorem run?_freeYear_plain {year : Int} (h : 0 ≤ year ∧ year ≤ 9999) (rest : List Char) :
    freeYear.run? (yearChars year ++ '-' :: rest) = some (year, '-' :: rest) := by
  have hlength : (padded 4 year.natAbs).length = 4 := length_padded (by decide) (by omega)
  have hnumber : (number 1 4).run? (padded 4 year.natAbs ++ '-' :: rest) =
      some (year.natAbs, '-' :: rest) := run?_number_padded (by omega) (.inl hlength)
  have hhead : ∀ c ∈ (padded 4 year.natAbs ++ '-' :: rest).head?, c.isDigit = true :=
    fun _ => isDigit_of_mem_head?_padded
  rw [yearChars, if_pos h, freeYear, run?_bind_of_some (run?_blanks_padded _ _ _), run?_bind_of_some rfl]
  -- The text begins with a digit, and so not with a sign.
  split
  · rename_i heq
    exact absurd (hhead _ heq) (by decide)
  · rename_i heq
    exact absurd (hhead _ heq) (by decide)
  · rw [run?_bind_of_some hnumber, run?_pure]
    congr 2
    omega

theorem run?_freeYear (year : Int) (rest : List Char) :
    freeYear.run? (yearChars year ++ '-' :: rest) = some (year, '-' :: rest) := by
  by_cases h : 0 ≤ year ∧ year ≤ 9999
  · exact run?_freeYear_plain h rest
  · exact run?_freeYear_signed h rest

theorem run?_dateSeparator (rest : List Char) : dateSeparator.run? ('T' :: rest) = some ((), rest) := by
  rw [dateSeparator, run?_orElse, run?_exactly, Option.some_or]

theorem run?_fraction_end : fraction.run? ['Z'] = some (0, ['Z']) := by
  rw [fraction, run?_bind_of_some (run?_optionally_of_not (by decide))]
  rfl

theorem run?_offset_end (between : Scanner Unit) : (offset between).run? ['Z'] = some (0, []) := by
  rw [offset, run?_orElse]
  rfl

def utcChars (date : Date) (hour minute second : Nat) : List Char :=
  yearChars date.year ++ '-' :: (padded 2 date.month ++ '-' :: (padded 2 date.day ++ 'T' ::
    (padded 2 hour ++ ':' :: (padded 2 minute ++ ':' :: (padded 2 second ++ ['Z'])))))

theorem run?_freeTime {date : Date} {hour minute second : Nat} (hmonth : date.month < 100)
    (hday : date.day < 100) (hhour : hour < 100) (hminute : minute < 100) (hsecond : second < 100) :
    freeTime.run? (utcChars date hour minute second) =
      some (⟨date, hour, minute, second, 0, 0⟩, []) := by
  have hend : blanks.run? ['Z'] = some ((), ['Z']) := run?_blanks_cons (by decide) []
  have hoffset : ((do universalWord; return 0 : Scanner Int) <|>
      offset (discard (Scanner.takeWhile fun c => c == ':' || isBlank c))).run? ['Z'] =
      some (0, []) := by
    rw [run?_orElse, run?_offset_end]
    rfl
  have hhyphen : ∀ rest, blanks.run? ('-' :: rest) = some ((), '-' :: rest) :=
    run?_blanks_cons (by decide)
  have hcolon : ∀ rest, blanks.run? (':' :: rest) = some ((), ':' :: rest) :=
    run?_blanks_cons (by decide)
  rw [utcChars, freeTime, run?_bind_of_some (run?_freeYear _ _), run?_bind_of_some (hhyphen _),
    run?_bind_of_some (run?_exactly _ _), run?_bind_of_some (run?_freeNumber hmonth _),
    run?_bind_of_some (hhyphen _), run?_bind_of_some (run?_exactly _ _),
    run?_bind_of_some (run?_freeNumber hday _), run?_bind_of_some (run?_dateSeparator _),
    run?_bind_of_some (run?_freeNumber hhour _), run?_bind_of_some (hcolon _),
    run?_bind_of_some (run?_exactly _ _), run?_bind_of_some (run?_freeNumber hminute _),
    run?_bind_of_some (hcolon _), run?_bind_of_some (run?_exactly _ _),
    run?_bind_of_some (run?_freeNumber hsecond _), run?_bind_of_some run?_fraction_end,
    run?_bind_of_some hend, run?_bind_of_some hoffset]
  rfl

/-! ## What has been read -/

/-- A leap second ends its minute. -/
structure Readable (instant : Instant) : Prop where
  year : hasYear instant.date.year = true
  nanos : instant.nanos < 2 * secondNanos
  leap : secondNanos ≤ instant.nanos → instant.seconds % 60 = 59

theorem ofDigitChars_lt {digits : List Char} (h : ∀ c ∈ digits, c.isDigit = true) (start : Nat) :
    Nat.ofDigitChars 10 digits start < (start + 1) * 10 ^ digits.length := by
  induction digits generalizing start with
  | nil => simp
  | cons c rest ih =>
    have hdigit : c.toNat - '0'.toNat ≤ 9 := by
      have hbounds := bounds_of_isDigit (h c List.mem_cons_self)
      have hzero : '0'.toNat = 48 := rfl
      omega
    have hrest := ih (fun other hmem => h other (List.mem_cons_of_mem _ hmem))
      (10 * start + (c.toNat - '0'.toNat))
    rw [Nat.ofDigitChars_cons, List.length_cons, Nat.pow_succ]
    calc Nat.ofDigitChars 10 rest (10 * start + (c.toNat - '0'.toNat))
        < (10 * start + (c.toNat - '0'.toNat) + 1) * 10 ^ rest.length := hrest
      _ ≤ ((start + 1) * 10) * 10 ^ rest.length := Nat.mul_le_mul_right _ (by omega)
      _ = (start + 1) * (10 ^ rest.length * 10) := by
        rw [Nat.mul_assoc, Nat.mul_comm 10]

theorem yields_fraction : Yields fraction (· < secondNanos) := by
  refine .bind (.any _) fun pointed _ => ?_
  cases pointed with
  | false => exact .pure (by decide)
  | true =>
    refine .bind (.takeWhile _) fun digits hdigits => .guard_bind fun _ => .pure ?_
    have hkept : ∀ c ∈ digits.take 9 ++ List.replicate (9 - (digits.take 9).length) '0',
        c.isDigit = true := by
      intro c hc
      rcases List.mem_append.1 hc with hmem | hzero
      · exact hdigits c (List.mem_of_mem_take hmem)
      · rw [List.eq_of_mem_replicate hzero]
        decide
    have hlength : (digits.take 9 ++ List.replicate (9 - (digits.take 9).length) '0').length = 9 := by
      simp only [List.length_append, List.length_take, List.length_replicate]
      omega
    have hlt := ofDigitChars_lt hkept 0
    rw [hlength] at hlt
    exact hlt

theorem yields_offset (between : Scanner Unit) : Yields (offset between) fun offset => offset % 60 = 0 := by
  refine .orElse (.bind (.any _) fun _ _ => .pure rfl) ?_
  refine .bind (.any _) fun negative _ => .bind (.any _) fun hours _ => .bind (.any _) fun _ _ =>
    .bind (.any _) fun minutes _ => .guard_bind fun _ => .pure ?_
  cases negative <;> simp <;> omega

theorem yields_freeTime :
    Yields freeTime fun fields => fields.nanos < secondNanos ∧ fields.offset % 60 = 0 := by
  have huniversal : Yields (do universalWord; return 0 : Scanner Int) fun offset => offset % 60 = 0 :=
    .bind (.any _) fun _ _ => .pure rfl
  refine .bind (.any _) fun year _ => .bind (.any _) fun _ _ => .bind (.any _) fun _ _ =>
    .bind (.any _) fun month _ => .bind (.any _) fun _ _ => .bind (.any _) fun _ _ =>
    .bind (.any _) fun day _ => .bind (.any _) fun _ _ => .bind (.any _) fun hour _ =>
    .bind (.any _) fun _ _ => .bind (.any _) fun _ _ => .bind (.any _) fun minute _ =>
    .bind (.any _) fun _ _ => .bind (.any _) fun _ _ => .bind (.any _) fun second _ =>
    .bind yields_fraction fun nanos hnanos => .bind (.any _) fun _ _ =>
    .bind (huniversal.orElse (yields_offset _)) fun offset hoffset => .bind (.any _) fun _ _ =>
    .bind (.any _) fun _ _ => .pure ⟨hnanos, hoffset⟩

def ofWall (fields : TimeFields) : Instant :=
  ⟨fields.date.dayNumber * daySeconds +
      (fields.hour * 3600 + fields.minute * 60 + min fields.second 59 : Nat) - fields.offset,
    if fields.second = 60 then fields.nanos + secondNanos else fields.nanos⟩

theorem ofFields?_eq_some_iff {fields : TimeFields} {instant : Instant} :
    ofFields? fields = some instant ↔
      (hasYear fields.date.year = true ∧ fields.date.isValid = true) ∧
      (fields.hour ≤ 23 ∧ fields.minute ≤ 59 ∧ fields.second ≤ 60) ∧ fields.offset.natAbs < 86400 ∧
      hasYear (ofWall fields).date.year = true ∧ ofWall fields = instant := by
  simp [ofFields?, ofWall, guard, Option.bind_eq_some_iff]

theorem readable_of_ofFields? {fields : TimeFields} {instant : Instant}
    (h : ofFields? fields = some instant) (hnanos : fields.nanos < secondNanos)
    (hoffset : fields.offset % 60 = 0) : Readable instant := by
  obtain ⟨_, hclock, _, hyear, rfl⟩ := ofFields?_eq_some_iff.1 h
  have hsize : secondNanos = 1000000000 := rfl
  refine ⟨hyear, ?_, fun hleap => ?_⟩
  · simp only [ofWall]
    split <;> omega
  · simp only [ofWall, daySeconds] at *
    split at hleap <;> omega

theorem readable_of_ofFreeText? {text : String} {instant : Instant}
    (h : ofFreeText? text = some instant) : Readable instant := by
  obtain ⟨⟨fields, rest⟩, hrun, hfields⟩ := Option.bind_eq_some_iff.1 h
  obtain ⟨hnanos, hoffset⟩ := yields_freeTime _ _ _ hrun
  exact readable_of_ofFields? hfields hnanos hoffset

theorem toSecondText_toList (instant : Instant) :
    let second := (instant.seconds % daySeconds).toNat
    instant.toSecondText.toList = utcChars instant.date (second / 3600) (second / 60 % 60)
      (second % 60 + instant.nanos / secondNanos) := by
  simp [toSecondText, wholeChars, utcChars]

/-- The fraction is lost, and nothing else. -/
theorem ofFreeText?_toSecondText {instant : Instant} (h : Readable instant) :
    ofFreeText? instant.toSecondText =
      some ⟨instant.seconds, instant.nanos / secondNanos * secondNanos⟩ := by
  obtain ⟨second, hsecond⟩ : ∃ second, (instant.seconds % daySeconds).toNat = second := ⟨_, rfl⟩
  obtain ⟨leap, hleap⟩ : ∃ leap, instant.nanos / secondNanos = leap := ⟨_, rfl⟩
  have hvalid : instant.date.isValid = true := Date.isValid_ofDayNumber _
  obtain ⟨hmonth, hday⟩ := Date.bounds_of_isValid hvalid
  have hbound : second < 86400 ∧ instant.seconds % 86400 = second := by
    rw [daySeconds] at hsecond
    omega
  -- A leap second is written as the second 60 of its minute.
  have hone : leap ≤ 1 ∧ (leap = 1 → second % 60 = 59) := by
    have hnanos := h.nanos
    have hlast := h.leap
    rw [secondNanos] at *
    omega
  have hnumber : instant.date.dayNumber = instant.seconds / daySeconds := Date.dayNumber_ofDayNumber _
  have hwall : ofWall ⟨instant.date, second / 3600, second / 60 % 60, second % 60 + leap, 0, 0⟩ =
      ⟨instant.seconds, leap * secondNanos⟩ := by
    simp only [ofWall, hnumber, daySeconds, Instant.mk.injEq]
    refine ⟨by omega, ?_⟩
    split
    · obtain rfl : leap = 1 := by omega
      rw [Nat.zero_add, Nat.one_mul]
    · obtain rfl : leap = 0 := by omega
      rw [Nat.zero_mul]
  rw [ofFreeText?, read?, toSecondText_toList, hsecond, hleap,
    run?_freeTime (by omega) (by omega) (by omega) (by omega) (by omega), Option.bind_some,
    ofFields?_eq_some_iff, hwall]
  exact ⟨⟨h.year, hvalid⟩, by dsimp only; omega, (by decide : (0 : Int).natAbs < 86400), h.year, rfl⟩

theorem exists_ofFreeText?_toSecondText {text : String} {instant : Instant}
    (h : ofFreeText? text = some instant) :
    ∃ again, ofFreeText? instant.toSecondText = some again ∧
      again.toSecondText = instant.toSecondText := by
  have hreadable := readable_of_ofFreeText? h
  have hsize : 0 < secondNanos := by decide
  refine ⟨_, ofFreeText?_toSecondText hreadable, ?_⟩
  simp only [toSecondText, wholeChars, date, Nat.mul_div_cancel _ hsize]

end Instant
end EtcdFleet
