import EtcdFleet.Proofs.InstantTexts

set_option autoImplicit false

/-!
# Written times

A time as RFC 3339 writes it, with what may be chosen: the letter before the hour, the digits of the fraction, the
zone and how it is written. Each reads as the instant that it stands for, to the nanosecond.
-/

namespace EtcdFleet.Instant

open Calendar Text Scanner

inductive Zone
  | universal (mark : Char) (known : mark = 'Z' ∨ mark = 'z')
  | ahead (hours minutes : Nat) (hours_le : hours ≤ 23) (minutes_le : minutes ≤ 59)
  | behind (hours minutes : Nat) (hours_le : hours ≤ 23) (minutes_le : minutes ≤ 59)

namespace Zone

def seconds : Zone → Int
  | universal .. => 0
  | ahead hours minutes .. => (hours * 3600 + minutes * 60 : Nat)
  | behind hours minutes .. => -(hours * 3600 + minutes * 60 : Nat)

def clockChars (hours minutes : Nat) : List Char := padded 2 hours ++ ':' :: padded 2 minutes

def chars : Zone → List Char
  | universal mark _ => [mark]
  | ahead hours minutes .. => '+' :: clockChars hours minutes
  | behind hours minutes .. => '-' :: clockChars hours minutes

end Zone

structure Stamp where
  year : Nat
  month : Nat
  day : Nat
  hour : Nat
  minute : Nat
  /-- The sixtieth is a leap second. -/
  second : Nat
  /-- The digits after the point, which is left out with them. -/
  fraction : List Char
  separator : Char
  zone : Zone
  year_le : year ≤ 9999
  date_valid : (Date.mk year month day).isValid = true
  hour_le : hour ≤ 23
  minute_le : minute ≤ 59
  second_le : second ≤ 60
  fraction_digits : ∀ c ∈ fraction, c.isDigit = true
  separator_known : separator = 'T' ∨ separator = 't' ∨ separator = ' '

namespace Stamp

variable (stamp : Stamp)

def pointChars : List Char := if stamp.fraction = [] then [] else '.' :: stamp.fraction

def text : String :=
  String.ofList (padded 4 stamp.year ++ '-' :: (padded 2 stamp.month ++ '-' ::
    (padded 2 stamp.day ++ stamp.separator :: (padded 2 stamp.hour ++ ':' ::
      (padded 2 stamp.minute ++ ':' :: (padded 2 stamp.second ++ (stamp.pointChars ++
        stamp.zone.chars)))))))

def date : Date := ⟨stamp.year, stamp.month, stamp.day⟩

def nanos : Nat :=
  Nat.ofDigitChars 10 stamp.fraction 0 * secondNanos / 10 ^ stamp.fraction.length

/-- The instant that it stands for; a leap second goes on from the second before. -/
def instant : Instant where
  seconds := stamp.date.dayNumber * daySeconds +
    (stamp.hour * 3600 + stamp.minute * 60 + min stamp.second 59 : Nat) - stamp.zone.seconds
  nanos := if stamp.second = 60 then stamp.nanos + secondNanos else stamp.nanos

def fields : TimeFields :=
  ⟨stamp.date, stamp.hour, stamp.minute, stamp.second, stamp.nanos, stamp.zone.seconds⟩

end Stamp

/-! ## Reading the parts -/

theorem run?_twoDigits {n : Nat} (h : n < 100) (rest : List Char) :
    twoDigits.run? (padded 2 n ++ rest) = some (n, rest) := by
  have hlength : (padded 2 n).length = 2 := length_padded (by decide) h
  exact run?_number_padded (by omega) (.inl hlength)

theorem run?_knownSeparator {separator : Char}
    (h : separator = 'T' ∨ separator = 't' ∨ separator = ' ') (rest : List Char) :
    dateSeparator.run? (separator :: rest) = some ((), rest) := by
  rcases h with rfl | rfl | rfl <;> rfl

theorem ofDigitChars_short {digits : List Char} (h : digits.length ≤ 9) :
    10 ^ (9 - digits.length) * Nat.ofDigitChars 10 digits 0 =
      Nat.ofDigitChars 10 digits 0 * secondNanos / 10 ^ digits.length := by
  have hsplit : secondNanos = 10 ^ (9 - digits.length) * 10 ^ digits.length := by
    rw [← Nat.pow_add, Nat.sub_add_cancel h]
    rfl
  rw [hsplit, ← Nat.mul_assoc, Nat.mul_div_cancel _ (Nat.pow_pos (by decide)), Nat.mul_comm]

/-- What follows the ninth digit is less than a nanosecond. -/
theorem ofDigitChars_long {digits : List Char} (h : 9 ≤ digits.length)
    (hdigits : ∀ c ∈ digits, c.isDigit = true) :
    Nat.ofDigitChars 10 (digits.take 9) 0 =
      Nat.ofDigitChars 10 digits 0 * secondNanos / 10 ^ digits.length := by
  obtain ⟨rest, hrest⟩ : ∃ rest, digits.drop 9 = rest := ⟨_, rfl⟩
  have hsplit : digits.take 9 ++ rest = digits := hrest ▸ List.take_append_drop 9 digits
  have hlength : digits.length = rest.length + 9 := by
    rw [← hrest, List.length_drop]
    omega
  have hsmall : Nat.ofDigitChars 10 rest 0 < 10 ^ rest.length := by
    have hlt := @ofDigitChars_lt rest
      (fun c hc => hdigits c (hsplit ▸ List.mem_append_right _ hc)) 0
    omega
  have hpower : 10 ^ digits.length = 10 ^ rest.length * secondNanos := by
    rw [hlength, Nat.pow_add]
    rfl
  have hwhole : Nat.ofDigitChars 10 digits 0 =
      10 ^ rest.length * Nat.ofDigitChars 10 (digits.take 9) 0 + Nat.ofDigitChars 10 rest 0 := by
    rw [← hsplit, Nat.ofDigitChars_append, Nat.ofDigitChars_eq_ofDigitChars_zero, hsplit]
  rw [hpower, Nat.mul_div_mul_right _ _ (by decide), hwhole, Nat.mul_add_div (by omega),
    Nat.div_eq_of_lt hsmall, Nat.add_zero]

theorem ofDigitChars_nine {digits : List Char} (h : ∀ c ∈ digits, c.isDigit = true) :
    Nat.ofDigitChars 10 (digits.take 9 ++ List.replicate (9 - (digits.take 9).length) '0') 0 =
      Nat.ofDigitChars 10 digits 0 * secondNanos / 10 ^ digits.length := by
  rw [Nat.ofDigitChars_append, Nat.ofDigitChars_replicate_zero, List.length_take]
  rcases Nat.le_total digits.length 9 with hlength | hlength
  · rw [List.take_of_length_le hlength, Nat.min_eq_right hlength, ofDigitChars_short hlength]
  · rw [Nat.min_eq_left hlength, Nat.sub_self, Nat.pow_zero, Nat.one_mul,
      ofDigitChars_long hlength h]

theorem Zone.exists_head (zone : Zone) :
    ∃ c rest, zone.chars = c :: rest ∧ c ≠ '.' ∧ c.isDigit = false := by
  cases zone with
  | universal mark known =>
    refine ⟨mark, [], rfl, ?_⟩
    rcases known with rfl | rfl <;> decide
  | ahead hours minutes _ _ => exact ⟨'+', _, rfl, by decide⟩
  | behind hours minutes _ _ => exact ⟨'-', _, rfl, by decide⟩

theorem run?_fraction (stamp : Stamp) :
    fraction.run? (stamp.pointChars ++ stamp.zone.chars) = some (stamp.nanos, stamp.zone.chars) := by
  obtain ⟨c, rest, hchars, hpoint, hdigit⟩ := stamp.zone.exists_head
  rw [hchars, Stamp.pointChars, Stamp.nanos]
  by_cases hfraction : stamp.fraction = []
  · have hnot : ['.'].isPrefixOf (c :: rest) = false := by
      simp [List.isPrefixOf, Ne.symm hpoint]
    rw [if_pos hfraction, hfraction, fraction, List.nil_append,
      run?_bind_of_some (run?_optionally_of_not hnot)]
    rfl
  · have hpointed : (optionally ['.']).run? ('.' :: stamp.fraction ++ c :: rest) =
        some (true, stamp.fraction ++ c :: rest) := rfl
    have htaken : (takeWhile Char.isDigit).run? (stamp.fraction ++ c :: rest) =
        some (stamp.fraction, c :: rest) := 
      run?_takeWhile_append stamp.fraction_digits fun _ hc => Option.mem_some_iff.1 hc ▸ hdigit
    rw [if_neg hfraction, ← ofDigitChars_nine stamp.fraction_digits, fraction, run?_bind_of_some hpointed]
    have hsome : (!stamp.fraction.isEmpty) = true := by simpa using hfraction
    exact (run?_bind_of_some htaken _).trans (run?_bind_of_some (run?_guard hsome _) _)

theorem run?_offset_signed {sign : Char} {negative : Bool} {hours minutes : Nat}
    (hsign : sign = '+' ∧ negative = false ∨ sign = '-' ∧ negative = true) (hhours : hours ≤ 23)
    (hminutes : minutes ≤ 59) :
    (offset (exactly [':'])).run? (sign :: Zone.clockChars hours minutes) =
      some (if negative then -((hours * 3600 + minutes * 60 : Nat) : Int)
        else (hours * 3600 + minutes * 60 : Nat), []) := by
  have hletter : (do exactly ['Z'] <|> exactly ['z']; return 0 : Scanner Int).run?
      (sign :: Zone.clockChars hours minutes) = none := by
    rcases hsign with ⟨rfl, _⟩ | ⟨rfl, _⟩ <;> rfl
  have hnegative : isNegative.run? (sign :: Zone.clockChars hours minutes) =
      some (negative, Zone.clockChars hours minutes) := by
    rcases hsign with ⟨rfl, rfl⟩ | ⟨rfl, rfl⟩ <;> rfl
  have hlast := run?_twoDigits (n := minutes) (by omega) []
  rw [List.append_nil] at hlast
  rw [offset, run?_orElse, hletter, Option.none_or, run?_bind_of_some hnegative, Zone.clockChars,
    run?_bind_of_some (run?_twoDigits (by omega) _), run?_bind_of_some (run?_exactly _ _),
    run?_bind_of_some hlast, run?_bind_of_some (run?_guard hminutes _)]
  rfl

theorem run?_offset (zone : Zone) :
    (offset (exactly [':'])).run? zone.chars = some (zone.seconds, []) := by
  cases zone with
  | universal mark known => rcases known with rfl | rfl <;> rfl
  | ahead hours minutes hhours hminutes =>
    exact run?_offset_signed (.inl ⟨rfl, rfl⟩) hhours hminutes
  | behind hours minutes hhours hminutes =>
    exact run?_offset_signed (.inr ⟨rfl, rfl⟩) hhours hminutes

theorem run?_fourDigits {n : Nat} (h : n ≤ 9999) (rest : List Char) :
    (number 4 4).run? (padded 4 n ++ rest) = some (n, rest) := by
  have hlength : (padded 4 n).length = 4 := length_padded (by decide) (by omega)
  exact run?_number_padded (by omega) (.inl hlength)

theorem run?_exactTime (stamp : Stamp) :
    exactTime.run? stamp.text.toList = some (stamp.fields, []) := by
  obtain ⟨hmonth, hday⟩ := Date.bounds_of_isValid stamp.date_valid
  dsimp only at hmonth hday
  have hhour := stamp.hour_le
  have hminute := stamp.minute_le
  have hsecond := stamp.second_le
  rw [Stamp.text, String.toList_ofList, exactTime,
    run?_bind_of_some (run?_fourDigits stamp.year_le _), run?_bind_of_some (run?_exactly _ _),
    run?_bind_of_some (run?_twoDigits (by omega) _), run?_bind_of_some (run?_exactly _ _),
    run?_bind_of_some (run?_twoDigits (by omega) _),
    run?_bind_of_some (run?_knownSeparator stamp.separator_known _),
    run?_bind_of_some (run?_twoDigits (by omega) _), run?_bind_of_some (run?_exactly _ _),
    run?_bind_of_some (run?_twoDigits (by omega) _), run?_bind_of_some (run?_exactly _ _),
    run?_bind_of_some (run?_twoDigits (by omega) _), run?_bind_of_some (run?_fraction stamp),
    run?_bind_of_some (run?_offset stamp.zone)]
  rfl

/-! ## The instant -/

theorem Zone.natAbs_seconds_le (zone : Zone) : zone.seconds.natAbs ≤ 86340 := by
  cases zone with
  | universal mark known => exact Nat.zero_le _
  | ahead hours minutes hhours hminutes =>
    rw [seconds]
    omega
  | behind hours minutes hhours hminutes =>
    rw [seconds]
    omega

theorem hasYear_iff {year : Int} : hasYear year = true ↔ -262143 ≤ year ∧ year ≤ 262142 := by
  simp [hasYear]

/-- The days of the years of four digits, and those next to them, have instants. -/
theorem hasYear_ofDayNumber {number : Int} (h : number.natAbs ≤ 3000000) :
    hasYear (Date.ofDayNumber number).year = true := by
  obtain ⟨century, run, year, dayOfYear, hplace⟩ := Date.exists_place number
  rw [Date.ofDayNumber_eq_ofMarch hplace, hasYear_iff]
  obtain ⟨hday, hcentury, hrun, hyear, hdays, hleap⟩ := hplace
  simp only [Date.cycleStart, Date.daysInCycle, Date.ofMarch] at *
  split <;> omega

theorem natAbs_dayNumber_le {date : Date} (hyear : 0 ≤ date.year ∧ date.year ≤ 9999)
    (hmonth : date.month ≤ 12) (hday : date.day ≤ 31) : date.dayNumber.natAbs ≤ 2999999 := by
  simp only [Date.dayNumber, Date.cycleStart, Date.daysInCycle]
  split <;> omega

theorem ofExactText?_text (stamp : Stamp) : ofExactText? stamp.text = some stamp.instant := by
  obtain ⟨hmonth, hday⟩ := Date.bounds_of_isValid stamp.date_valid
  have hyear : 0 ≤ stamp.date.year ∧ stamp.date.year ≤ 9999 :=
    ⟨Int.natCast_nonneg _, Int.ofNat_le.2 stamp.year_le⟩
  have hknown : hasYear stamp.date.year = true := hasYear_iff.2 ⟨by omega, by omega⟩
  have hnumber := natAbs_dayNumber_le hyear hmonth hday
  have hzone := stamp.zone.natAbs_seconds_le
  have hhour := stamp.hour_le
  have hminute := stamp.minute_le
  rw [ofExactText?, read?, run?_exactTime, Option.bind_some, ofFields?_eq_some_iff]
  refine ⟨⟨hknown, stamp.date_valid⟩, ⟨hhour, hminute, stamp.second_le⟩,
    Nat.lt_of_le_of_lt hzone (by decide), hasYear_ofDayNumber ?_, rfl⟩
  simp only [ofWall, Stamp.fields, daySeconds]
  omega

end EtcdFleet.Instant
