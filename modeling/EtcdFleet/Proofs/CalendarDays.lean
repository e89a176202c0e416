import EtcdFleet.Time.Calendar

set_option autoImplicit false

/-!
# Days and dates

The date of a day is a date of the calendar, and its day is the day that it was made of. A cycle of 400 years has
four centuries, a century has runs of four years, and a year that begins in March ends with the leap day if it has
one: at the end of a run, but of a century only if the cycle ends with it.
-/

namespace EtcdFleet.Calendar.Date

/-- A day of a cycle by its century, its run of four years, its year in the run and its day in the year. -/
structure CyclePlace (day century run year dayOfYear : Int) : Prop where
  day_eq : day = 36524 * century + 1461 * run + 365 * year + dayOfYear
  centuries : 0 ≤ century ∧ century ≤ 3
  runs : 0 ≤ run ∧ run ≤ 24
  years : 0 ≤ year ∧ year ≤ 3
  days : 0 ≤ dayOfYear ∧ dayOfYear ≤ 365
  leapDay : dayOfYear = 365 → year = 3 ∧ (run < 24 ∨ century = 3)

variable {day century run year dayOfYear : Int}

theorem exists_cyclePlace (hleast : 0 ≤ day) (hmost : day < daysInCycle) :
    ∃ century run year dayOfYear, CyclePlace day century run year dayOfYear := by
  rw [daysInCycle] at hmost
  obtain ⟨century, hcentury⟩ : ∃ century, century = min (day / 36524) 3 := ⟨_, rfl⟩
  obtain ⟨left, hleft⟩ : ∃ left, left = day - 36524 * century := ⟨_, rfl⟩
  obtain ⟨year, hyear⟩ : ∃ year, year = min (left % 1461 / 365) 3 := ⟨_, rfl⟩
  refine ⟨century, left / 1461, year, left % 1461 - 365 * year, ?_⟩
  constructor <;> omega

/-- The years before the day, counted over the leap days before it. -/
theorem CyclePlace.yearOfCycle_eq (h : CyclePlace day century run year dayOfYear) :
    (day - day / 1460 + day / 36524 - day / 146096) / 365 = 100 * century + 4 * run + year := by
  obtain ⟨hday, hcentury, hrun, hyear, hdays, hleap⟩ := h
  -- Century by century: the leap day at the end of the cycle is in none but the last.
  have hlong : day / 36524 = century + day / 146096 := by
    obtain rfl | rfl | rfl | rfl : century = 0 ∨ century = 1 ∨ century = 2 ∨ century = 3 := by omega
    all_goals omega
  have hshort : day / 1460 =
      25 * century + run + (24 * century + run + 365 * year + dayOfYear) / 1460 := by omega
  have hleast : 0 ≤ dayOfYear - (24 * century + run + 365 * year + dayOfYear) / 1460 := by omega
  have hmost : dayOfYear - (24 * century + run + 365 * year + dayOfYear) / 1460 ≤ 364 := by omega
  omega

theorem CyclePlace.dayOfYear_eq (h : CyclePlace day century run year dayOfYear) :
    day - (365 * (100 * century + 4 * run + year) + (100 * century + 4 * run + year) / 4 -
      (100 * century + 4 * run + year) / 100) = dayOfYear := by
  obtain ⟨hday, hcentury, hrun, hyear, hdays, hleap⟩ := h
  omega

/-- The date of a day of a year that begins in March. -/
def ofMarch (year dayOfYear : Int) : Date :=
  let month := (5 * dayOfYear + 2) / 153
  { year := if month < 10 then year else year + 1
    month := (if month < 10 then month + 3 else month - 9).toNat
    day := (dayOfYear - (153 * month + 2) / 5 + 1).toNat }

theorem ofDayNumber_eq_ofMarch {number : Int}
    (h : CyclePlace ((number + cycleStart) % daysInCycle) century run year dayOfYear) :
    ofDayNumber number =
      ofMarch (100 * century + 4 * run + year + (number + cycleStart) / daysInCycle * 400) dayOfYear := by
  simp only [ofDayNumber, h.yearOfCycle_eq, h.dayOfYear_eq, ofMarch]

theorem month_bounds {month : Int} (h : 0 ≤ dayOfYear ∧ dayOfYear ≤ 365)
    (hmonth : (5 * dayOfYear + 2) / 153 = month) :
    0 ≤ month ∧ month ≤ 11 ∧ (153 * month + 2) / 5 ≤ dayOfYear ∧
      dayOfYear < (153 * (month + 1) + 2) / 5 := by
  omega

theorem dayNumber_ofMarch (year : Int) (h : 0 ≤ dayOfYear ∧ dayOfYear ≤ 365) :
    (ofMarch year dayOfYear).dayNumber =
      year / 400 * daysInCycle + year % 400 * 365 + year % 400 / 4 - year % 400 / 100 + dayOfYear -
        cycleStart := by
  obtain ⟨month, hmonth⟩ : ∃ month, (5 * dayOfYear + 2) / 153 = month := ⟨_, rfl⟩
  obtain ⟨hleast, hmost, hbefore, hafter⟩ := month_bounds h hmonth
  simp only [ofMarch, dayNumber, hmonth]
  by_cases hlate : month < 10
  · have hnumber : ¬ (month + 3).toNat ≤ 2 := by omega
    simp only [if_pos hlate, if_neg hnumber]
    omega
  · have hnumber : (month - 9).toNat ≤ 2 := by omega
    simp only [if_neg hlate, if_pos hnumber, Int.add_sub_cancel]
    omega

theorem isValid_ofMarch (h : 0 ≤ dayOfYear ∧ dayOfYear ≤ 365)
    (hleap : dayOfYear = 365 → isLeapYear (year + 1) = true) : (ofMarch year dayOfYear).isValid = true := by
  obtain ⟨month, hmonth⟩ : ∃ month, (5 * dayOfYear + 2) / 153 = month := ⟨_, rfl⟩
  obtain ⟨hleast, hmost, hbefore, hafter⟩ := month_bounds h hmonth
  simp only [ofMarch, isValid, hmonth, Bool.and_eq_true, decide_eq_true_eq, daysInMonth]
  clear hmonth
  by_cases hfebruary : month = 11
  · subst hfebruary
    cases hyear : isLeapYear (year + 1) <;> simp [hyear] at * <;> omega
  · have hmonths : month = 0 ∨ month = 1 ∨ month = 2 ∨ month = 3 ∨ month = 4 ∨ month = 5 ∨
        month = 6 ∨ month = 7 ∨ month = 8 ∨ month = 9 ∨ month = 10 := by omega
    rcases hmonths with rfl | rfl | rfl | rfl | rfl | rfl | rfl | rfl | rfl | rfl | rfl <;>
      simp <;> omega

theorem bounds_of_isValid {date : Date} (h : date.isValid = true) : date.month ≤ 12 ∧ date.day ≤ 31 := by
  have hdays : daysInMonth date.year date.month ≤ 31 := by
    rw [daysInMonth]
    split
    · split <;> decide
    · split <;> decide
  simp only [isValid, Bool.and_eq_true, decide_eq_true_eq] at h
  omega

theorem exists_place (number : Int) :
    ∃ century run year dayOfYear,
      CyclePlace ((number + cycleStart) % daysInCycle) century run year dayOfYear :=
  exists_cyclePlace (Int.emod_nonneg _ (by decide)) (Int.emod_lt_of_pos _ (by decide))

theorem dayNumber_ofDayNumber (number : Int) : (ofDayNumber number).dayNumber = number := by
  obtain ⟨century, run, year, dayOfYear, h⟩ := exists_place number
  rw [ofDayNumber_eq_ofMarch h, dayNumber_ofMarch _ h.days]
  have hback := h.dayOfYear_eq
  obtain ⟨hday, hcentury, hrun, hyear, hdays, hleap⟩ := h
  have hbound : 0 ≤ 100 * century + 4 * run + year ∧ 100 * century + 4 * run + year < 400 := by omega
  generalize 100 * century + 4 * run + year = years at *
  have hcycle : (years + (number + cycleStart) / daysInCycle * 400) / 400 =
    (number + cycleStart) / daysInCycle := by omega
  have hyears : (years + (number + cycleStart) / daysInCycle * 400) % 400 = years := by omega
  rw [hcycle, hyears]
  simp only [daysInCycle, cycleStart] at *
  omega

theorem isValid_ofDayNumber (number : Int) : (ofDayNumber number).isValid = true := by
  obtain ⟨century, run, year, dayOfYear, h⟩ := exists_place number
  rw [ofDayNumber_eq_ofMarch h]
  refine isValid_ofMarch h.days fun hlast => ?_
  obtain ⟨hday, hcentury, hrun, hyear, hdays, hleap⟩ := h
  have hend := hleap hlast
  generalize (number + cycleStart) / daysInCycle = cycle at *
  simp only [isLeapYear, Bool.and_eq_true, Bool.or_eq_true, beq_iff_eq, bne_iff_ne]
  omega

end EtcdFleet.Calendar.Date
