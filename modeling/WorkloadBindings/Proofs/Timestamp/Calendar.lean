import Mathlib.Tactic.IntervalCases
import WorkloadBindings.Timestamp.Basic

/-!
# The calendar

A day is the one that its number says (`Timestamp.Day.number_ofNumber`), and one that its month has
(`Timestamp.Day.isValid_ofNumber`). Numbers are counted in eras of 400 years that begin with a March.
Inside an era the number of a year is guessed from that of the day by taking out the leap days of all
years before it. The guess grows with the day (`guess_mono`), so that it is right on all days of a
year when it is on its first day and on the last one before it, and that is looked up (`guess_start`,
`guess_before`).
-/

namespace WorkloadBindings.Timestamp

/-! ## Years of an era -/

/-- The first day of a year of an era. -/
def yearStart (y : Nat) : Nat := 365 * y + y / 4 - y / 100

/-- The days of an era before a day, without the leap days among them. -/
def guess (d : Nat) : Nat := d - d / 1460 + d / 36524 - d / 146096

theorem guess_mono {a b : Nat} (h : a ≤ b) (hb : b < 146097) : guess a ≤ guess b := by
  have hleap : a - a / 1460 ≤ b - b / 1460 := by omega
  have hcentury : a / 36524 ≤ b / 36524 := Nat.div_le_div_right h
  -- The last leap day is that of the era itself, on its last day.
  unfold guess
  rcases Nat.lt_or_ge b 146096 with hlt | hge
  · rw [Nat.div_eq_of_lt hlt, Nat.div_eq_of_lt (lt_of_le_of_lt h hlt)]
    omega
  · obtain rfl : b = 146096 := by omega
    omega

/-- On the first day of a year the guess has reached the year. -/
theorem guess_start : ∀ y < 400, 365 * y ≤ guess (yearStart y) := by decide +kernel

/-- On the day before the first one of a year the guess has not reached the year. -/
theorem guess_before : ∀ y < 400, 0 < y → guess (yearStart y - 1) < 365 * y := by decide +kernel

/-- A day of an era lies in the year that is guessed. -/
theorem yearStart_le_of_guess {d : Nat} (hd : d < 146097) :
    guess d / 365 < 400 ∧ yearStart (guess d / 365) ≤ d ∧
      (guess d / 365 < 399 → d < yearStart (guess d / 365 + 1)) := by
  have hlast : guess d ≤ guess 146096 := guess_mono (by omega) (by omega)
  have hyear : guess d / 365 < 400 := by
    have hend : guess 146096 = 145999 := by decide
    omega
  refine ⟨hyear, ?_, fun hnext => ?_⟩
  · by_contra hlt
    have hpos : 0 < guess d / 365 := by
      rcases Nat.eq_zero_or_pos (guess d / 365) with hzero | hpos
      · rw [hzero] at hlt
        exact absurd (Nat.zero_le d) hlt
      · exact hpos
    have hbefore := guess_before _ hyear hpos
    have hle : guess d ≤ guess (yearStart (guess d / 365) - 1) := by
      refine guess_mono (by omega) ?_
      unfold yearStart
      omega
    omega
  · by_contra hge
    have hstart := guess_start (guess d / 365 + 1) (by omega)
    have hle : guess (yearStart (guess d / 365 + 1)) ≤ guess d := guess_mono (by omega) hd
    omega

namespace Day

/-! ## Days of a year -/

/-- A day by its year and its number in the year, both counted from March. -/
def ofYearDay (year : Int) (dayOfYear : Nat) : Day :=
  let shifted := (5 * dayOfYear + 2) / 153
  let month := if shifted < 10 then shifted + 3 else shifted - 9
  ⟨if month ≤ 2 then year + 1 else year, month, dayOfYear - (153 * shifted + 2) / 5 + 1⟩

/-- The day of a number, in its era, year and place in the year; only a leap day is the last of 366. -/
structure IsNumbered (n : Int) (era : Int) (y dayOfYear : Nat) : Prop where
  year : y < 400
  within : dayOfYear ≤ 365
  leap : dayOfYear = 365 → isLeapYear (era * 400 + y + 1) = true
  number : n = era * 146097 + (yearStart y + dayOfYear : Nat) - 719468
  day : ofNumber n = ofYearDay (y + era * 400) dayOfYear

/-- Every number has a day. -/
theorem exists_isNumbered (n : Int) : ∃ era y dayOfYear, IsNumbered n era y dayOfYear := by
  obtain ⟨d, hd⟩ : ∃ d : Nat, (n + 719468) % 146097 = d := ⟨((n + 719468) % 146097).toNat, by omega⟩
  have hlt : d < 146097 := by omega
  obtain ⟨hyear, hstart, hnext⟩ := yearStart_le_of_guess hlt
  obtain ⟨y, hy⟩ : ∃ y, guess d / 365 = y := ⟨_, rfl⟩
  rw [hy] at hyear hstart hnext
  unfold yearStart at hstart hnext
  refine ⟨(n + 719468) / 146097, y, d - yearStart y, ⟨hyear, ?_, ?_, ?_, ?_⟩⟩
  · unfold yearStart
    omega
  · intro hlast
    unfold yearStart at hlast
    have hleap : (y + 1) % 4 = 0 ∧ ((y + 1) % 100 ≠ 0 ∨ y = 399) := by
      by_cases hera : y = 399
      · omega
      · -- The year after this one begins 366 days later.
        have hlater : y / 4 + (y + 1) / 100 < (y + 1) / 4 + y / 100 := by
          have hbefore := hnext (by omega)
          have hcentury : (y + 1) / 100 ≤ (y + 1) / 4 := by omega
          omega
        omega
    simp only [isLeapYear, Bool.and_eq_true, Bool.or_eq_true, beq_iff_eq, bne_iff_ne]
    omega
  · unfold yearStart
    omega
  · have htoNat : ((n + 719468) % 146097).toNat = d := by omega
    unfold ofNumber
    simp only [htoNat]
    rw [show (d - d / 1460 + d / 36524 - d / 146096) / 365 = y from hy]
    rfl

/-- A day of a year has its number. -/
theorem number_ofYearDay (era : Int) {y dayOfYear : Nat} (hy : y < 400) (hday : dayOfYear ≤ 365) :
    (ofYearDay (y + era * 400) dayOfYear).number =
      era * 146097 + (yearStart y + dayOfYear : Nat) - 719468 := by
  obtain ⟨s, hs⟩ : ∃ s, (5 * dayOfYear + 2) / 153 = s := ⟨_, rfl⟩
  have hs12 : s < 12 := by omega
  unfold number ofYearDay yearStart
  simp only [hs]
  -- January and February belong to the year before, as in the count from March.
  rcases Nat.lt_or_ge s 10 with hlt | hge
  · have hmonth : ¬ s + 3 ≤ 2 := by omega
    have hafter : 2 < s + 3 := by omega
    simp only [hlt, hmonth, hafter, if_true, if_false]
    omega
  · have hnot : ¬ s < 10 := by omega
    have hmonth : s - 9 ≤ 2 := by omega
    have hbefore : ¬ 2 < s - 9 := by omega
    simp only [hnot, hmonth, hbefore, if_true, if_false]
    omega

/-- The day of a number has that number. -/
theorem number_ofNumber (n : Int) : (ofNumber n).number = n := by
  obtain ⟨era, y, dayOfYear, h⟩ := exists_isNumbered n
  rw [h.day, number_ofYearDay era h.year h.within]
  exact h.number.symm

/-- A day that its month has. -/
structure IsValid (d : Day) : Prop where
  month : 1 ≤ d.month ∧ d.month ≤ 12
  day : 1 ≤ d.day ∧ d.day ≤ daysInMonth d.year d.month

/-- A day of a year is one that its month has, when the year has it. -/
theorem isValid_ofYearDay {year : Int} {dayOfYear : Nat} (hday : dayOfYear ≤ 365)
    (hleap : dayOfYear = 365 → isLeapYear (year + 1) = true) :
    (ofYearDay year dayOfYear).IsValid := by
  obtain ⟨s, hs⟩ : ∃ s, (5 * dayOfYear + 2) / 153 = s := ⟨_, rfl⟩
  have hs12 : s < 12 := by omega
  unfold ofYearDay
  simp only [hs]
  refine ⟨⟨?_, ?_⟩, ⟨?_, ?_⟩⟩
  · simp only
    split <;> omega
  · simp only
    split <;> omega
  · simp only
    omega
  · -- The month of each place in the year has a length of its own, February that of its year.
    rcases Nat.lt_or_ge s 11 with hlt | hge
    · interval_cases s <;> simp [daysInMonth] <;> omega
    · obtain rfl : s = 11 := by omega
      by_cases hlast : dayOfYear = 365
      · subst hlast
        simp [daysInMonth, hleap rfl]
      · have hfebruary : 28 ≤ daysInMonth (year + 1) 2 := by
          simp only [daysInMonth, if_true]
          split <;> omega
        exact (show dayOfYear - 337 + 1 ≤ 28 by omega).trans hfebruary

/-- The day of a number is one that its month has. -/
theorem isValid_ofNumber (n : Int) : (ofNumber n).IsValid := by
  obtain ⟨era, y, dayOfYear, h⟩ := exists_isNumbered n
  rw [h.day]
  refine isValid_ofYearDay h.within fun hlast => ?_
  rw [Int.add_comm (y : Int)]
  exact h.leap hlast

end Day

end WorkloadBindings.Timestamp
