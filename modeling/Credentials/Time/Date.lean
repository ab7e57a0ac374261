/-!
# Dates

Days of the calendar that is used today, continued in both directions, with
year 0 before year 1. `toDay` counts the days from the start of 1970 to a date
and `ofDay` finds the date of such a count: `toDay_ofDay` says that the count
comes back, `valid_ofDay` that the date is one of the calendar.
-/

namespace Credentials

/-- A day by year, month and day of the month. -/
structure Date where
  year : Int
  month : Nat
  day : Nat
deriving DecidableEq

namespace Date

/-- Whether February of a year has twenty-nine days. -/
def isLeap (year : Int) : Bool := year % 4 = 0 && (year % 100 ≠ 0 || year % 400 = 0)

/-- The number of days of a month. -/
def monthLength (year : Int) (month : Nat) : Nat :=
  match month with
  | 2 => if isLeap year then 29 else 28
  | 4 | 6 | 9 | 11 => 30
  | _ => 31

theorem monthLength_le (year : Int) (month : Nat) : monthLength year month ≤ 31 := by
  unfold monthLength
  split
  · split <;> decide
  all_goals decide

/-- Whether a date is in the calendar. -/
def Valid (d : Date) : Prop :=
  1 ≤ d.month ∧ d.month ≤ 12 ∧ 1 ≤ d.day ∧ d.day ≤ monthLength d.year d.month

instance (d : Date) : Decidable d.Valid := by
  unfold Valid
  infer_instance

/-! Years are counted from March here, so that the leap day ends a year: then
the months before a month have the same length in every year. -/

/-- The days from March to the month `m` after March. -/
def daysBefore (m : Int) : Int := (153 * m + 2) / 5

/-- The number of days from the start of 1970 to a date. -/
def toDay (d : Date) : Int :=
  let y := if d.month ≤ 2 then d.year - 1 else d.year
  let m := if d.month ≤ 2 then (d.month : Int) + 9 else (d.month : Int) - 3
  365 * y + y / 4 - y / 100 + y / 400 + daysBefore m + d.day - 719469

/-- The date that many days after the start of 1970. -/
def ofDay (n : Int) : Date :=
  let days := n + 719468
  let cycle := days / 146097
  let inCycle := days % 146097
  let century := min (inCycle / 36524) 3
  let inCentury := inCycle - 36524 * century
  let leapCycle := inCentury / 1461
  let inLeapCycle := inCentury % 1461
  let year := min (inLeapCycle / 365) 3
  let inYear := inLeapCycle - 365 * year
  let m := (5 * inYear + 2) / 153
  let y := 400 * cycle + 100 * century + 4 * leapCycle + year
  { year := if m < 10 then y else y + 1
    month := (if m < 10 then m + 3 else m - 9).toNat
    day := (inYear - daysBefore m + 1).toNat }

/-- The steps of `ofDay`, each within its bounds. -/
theorem ofDay_steps (n : Int) : ∃ cycle century leapCycle year inYear m : Int,
    n + 719468 = 146097 * cycle + 36524 * century + 1461 * leapCycle + 365 * year + inYear ∧
    0 ≤ century ∧ century ≤ 3 ∧ 0 ≤ leapCycle ∧ leapCycle ≤ 24 ∧ 0 ≤ year ∧ year ≤ 3 ∧
    0 ≤ inYear ∧ inYear ≤ 365 ∧ (inYear = 365 → year = 3 ∧ (leapCycle = 24 → century = 3)) ∧
    m = (5 * inYear + 2) / 153 ∧
    ofDay n =
      { year := if m < 10 then 400 * cycle + 100 * century + 4 * leapCycle + year
          else 400 * cycle + 100 * century + 4 * leapCycle + year + 1
        month := (if m < 10 then m + 3 else m - 9).toNat
        day := (inYear - daysBefore m + 1).toNat } := by
  refine ⟨_, _, _, _, _, _, ?_, ?_, ?_, ?_, ?_, ?_, ?_, ?_, ?_, ?_, rfl, rfl⟩ <;> omega

/-- Counting days to the date of a day gives the day back. -/
theorem toDay_ofDay (n : Int) : (ofDay n).toDay = n := by
  obtain ⟨a, c, q, r, i, m, hn, hc0, hc, hq0, hq, hr0, hr, hi0, hi, hleap, hm, h⟩ := ofDay_steps n
  rw [h]
  simp only [toDay, daysBefore]
  split <;> split <;> omega

/-- Every day has a date of the calendar. -/
theorem valid_ofDay (n : Int) : (ofDay n).Valid := by
  obtain ⟨a, c, q, r, i, m, hn, hc0, hc, hq0, hq, hr0, hr, hi0, hi, hleap, hm, h⟩ := ofDay_steps n
  have hm0 : 0 ≤ m := by omega
  have hm1 : m ≤ 11 := by omega
  rw [h]
  have : m = 0 ∨ m = 1 ∨ m = 2 ∨ m = 3 ∨ m = 4 ∨ m = 5 ∨ m = 6 ∨ m = 7 ∨ m = 8 ∨ m = 9 ∨ m = 10
      ∨ m = 11 := by omega
  rcases this with rfl | rfl | rfl | rfl | rfl | rfl | rfl | rfl | rfl | rfl | rfl | rfl
  all_goals simp [Valid, monthLength, daysBefore]
  all_goals try omega
  split
  · omega
  · next hl =>
    simp [isLeap] at hl
    omega

end Date

end Credentials
