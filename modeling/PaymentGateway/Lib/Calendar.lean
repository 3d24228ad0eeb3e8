/-
# The Gregorian calendar

Days are counted from the first day of the year 1. `dateOf` finds the date of a day,
and `Date.number` counts the days before a date; a day is found again from its date.
-/

import Mathlib.Tactic.Common
import Mathlib.Algebra.BigOperators.Group.List.Basic
import Mathlib.Algebra.Ring.Nat

namespace PaymentGateway.Lib.Calendar

/-- The leap years. -/
def isLeap (year : ℕ) : Bool := year % 4 = 0 && (year % 100 ≠ 0 || year % 400 = 0)

/-- The lengths of the months of a year. -/
def monthLengths (year : ℕ) : List ℕ :=
  [31, if isLeap year then 29 else 28, 31, 30, 31, 30, 31, 31, 30, 31, 30, 31]

def daysIn (year month : ℕ) : ℕ := (monthLengths year).getD (month - 1) 0

structure Date where
  year : ℕ
  month : ℕ
  day : ℕ
  deriving DecidableEq, Repr

/-- A date of the calendar. -/
def Date.Valid (date : Date) : Prop :=
  1 ≤ date.month ∧ date.month ≤ 12 ∧ 1 ≤ date.day ∧ date.day ≤ daysIn date.year date.month

instance (date : Date) : Decidable date.Valid := inferInstanceAs (Decidable (_ ∧ _))

/-- The days before a year. There is a year 0 before the year 1. -/
def daysBeforeYear (year : ℕ) : ℤ :=
  let past : ℤ := year - 1
  365 * past + past / 4 - past / 100 + past / 400

/-- The days before a date. -/
def Date.number (date : Date) : ℤ :=
  daysBeforeYear date.year + ((monthLengths date.year).take (date.month - 1)).sum + date.day - 1

/-- The year that a day lies in, and the day of the year. -/
def yearDay (day : ℕ) : ℕ × ℕ :=
  let inEra := day % 146097
  -- The last day of a leap year, and of the last century of an era, starts no new cycle.
  let century := min 3 (inEra / 36524)
  let inCentury := inEra - 36524 * century
  let inCycle := inCentury % 1461
  let year := min 3 (inCycle / 365)
  (400 * (day / 146097) + 100 * century + 4 * (inCentury / 1461) + year + 1, inCycle - 365 * year)

/-- The month and day of a day of the year, given the lengths of the months ahead. -/
def monthDay (month : ℕ) : List ℕ → ℕ → ℕ × ℕ
  | [], day => (month, day + 1)
  | length :: later, day =>
    if day < length then (month, day + 1) else monthDay (month + 1) later (day - length)

/-- The date of a day. -/
def dateOf (day : ℕ) : Date :=
  let (year, inYear) := yearDay day
  let (month, inMonth) := monthDay 1 (monthLengths year) inYear
  ⟨year, month, inMonth⟩

theorem sum_monthLengths (year : ℕ) :
    (monthLengths year).sum = if isLeap year then 366 else 365 := by
  unfold monthLengths
  cases isLeap year <;> rfl

theorem daysIn_le (year month : ℕ) : daysIn year month ≤ 31 := by
  have hlengths : ∀ length ∈ monthLengths year, length ≤ 31 := by
    unfold monthLengths
    cases isLeap year <;> decide
  rw [daysIn, List.getD_eq_getElem?_getD]
  cases h : (monthLengths year)[month - 1]? with
  | none => exact Nat.zero_le _
  | some length => exact hlengths length (List.mem_of_getElem? h)

/-- A day in eras of 400 years, centuries, cycles of four years, and years. Only the last year of
a cycle has a 366th day, and the last cycle of a century only at the end of an era. -/
theorem yearDay_eq (day : ℕ) : ∃ era century cycle year inYear,
    yearDay day = (400 * era + 100 * century + 4 * cycle + year + 1, inYear) ∧
    day = 146097 * era + 36524 * century + 1461 * cycle + 365 * year + inYear ∧
    century ≤ 3 ∧ cycle ≤ 24 ∧ year ≤ 3 ∧ inYear ≤ 365 ∧
    (inYear = 365 → year = 3 ∧ (cycle = 24 → century = 3)) := by
  refine ⟨_, _, _, _, _, rfl, ?_⟩
  omega

theorem isLeap_of_last {era century cycle year : ℕ} (hcycle : cycle ≤ 24) (hyear : year = 3)
    (hlast : cycle = 24 → century = 3) :
    isLeap (400 * era + 100 * century + 4 * cycle + year + 1) = true := by
  simp only [isLeap, Bool.and_eq_true, Bool.or_eq_true, decide_eq_true_eq]
  omega

theorem daysBeforeYear_eq {era century cycle year : ℕ} (hcentury : century ≤ 3)
    (hcycle : cycle ≤ 24) (hyear : year ≤ 3) :
    daysBeforeYear (400 * era + 100 * century + 4 * cycle + year + 1) =
      146097 * era + 36524 * century + 1461 * cycle + 365 * year := by
  simp only [daysBeforeYear]
  omega

theorem yearDay_spec (day : ℕ) :
    daysBeforeYear (yearDay day).1 + (yearDay day).2 = day ∧
      (yearDay day).2 < (monthLengths (yearDay day).1).sum := by
  obtain ⟨era, century, cycle, year, inYear, heq, hday, hcentury, hcycle, hyear, hinYear, hlast⟩ :=
    yearDay_eq day
  rw [heq, sum_monthLengths]
  constructor
  · rw [daysBeforeYear_eq hcentury hcycle hyear]
    omega
  · split_ifs with hleap
    · exact Nat.lt_succ_of_le hinYear
    · rcases Nat.lt_or_eq_of_le hinYear with hlt | rfl
      · exact hlt
      · exact absurd (isLeap_of_last hcycle (hlast rfl).1 (hlast rfl).2) hleap

theorem monthDay_spec (month : ℕ) {lengths : List ℕ} {day : ℕ} (h : day < lengths.sum) :
    ∃ before inMonth, monthDay month lengths day = (month + before, inMonth) ∧
      before < lengths.length ∧ 1 ≤ inMonth ∧ inMonth ≤ lengths.getD before 0 ∧
      (lengths.take before).sum + inMonth = day + 1 := by
  induction lengths generalizing month day with
  | nil => cases h
  | cons length later ih =>
    rw [monthDay]
    split_ifs with hday
    · exact ⟨0, day + 1, rfl, Nat.succ_pos _, Nat.succ_pos _, hday, by simp⟩
    · rw [List.sum_cons] at h
      have hrest : day - length < later.sum := by omega
      obtain ⟨before, inMonth, heq, hbefore, hpos, hle, hsum⟩ := ih (month + 1) hrest
      refine ⟨before + 1, inMonth, ?_, Nat.succ_lt_succ hbefore, hpos, hle, ?_⟩
      · rw [heq, Nat.add_right_comm, Nat.add_assoc]
      · rw [List.take_succ_cons, List.sum_cons]
        omega

/-- The date of a day is a date, and the days before it are as many as before the day. -/
theorem dateOf_spec (day : ℕ) : (dateOf day).Valid ∧ (dateOf day).number = day := by
  obtain ⟨hyear, hlt⟩ := yearDay_spec day
  obtain ⟨before, inMonth, heq, hbefore, hpos, hle, hsum⟩ := monthDay_spec 1 hlt
  have hdate : dateOf day = ⟨(yearDay day).1, 1 + before, inMonth⟩ := by
    simp only [dateOf, heq]
  rw [hdate]
  have hmonths : (monthLengths (yearDay day).1).length = 12 := rfl
  refine ⟨⟨by simp, ?_, hpos, ?_⟩, ?_⟩
  · dsimp only
    omega
  · simpa [daysIn] using hle
  · simp only [Date.number, Nat.add_sub_cancel_left]
    omega

end PaymentGateway.Lib.Calendar
