import BranchChoice.Calendar
import Mathlib.Algebra.BigOperators.Group.List.Basic
import Mathlib.Algebra.GroupWithZero.Nat
import Mathlib.Data.List.Lex
import Mathlib.Order.Monotone.Basic

/-!
# The days of the calendar

Every day has one date: the date that is computed for a day is a date of the calendar, and it
numbers that day (`exists_dateOf`).  Different dates number different days
(`IsDate.eq_of_dayNumber`), and of two days the later has the later date, by year, then by month,
then by day of the month (`IsDate.lt_iff`).  This fixes how days are numbered, as there is only one
way to number dates in their order without gaps.

Years and months are treated alike.  A day number is the sum of the days before the year, the days
before the month and the days before the day.  Each part stays below the length of the year or month
that it counts in, and so the first part that differs decides which of two dates is the later.
-/

namespace BranchChoice.Calendar

/-! ## Years -/

/-- The number of days of a year. -/
def yearLength (year : Nat) : Nat :=
  if isLeap year then 366 else 365

theorem isLeap_iff {year : Nat} :
    isLeap year = true ↔ 4 ∣ year ∧ (¬100 ∣ year ∨ 400 ∣ year) := by
  simp [isLeap, Nat.dvd_iff_mod_eq_zero]

theorem daysBeforeYear_succ {year : Nat} (h : 1 ≤ year) :
    daysBeforeYear (year + 1) = daysBeforeYear year + yearLength year := by
  obtain ⟨y, rfl⟩ := Nat.exists_eq_add_of_le' h
  have hle : y / 100 ≤ y / 4 := Nat.div_le_div_left (by decide) (by decide)
  simp only [daysBeforeYear, yearLength, isLeap_iff, Nat.add_sub_cancel, Nat.succ_div]
  -- each of the three divisors divides the next one, so few of the cases can be
  split_ifs <;> omega

theorem daysBeforeYear_mono : Monotone daysBeforeYear := by
  refine monotone_nat_of_le_succ fun year => ?_
  cases year with
  | zero => exact le_rfl
  | succ y =>
    rw [daysBeforeYear_succ (Nat.le_add_left 1 y)]
    exact Nat.le_add_right _ _

/-- **The year of a day.** -/
theorem yearOf_spec (n : Nat) :
    1 ≤ yearOf n ∧ daysBeforeYear (yearOf n) ≤ n ∧ n < daysBeforeYear (yearOf n + 1) := by
  -- the first year to try is never too late, and at most one too early
  have hguess : daysBeforeYear (n * 400 / 146097 + 1) ≤ n := by
    rw [daysBeforeYear, Nat.add_sub_cancel]
    omega
  have hnext : n < daysBeforeYear (n * 400 / 146097 + 1 + 1 + 1) := by
    rw [daysBeforeYear, Nat.add_sub_cancel]
    omega
  unfold yearOf
  dsimp only
  split
  · omega
  · split
    · next hlate => exact ⟨Nat.le_add_left 1 _, hlate, hnext⟩
    · next hlate => exact ⟨Nat.le_add_left 1 _, hguess, Nat.lt_of_not_le hlate⟩

/-! ## Months -/

theorem sum_monthLengths (year : Nat) : (monthLengths year).sum = yearLength year := by
  unfold monthLengths yearLength
  cases isLeap year <;> rfl

theorem daysInMonth_le (year month : Nat) : daysInMonth year month ≤ 31 := by
  have hall : ∀ length ∈ monthLengths year, length ≤ 31 := by
    unfold monthLengths
    cases isLeap year <;> decide
  unfold daysInMonth
  cases h : (monthLengths year)[month - 1]? with
  | none => exact Nat.zero_le _
  | some length => exact hall length (List.mem_of_getElem? h)

theorem daysBeforeMonth_eq_sum (year i : Nat) :
    daysBeforeMonth year (i + 1) = ((monthLengths year).take i).sum :=
  List.sum_eq_foldl.symm

theorem daysBeforeMonth_succ {year month : Nat} (h : 1 ≤ month) :
    daysBeforeMonth year (month + 1) = daysBeforeMonth year month + daysInMonth year month := by
  obtain ⟨i, rfl⟩ := Nat.exists_eq_add_of_le' h
  rw [daysBeforeMonth_eq_sum, daysBeforeMonth_eq_sum, List.take_add_one, List.sum_append,
    daysInMonth, Nat.add_sub_cancel]
  cases (monthLengths year)[i]? <;> simp

theorem daysBeforeMonth_mono (year : Nat) : Monotone (daysBeforeMonth year) := by
  refine monotone_nat_of_le_succ fun month => ?_
  cases month with
  | zero => exact le_rfl
  | succ i =>
    rw [daysBeforeMonth_succ (Nat.le_add_left 1 i)]
    exact Nat.le_add_right _ _

/-- The months of a year fill it. -/
theorem daysBeforeMonth_le {year month : Nat} (h : month ≤ 12) :
    daysBeforeMonth year (month + 1) ≤ yearLength year := by
  refine (daysBeforeMonth_mono year (Nat.succ_le_succ h)).trans_eq ?_
  rw [daysBeforeMonth_eq_sum, ← sum_monthLengths]
  rfl

/-- A day is counted off along the months that are left. -/
theorem monthAndDay_eq (lengths : List Nat) : ∀ {month n : Nat}, n < lengths.sum →
    ∃ (i : Nat) (hi : i < lengths.length) (d : Nat), monthAndDay month lengths n = (month + i, d + 1) ∧
      d < lengths[i] ∧ (lengths.take i).sum + d = n := by
  induction lengths with
  | nil => intro month n h; exact absurd h (Nat.not_lt_zero n)
  | cons length rest ih =>
    intro month n h
    by_cases hn : n < length
    · exact ⟨0, Nat.succ_pos _, n, if_pos hn, hn, Nat.zero_add n⟩
    · have hrest : n - length < rest.sum := by
        rw [List.sum_cons] at h
        omega
      obtain ⟨i, hi, d, heq, hd, hsum⟩ := @ih (month + 1) _ hrest
      refine ⟨i + 1, Nat.succ_lt_succ hi, d, ?_, hd, ?_⟩
      · rw [monthAndDay, if_neg hn, heq]
        congr 1
        omega
      · rw [List.take_succ_cons, List.sum_cons]
        omega

/-! ## Dates -/

/-- The dates of the calendar, without an end. -/
structure IsDate (year month day : Nat) : Prop where
  one_le_year : 1 ≤ year
  one_le_month : 1 ≤ month
  month_le : month ≤ 12
  one_le_day : 1 ≤ day
  day_le : day ≤ daysInMonth year month

/-- **The date of a day.** -/
theorem exists_dateOf (n : Nat) :
    ∃ year month day, dateOf n = (year, month, day) ∧ IsDate year month day ∧
      dayNumber year month day = n := by
  obtain ⟨hyear, hle, hlt⟩ := yearOf_spec n
  have hrest : n - daysBeforeYear (yearOf n) < (monthLengths (yearOf n)).sum := by
    rw [sum_monthLengths]
    rw [daysBeforeYear_succ hyear] at hlt
    omega
  obtain ⟨i, hi, d, heq, hd, hsum⟩ := @monthAndDay_eq (monthLengths (yearOf n)) 1 _ hrest
  have hlength : daysInMonth (yearOf n) (1 + i) = (monthLengths (yearOf n))[i] := by
    rw [daysInMonth, Nat.add_sub_cancel_left, List.getElem?_eq_getElem hi, Option.getD_some]
  refine ⟨yearOf n, 1 + i, d + 1, ?_, ?_, ?_⟩
  · rw [dateOf, heq]
  · exact ⟨hyear, Nat.le_add_right 1 i, by rw [Nat.add_comm]; exact hi, Nat.le_add_left 1 d,
      hlength ▸ hd⟩
  · rw [dayNumber, Nat.add_comm 1 i, daysBeforeMonth_eq_sum, Nat.add_sub_cancel]
    omega

namespace IsDate

variable {year month day year' month' day' : Nat}

theorem dayNumber_lt_month (h : IsDate year month day) :
    dayNumber year month day < daysBeforeYear year + daysBeforeMonth year (month + 1) := by
  have hday := h.one_le_day
  have hle := h.day_le
  rw [dayNumber, daysBeforeMonth_succ h.one_le_month]
  omega

theorem dayNumber_lt_year (h : IsDate year month day) :
    dayNumber year month day < daysBeforeYear (year + 1) := by
  have hmonth : daysBeforeMonth year (month + 1) ≤ yearLength year := daysBeforeMonth_le h.month_le
  have hlt := h.dayNumber_lt_month
  rw [daysBeforeYear_succ h.one_le_year]
  omega

/-- A later date numbers a later day. -/
theorem dayNumber_lt (h : IsDate year month day) (h' : IsDate year' month' day')
    (hlt : [year, month, day] < [year', month', day']) :
    dayNumber year month day < dayNumber year' month' day' := by
  rcases List.cons_lt_cons_iff.1 hlt with hyear | ⟨rfl, hmonths⟩
  · calc dayNumber year month day
      _ < daysBeforeYear (year + 1) := h.dayNumber_lt_year
      _ ≤ daysBeforeYear year' := daysBeforeYear_mono hyear
      _ ≤ dayNumber year' month' day' := by rw [dayNumber]; omega
  · rcases List.cons_lt_cons_iff.1 hmonths with hmonth | ⟨rfl, hdays⟩
    · calc dayNumber year month day
        _ < daysBeforeYear year + daysBeforeMonth year (month + 1) := h.dayNumber_lt_month
        _ ≤ daysBeforeYear year + daysBeforeMonth year month' :=
            Nat.add_le_add_left (daysBeforeMonth_mono year hmonth) _
        _ ≤ dayNumber year month' day' := by rw [dayNumber]; omega
    · rcases List.cons_lt_cons_iff.1 hdays with hday | ⟨-, hnone⟩
      · have hone := h.one_le_day
        rw [dayNumber, dayNumber]
        omega
      · exact absurd hnone (lt_irrefl _)

/-- **Dates come in the order of their days.** -/
theorem lt_iff (h : IsDate year month day) (h' : IsDate year' month' day') :
    [year, month, day] < [year', month', day'] ↔
      dayNumber year month day < dayNumber year' month' day' := by
  refine ⟨h.dayNumber_lt h', fun hlt => ?_⟩
  rcases lt_trichotomy [year, month, day] [year', month', day'] with hdate | hdate | hdate
  · exact hdate
  · obtain ⟨rfl, rfl, rfl⟩ : year = year' ∧ month = month' ∧ day = day' := by simpa using hdate
    exact absurd hlt (lt_irrefl _)
  · exact absurd (h'.dayNumber_lt h hdate) hlt.asymm

/-- Different dates number different days. -/
theorem eq_of_dayNumber (h : IsDate year month day) (h' : IsDate year' month' day')
    (heq : dayNumber year month day = dayNumber year' month' day') :
    [year, month, day] = [year', month', day'] := by
  rcases lt_trichotomy [year, month, day] [year', month', day'] with hdate | hdate | hdate
  · exact absurd heq (h.dayNumber_lt h' hdate).ne
  · exact hdate
  · exact absurd heq (h'.dayNumber_lt h hdate).ne'

/-- The days up to the end of the calendar. -/
theorem dayNumber_lt_dayCount (h : IsDate year month day) :
    dayNumber year month day < dayCount ↔ year ≤ lastYear := by
  constructor
  · intro hlt
    by_contra hyear
    have hmono : dayCount ≤ daysBeforeYear year := daysBeforeYear_mono (Nat.lt_of_not_le hyear)
    have hle : daysBeforeYear year ≤ dayNumber year month day := by rw [dayNumber]; omega
    omega
  · intro hyear
    exact h.dayNumber_lt_year.trans_le (daysBeforeYear_mono (Nat.succ_le_succ hyear))

end IsDate

end BranchChoice.Calendar
