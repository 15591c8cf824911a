/-
The days of the proleptic Gregorian calendar, one after the other.

A date names a day if its month and its day exist in its year; `next` is the day after it, and the calendar begins with
the first day of year 0. The number of a date, computed from its fields, counts the days from there: the next day has the
next number (`number_next`), numbers are ordered as dates are (`number_lt_iff`), and so a date is determined by its
number, and every number is that of a date.

Main facts: `number_iterate_next`, `number_lt_iff`, `daysBetween_iff`, `exists_number_eq`.
-/
import Mathlib.Tactic
import CredentialFailover.Credential.ClientTime

namespace CredentialFailover.Calendar

/-! ## Dates -/

/-- a leap year: every fourth, but of the hundredth ones only every fourth -/
def Leap (year : ℕ) : Prop := (4 ∣ year ∧ ¬ 100 ∣ year) ∨ 400 ∣ year

instance (year : ℕ) : Decidable (Leap year) := by
  unfold Leap
  infer_instance

/-- the lengths of the months of a year -/
def monthLengths (year : ℕ) : List ℕ := [31, if Leap year then 29 else 28, 31, 30, 31, 30, 31, 31, 30, 31, 30, 31]

/-- a day of a month of a year; months and days are counted from 1 -/
structure Date where
  year : ℕ
  month : ℕ
  day : ℕ
  deriving DecidableEq

/-- the length of a month of a year, nothing for one that does not exist -/
def monthLength (year month : ℕ) : ℕ := (0 :: monthLengths year).getD month 0

namespace Date

/-- a date that names a day -/
structure IsDay (d : Date) : Prop where
  one_le : 1 ≤ d.day
  le_length : d.day ≤ monthLength d.year d.month

/-- the day after a date -/
def next (d : Date) : Date :=
  if d.day < monthLength d.year d.month then ⟨d.year, d.month, d.day + 1⟩
  else if d.month < 12 then ⟨d.year, d.month + 1, 1⟩
  else ⟨d.year + 1, 1, 1⟩

/-- the number of days from the beginning of year 0 -/
def number (d : Date) : ℕ := daysBeforeYear d.year + daysBeforeMonth d.year d.month + (d.day - 1)

/-- the first day of the calendar -/
def first : Date := ⟨0, 1, 1⟩

end Date

/-- so many days lead from one date to another, forwards or backwards -/
inductive DaysBetween : Date → Date → ℤ → Prop where
  | forwards (d : Date) (n : ℕ) : DaysBetween d (Date.next^[n] d) n
  | backwards (d : Date) (n : ℕ) : DaysBetween (Date.next^[n] d) d (-n)

/-! ## Months and years -/

theorem isLeap_iff {year : ℕ} : isLeap year = true ↔ Leap year := by
  simp only [isLeap, Leap, Bool.and_eq_true, Bool.or_eq_true, beq_iff_eq, bne_iff_ne]
  omega

theorem monthLength_eq {year month : ℕ} (h : 1 ≤ month) (h' : month ≤ 12) :
    monthLength year month = daysInMonth year month := by
  have hleap : (if Leap year then 29 else 28) = if isLeap year = true then 29 else 28 := by simp only [isLeap_iff]
  interval_cases month <;> first | rfl | exact hleap

theorem monthLength_of_lt {year month : ℕ} (h : 12 < month) : monthLength year month = 0 := by
  rw [monthLength, List.getD_eq_getElem?_getD, List.getElem?_eq_none (by simpa [monthLengths] using Nat.succ_le_of_lt h)]
  rfl

theorem one_le_daysInMonth (year month : ℕ) : 1 ≤ daysInMonth year month := by
  unfold daysInMonth
  repeat' split
  all_goals decide

theorem daysBeforeMonth_succ {year month : ℕ} (h : 1 ≤ month) :
    daysBeforeMonth year (month + 1) = daysBeforeMonth year month + daysInMonth year month := by
  cases month with
  | zero => cases h
  | succ month => rfl

theorem monotone_daysBeforeMonth (year : ℕ) : Monotone (daysBeforeMonth year) := by
  refine monotone_nat_of_le_succ fun month => ?_
  cases month with
  | zero => exact Nat.zero_le _
  | succ month => exact Nat.le_add_right _ _

/-- a year is as long as its months together -/
theorem daysBeforeYear_succ (year : ℕ) : daysBeforeYear (year + 1) = daysBeforeYear year + daysBeforeMonth year 13 := by
  have hmonths : daysBeforeMonth year 13 = 337 + if isLeap year then 29 else 28 := by
    simp only [daysBeforeMonth, daysInMonth]
    omega
  rw [hmonths, daysBeforeYear, daysBeforeYear, leapYearsBefore, leapYearsBefore]
  clear hmonths
  by_cases hleap : isLeap year = true
  · have hyear := isLeap_iff.1 hleap
    rw [if_pos hleap]
    unfold Leap at hyear
    omega
  · have hyear : ¬ Leap year := fun h => hleap (isLeap_iff.2 h)
    rw [if_neg hleap]
    unfold Leap at hyear
    omega

theorem monotone_daysBeforeYear : Monotone daysBeforeYear :=
  monotone_nat_of_le_succ fun year => (daysBeforeYear_succ year).symm ▸ Nat.le_add_right _ _

namespace Date

variable {d e : Date}

/-! ## Numbers -/

theorem isDay_iff : d.IsDay ↔ 1 ≤ d.month ∧ d.month ≤ 12 ∧ 1 ≤ d.day ∧ d.day ≤ daysInMonth d.year d.month := by
  constructor
  · rintro ⟨hone, hlength⟩
    have hpos : 1 ≤ d.month := by
      by_contra h
      have hzero : d.month = 0 := by omega
      have hnone : monthLength d.year d.month = 0 := by rw [hzero]; rfl
      omega
    have hle : d.month ≤ 12 := by
      by_contra h
      have hnone : monthLength d.year d.month = 0 := monthLength_of_lt (not_le.1 h)
      omega
    exact ⟨hpos, hle, hone, monthLength_eq hpos hle ▸ hlength⟩
  · rintro ⟨hpos, hle, hone, hlength⟩
    exact ⟨hone, (monthLength_eq hpos hle).symm ▸ hlength⟩

/-- a day comes before the end of its month -/
theorem IsDay.lt_daysBeforeMonth (h : d.IsDay) :
    daysBeforeMonth d.year d.month + (d.day - 1) < daysBeforeMonth d.year (d.month + 1) := by
  obtain ⟨hpos, -, hone, hlength⟩ := isDay_iff.1 h
  rw [daysBeforeMonth_succ hpos]
  omega

/-- a day comes before the end of its year -/
theorem IsDay.number_lt (h : d.IsDay) : d.number < daysBeforeYear (d.year + 1) := by
  have hmonth := h.lt_daysBeforeMonth
  have hyear : daysBeforeMonth d.year (d.month + 1) ≤ daysBeforeMonth d.year 13 :=
    monotone_daysBeforeMonth d.year (Nat.succ_le_succ (isDay_iff.1 h).2.1)
  rw [daysBeforeYear_succ, number]
  omega

theorem daysBeforeYear_le_number (d : Date) : daysBeforeYear d.year ≤ d.number := by
  rw [number]
  omega

theorem number_lt_of_year_lt (hd : d.IsDay) (h : d.year < e.year) : d.number < e.number :=
  hd.number_lt.trans_le ((monotone_daysBeforeYear h).trans (daysBeforeYear_le_number e))

theorem number_lt_of_month_lt (hd : d.IsDay) (hyear : d.year = e.year) (h : d.month < e.month) : d.number < e.number := by
  have hmonth := hd.lt_daysBeforeMonth
  have hle : daysBeforeMonth d.year (d.month + 1) ≤ daysBeforeMonth d.year e.month :=
    monotone_daysBeforeMonth d.year (Nat.succ_le_of_lt h)
  rw [number, number, ← hyear]
  omega

/-- days are numbered in their order: by year, then by month, then by day -/
theorem number_lt_iff (hd : d.IsDay) (he : e.IsDay) :
    d.number < e.number ↔
      d.year < e.year ∨ d.year = e.year ∧ (d.month < e.month ∨ d.month = e.month ∧ d.day < e.day) := by
  rcases lt_trichotomy d.year e.year with hyear | hyear | hyear
  · simp [hyear, number_lt_of_year_lt hd hyear]
  · rcases lt_trichotomy d.month e.month with hmonth | hmonth | hmonth
    · simp [hyear, hmonth, number_lt_of_month_lt hd hyear hmonth]
    · have hone := hd.one_le
      have hone' := he.one_le
      rw [number, number, ← hyear, ← hmonth]
      omega
    · have hlt := number_lt_of_month_lt he hyear.symm hmonth
      omega
  · have hlt := number_lt_of_year_lt he hyear
    omega

theorem number_injective (hd : d.IsDay) (he : e.IsDay) (h : d.number = e.number) : d = e := by
  have hlt := number_lt_iff hd he
  have hgt := number_lt_iff he hd
  obtain ⟨hyear, hmonth, hday⟩ : d.year = e.year ∧ d.month = e.month ∧ d.day = e.day := by omega
  cases d
  cases e
  cases hyear
  cases hmonth
  cases hday
  rfl

/-! ## From day to day -/

theorem isDay_first : first.IsDay := isDay_iff.2 (by decide)

theorem isDay_next (h : d.IsDay) : d.next.IsDay := by
  obtain ⟨hpos, hle, hone, hlength⟩ := isDay_iff.1 h
  rw [next, monthLength_eq hpos hle, isDay_iff]
  split_ifs with hday hmonth
  · exact ⟨hpos, hle, Nat.le_add_left _ _, hday⟩
  · exact ⟨Nat.le_add_left _ _, hmonth, le_rfl, one_le_daysInMonth _ _⟩
  · exact ⟨le_rfl, (by decide : 1 ≤ 12), le_rfl, one_le_daysInMonth _ _⟩

/-- the next day has the next number -/
theorem number_next (h : d.IsDay) : d.next.number = d.number + 1 := by
  obtain ⟨hpos, hle, hone, hlength⟩ := isDay_iff.1 h
  rw [next, monthLength_eq hpos hle]
  split_ifs with hday hmonth
  · simp only [number]
    omega
  · simp only [number, daysBeforeMonth_succ hpos]
    omega
  · obtain hlast : d.month = 12 := by omega
    have hyear : daysBeforeMonth d.year 13 = daysBeforeMonth d.year 12 + daysInMonth d.year 12 := rfl
    have hstart : daysBeforeMonth (d.year + 1) 1 = 0 := rfl
    rw [hlast] at hday hlength
    simp only [number, daysBeforeYear_succ, hlast, hyear, hstart]
    omega

theorem isDay_iterate_next (h : d.IsDay) (n : ℕ) : (next^[n] d).IsDay := by
  induction n with
  | zero => exact h
  | succ n ih =>
    rw [Function.iterate_succ_apply']
    exact isDay_next ih

/-- so many days on, the number is that much greater -/
theorem number_iterate_next (h : d.IsDay) (n : ℕ) : (next^[n] d).number = d.number + n := by
  induction n with
  | zero => rfl
  | succ n ih =>
    rw [Function.iterate_succ_apply', number_next (isDay_iterate_next h n), ih, Nat.add_assoc]

/-- every number is that of a day -/
theorem exists_number_eq (n : ℕ) : ∃ d : Date, d.IsDay ∧ d.number = n :=
  ⟨next^[n] first, isDay_iterate_next isDay_first n, (number_iterate_next isDay_first n).trans (Nat.zero_add n)⟩

theorem iterate_next_eq (hd : d.IsDay) (he : e.IsDay) {n : ℕ} (h : e.number = d.number + n) : next^[n] d = e :=
  number_injective (isDay_iterate_next hd n) he ((number_iterate_next hd n).trans h.symm)

end Date

/-- the number of days between two days is the difference of their numbers -/
theorem daysBetween_iff {d e : Date} (hd : d.IsDay) (he : e.IsDay) {n : ℤ} :
    DaysBetween d e n ↔ n = (e.number : ℤ) - (d.number : ℤ) := by
  constructor
  · intro h
    cases h with
    | forwards _ n =>
      rw [Date.number_iterate_next hd]
      omega
    | backwards _ n =>
      rw [Date.number_iterate_next he]
      omega
  · intro h
    rcases le_total d.number e.number with hle | hle
    · have hnumber : e.number = d.number + (e.number - d.number) := by omega
      have hforwards := DaysBetween.forwards d (e.number - d.number)
      rw [Date.iterate_next_eq hd he hnumber] at hforwards
      convert hforwards using 1
      omega
    · have hnumber : d.number = e.number + (d.number - e.number) := by omega
      have hbackwards := DaysBetween.backwards e (d.number - e.number)
      rw [Date.iterate_next_eq he hd hnumber] at hbackwards
      convert hbackwards using 1
      omega

end CredentialFailover.Calendar
