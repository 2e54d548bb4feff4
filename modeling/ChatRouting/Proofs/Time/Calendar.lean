import Mathlib.Tactic.SplitIfs
import ChatRouting.Time.Calendar

/-!
# Counting days

The number of days of a date is worked out from its year, its month and its day of the month at
once. It is what counting would give: the first of January 1970 has the number zero, and the day
after a date has the next number. So the numbers are in the order of the dates, by year, then by
month, then by day of the month, and no two dates in the calendar share one.

## Main definitions

* `Date.next`: the day after a date
* `Date.Before`: one date comes before another

## Main results

* `Date.epochDays_next`: the day after has the next number
* `Date.epochDays_lt_iff`: the numbers are in the order of the dates
-/

namespace ChatRouting.Date

variable {d d' : Date} {year year' : Nat}

/-- The day after a date. -/
def next (d : Date) : Date :=
  if d.day < monthLength d.year d.month then { d with day := d.day + 1 }
  else if d.month < 12 then ⟨d.year, d.month + 1, 1⟩
  else ⟨d.year + 1, 1, 1⟩

/-- One date comes before another: by year, then by month, then by day of the month. -/
def Before (d d' : Date) : Prop :=
  d.year < d'.year ∨
    d.year = d'.year ∧ (d.month < d'.month ∨ d.month = d'.month ∧ d.day < d'.day)

theorem isValid_iff : d.isValid ↔
    1 ≤ d.month ∧ d.month ≤ 12 ∧ 1 ≤ d.day ∧ d.day ≤ monthLength d.year d.month := by
  simp [isValid]

theorem one_le_monthLength (year month : Nat) : 1 ≤ monthLength year month := by
  unfold monthLength
  split_ifs <;> omega

/-! ### Years and months -/

/-- The number of days in a year. -/
def yearLength (year : Nat) : Nat :=
  if isLeap year then 366 else 365

/-- A year is one more multiple of a number if it is one, and else none. -/
theorem div_year_succ (year : Nat) :
    (year + 1 + 3) / 4 = (year + 3) / 4 + (if year % 4 = 0 then 1 else 0) ∧
      (year + 1 + 99) / 100 = (year + 99) / 100 + (if year % 100 = 0 then 1 else 0) ∧
      (year + 1 + 399) / 400 = (year + 399) / 400 + (if year % 400 = 0 then 1 else 0) := by
  refine ⟨?_, ?_, ?_⟩ <;> split_ifs <;> omega

/-- The days before a year are those before the year before it and those in that. -/
theorem daysBeforeYear_succ (year : Nat) :
    daysBeforeYear (year + 1) = daysBeforeYear year + yearLength year := by
  obtain ⟨hfourth, hcentury, hfull⟩ := div_year_succ year
  have hcenturies : (year + 99) / 100 ≤ 365 * year + (year + 3) / 4 := by omega
  rw [daysBeforeYear, daysBeforeYear, yearLength, hfourth, hcentury, hfull]
  by_cases hleap : isLeap year
  · have hyear : year % 4 = 0 ∧ (year % 100 ≠ 0 ∨ year % 400 = 0) := by
      simpa [isLeap] using hleap
    rw [if_pos hleap, if_pos hyear.1]
    split_ifs <;> omega
  · have hyear : year % 4 = 0 → year % 100 = 0 ∧ year % 400 ≠ 0 := by
      simpa [isLeap] using hleap
    rw [if_neg hleap]
    split_ifs <;> omega

theorem daysBeforeYear_mono (h : year ≤ year') : daysBeforeYear year ≤ daysBeforeYear year' := by
  induction h with
  | refl => exact Nat.le_refl _
  | step _ ih =>
    rw [daysBeforeYear_succ]
    omega

/-- The twelve months make up the year. -/
theorem daysInMonths_twelve (year : Nat) : daysInMonths year 12 = yearLength year := by
  by_cases hleap : isLeap year <;> simp [daysInMonths, monthLength, yearLength, hleap]

theorem daysInMonths_mono {m n : Nat} (h : m ≤ n) : daysInMonths year m ≤ daysInMonths year n := by
  induction h with
  | refl => exact Nat.le_refl _
  | step _ ih =>
    rw [daysInMonths]
    omega

/-- A month that begins after another begins after the days of the other. -/
theorem daysInMonths_add_le (year : Nat) {m n : Nat} (hm : 1 ≤ m) (h : m < n) :
    daysInMonths year (m - 1) + monthLength year m ≤ daysInMonths year (n - 1) := by
  obtain ⟨m, rfl⟩ := Nat.exists_eq_add_of_le' hm
  rw [Nat.add_sub_cancel, ← daysInMonths]
  exact daysInMonths_mono (by omega)

/-! ### Days -/

/-- The number of days in the year before a date. -/
def dayOfYear (d : Date) : Nat :=
  daysInMonths d.year (d.month - 1) + (d.day - 1)

theorem epochDays_eq (d : Date) : d.epochDays =
    (daysBeforeYear d.year + d.dayOfYear : Nat) - (daysBeforeYear 1970 : Nat) := by
  rw [epochDays, dayOfYear, Nat.add_assoc]

theorem dayOfYear_lt (hd : d.isValid) : d.dayOfYear < yearLength d.year := by
  obtain ⟨hmonth, hmonths, hday, hdays⟩ := isValid_iff.mp hd
  have hrest := daysInMonths_add_le d.year hmonth (Nat.lt_succ_of_le hmonths)
  rw [← daysInMonths_twelve, dayOfYear]
  exact Nat.lt_of_lt_of_le (by omega) hrest

theorem epochDays_epoch : epochDays ⟨1970, 1, 1⟩ = 0 := by
  decide

/-- The day after a date is in the calendar. -/
theorem isValid_next (hd : d.isValid) : d.next.isValid := by
  obtain ⟨hmonth, hmonths, hday, hdays⟩ := isValid_iff.mp hd
  rw [isValid_iff, next]
  split_ifs with hsame hyear
  · exact ⟨hmonth, hmonths, Nat.le_add_left 1 d.day, hsame⟩
  · exact ⟨Nat.le_add_left 1 d.month, hyear, Nat.le_refl 1, one_le_monthLength _ _⟩
  · exact ⟨Nat.le_refl 1, Nat.le_add_left 1 11, Nat.le_refl 1, one_le_monthLength _ _⟩

/-- The day after a date has the next number in its year, unless the year is over. -/
theorem dayOfYear_next (hd : d.isValid) :
    d.next.year = d.year ∧ d.next.dayOfYear = d.dayOfYear + 1 ∨
      d.next.year = d.year + 1 ∧ d.next.dayOfYear = 0 ∧ d.dayOfYear + 1 = yearLength d.year := by
  obtain ⟨hmonth, hmonths, hday, hdays⟩ := isValid_iff.mp hd
  -- The days up to the end of the month are those before it and its own.
  have hmonthEnd : daysInMonths d.year d.month =
      daysInMonths d.year (d.month - 1) + monthLength d.year d.month := by
    obtain ⟨n, hn⟩ := Nat.exists_eq_add_of_le' hmonth
    rw [hn, Nat.add_sub_cancel, daysInMonths]
  unfold next
  split_ifs with hsame hyear
  · refine Or.inl ⟨rfl, ?_⟩
    simp only [dayOfYear]
    omega
  · refine Or.inl ⟨rfl, ?_⟩
    simp only [dayOfYear, Nat.add_sub_cancel, hmonthEnd]
    omega
  · refine Or.inr ⟨rfl, rfl, ?_⟩
    have htwelve : d.month = 12 := by omega
    rw [← daysInMonths_twelve, ← htwelve, hmonthEnd, dayOfYear]
    omega

/-- **The day after a date has the next number.** -/
theorem epochDays_next (hd : d.isValid) : d.next.epochDays = d.epochDays + 1 := by
  rw [epochDays_eq d.next, epochDays_eq d]
  rcases dayOfYear_next hd with ⟨hyear, hday⟩ | ⟨hyear, hday, hlast⟩
  · rw [hyear, hday]
    omega
  · rw [hyear, hday, daysBeforeYear_succ]
    omega

theorem epochDays_lt_of_before (hd : d.isValid) (hd' : d'.isValid) (h : d.Before d') :
    d.epochDays < d'.epochDays := by
  obtain ⟨hmonth, -, hday, hdays⟩ := isValid_iff.mp hd
  obtain ⟨-, -, hday', -⟩ := isValid_iff.mp hd'
  rw [epochDays_eq, epochDays_eq]
  rcases h with hyear | ⟨hyear, hmonths | ⟨hsame, hdays'⟩⟩
  · have hlt := dayOfYear_lt hd
    have hle := daysBeforeYear_mono (Nat.succ_le_of_lt hyear)
    rw [Nat.succ_eq_add_one, daysBeforeYear_succ] at hle
    omega
  · have hle := daysInMonths_add_le d.year hmonth hmonths
    rw [dayOfYear, dayOfYear, ← hyear]
    omega
  · rw [dayOfYear, dayOfYear, ← hyear, ← hsame]
    omega

/-- Of two dates one comes before the other, unless they are the same. -/
theorem before_or_eq (d d' : Date) : d.Before d' ∨ d = d' ∨ d'.Before d := by
  obtain ⟨year, month, day⟩ := d
  obtain ⟨year', month', day'⟩ := d'
  simp only [Before, Date.mk.injEq]
  omega

/-- **The numbers of days are in the order of the dates.** -/
theorem epochDays_lt_iff (hd : d.isValid) (hd' : d'.isValid) :
    d.epochDays < d'.epochDays ↔ d.Before d' := by
  refine ⟨fun h => ?_, epochDays_lt_of_before hd hd'⟩
  rcases before_or_eq d d' with hbefore | rfl | hafter
  · exact hbefore
  · omega
  · have := epochDays_lt_of_before hd' hd hafter
    omega

/-- Two dates in the calendar do not share a number. -/
theorem epochDays_inj (hd : d.isValid) (hd' : d'.isValid) :
    d.epochDays = d'.epochDays ↔ d = d' := by
  refine ⟨fun h => ?_, fun h => by rw [h]⟩
  rcases before_or_eq d d' with hbefore | heq | hafter
  · have := epochDays_lt_of_before hd hd' hbefore
    omega
  · exact heq
  · have := epochDays_lt_of_before hd' hd hafter
    omega

/-- The numbers of the days before the year ten thousand. -/
theorem epochDays_bounds (hd : d.isValid) (hyear : d.year < 10000) :
    -719528 ≤ d.epochDays ∧ d.epochDays < 2932897 := by
  have hstart : daysBeforeYear 1970 = 719528 := by decide
  have hend : daysBeforeYear 10000 = 3652425 := by decide
  have hrest := dayOfYear_lt hd
  have hmono := daysBeforeYear_mono (Nat.succ_le_of_lt hyear)
  rw [Nat.succ_eq_add_one, daysBeforeYear_succ] at hmono
  rw [epochDays_eq]
  omega

end ChatRouting.Date
