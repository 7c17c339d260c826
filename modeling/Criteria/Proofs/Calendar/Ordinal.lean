import Criteria.Calendar.Date
import Mathlib.Tactic.SplitIfs

/-!
# Numbers of Days

Days are numbered in the order of the calendar, so no two have one number.

The number of a day counts the days of the years before it, then those of the months
before it, then those up to it. Each count is less than what the next greater unit
adds: the days up to a day are not more than its month has, and those of the months
before and of this one not more than the year has. So the first part in which two days
differ decides, and their numbers are as far apart.

## Main definitions

* `Date.daysInYear`: The number of days of a year.

## Theorems

* `Date.daysBeforeYear_succ`, `Date.daysBeforeMonth_succ`: What a year and a month add.
* `Date.ordinal_lt_of_year_lt`, `Date.ordinal_lt_of_month_lt`: Later days have greater
  numbers.
* `Date.ordinal_injective`: A day is told by its number.
-/

namespace Criteria

namespace Date

/-- The number of days of a year. -/
def daysInYear (year : Nat) : Nat :=
  if isLeapYear year then 366 else 365

theorem daysBeforeYear_succ {year : Nat} (h : 1 ≤ year) :
    daysBeforeYear (year + 1) = daysBeforeYear year + daysInYear year := by
  -- Each count of multiples grows by one exactly when the year is a multiple itself.
  have hfour : year / 4 = (year - 1) / 4 + if year % 4 = 0 then 1 else 0 := by
    split <;> omega
  have hcentury : year / 100 = (year - 1) / 100 + if year % 100 = 0 then 1 else 0 := by
    split <;> omega
  have hcycle : year / 400 = (year - 1) / 400 + if year % 400 = 0 then 1 else 0 := by
    split <;> omega
  have hless : (year - 1) / 100 ≤ (year - 1) / 4 := Nat.div_le_div_left (by decide) (by decide)
  -- A year of the longer cycles is one of the shorter ones as well.
  have hcentury' : year % 100 = 0 → year % 4 = 0 := by omega
  have hcycle' : year % 400 = 0 → year % 100 = 0 := by omega
  rw [daysInYear, isLeapYear]
  simp only [daysBeforeYear, Nat.add_sub_cancel, hfour, hcentury, hcycle, Bool.and_eq_true,
    Bool.or_eq_true, beq_iff_eq, bne_iff_ne]
  clear hfour hcentury hcycle
  generalize (year - 1) / 4 = fours at hless ⊢
  generalize (year - 1) / 100 = centuries at hless ⊢
  generalize (year - 1) / 400 = cycles
  split_ifs <;> omega

theorem daysBeforeMonth_succ {year month : Nat} (h : 1 ≤ month) :
    daysBeforeMonth year (month + 1) = daysBeforeMonth year month + daysInMonth year month := by
  rw [daysBeforeMonth, daysBeforeMonth, Nat.add_sub_cancel]
  have hsplit : month = month - 1 + 1 := by omega
  rw [hsplit, List.range_succ, List.foldl_append]
  rfl

/-- The months make up the year. -/
theorem daysBeforeMonth_thirteen (year : Nat) : daysBeforeMonth year 13 = daysInYear year := by
  rw [daysInYear]
  cases hleap : isLeapYear year <;> simp [daysBeforeMonth, List.range_succ, daysInMonth, hleap]

/-- Until the end of a month there are no more days than before a later one. -/
theorem daysBeforeMonth_add_le (year : Nat) {month later : Nat} (hmonth : 1 ≤ month)
    (hlater : month < later) :
    daysBeforeMonth year month + daysInMonth year month ≤ daysBeforeMonth year later := by
  induction later with
  | zero => omega
  | succ later ih =>
      rw [daysBeforeMonth_succ (by omega)]
      rcases Nat.eq_or_lt_of_le (Nat.le_of_lt_succ hlater) with rfl | hlt
      · exact Nat.le_refl _
      · exact Nat.le_trans (ih hlt) (Nat.le_add_right _ _)

/-- The same with years. -/
theorem daysBeforeYear_add_le {year later : Nat} (hyear : 1 ≤ year) (hlater : year < later) :
    daysBeforeYear year + daysInYear year ≤ daysBeforeYear later := by
  induction later with
  | zero => omega
  | succ later ih =>
      rw [daysBeforeYear_succ (by omega)]
      rcases Nat.eq_or_lt_of_le (Nat.le_of_lt_succ hlater) with rfl | hlt
      · exact Nat.le_refl _
      · exact Nat.le_trans (ih hlt) (Nat.le_add_right _ _)

variable {d e : Date}

/-- A day of a later month of the year has a greater number. -/
theorem ordinal_lt_of_month_lt (hyear : d.year = e.year) (hmonth : d.month < e.month) :
    d.ordinal < e.ordinal := by
  have hd := d.valid
  have he := e.valid
  have hmonths := daysBeforeMonth_add_le e.year hd.2.1.1 hmonth
  rw [IsDate, hyear] at hd
  rw [ordinal, ordinal, hyear]
  have hday := he.2.2.1
  omega

/-- A day of a later year has a greater number. -/
theorem ordinal_lt_of_year_lt (hyear : d.year < e.year) : d.ordinal < e.ordinal := by
  have hd := d.valid
  have hyears := daysBeforeYear_add_le hd.1.1 hyear
  have hmonths := daysBeforeMonth_add_le d.year hd.2.1.1 (Nat.lt_succ_of_le hd.2.1.2)
  rw [daysBeforeMonth_thirteen] at hmonths
  have hday := hd.2.2.2
  have hday' := e.valid.2.2.1
  rw [ordinal, ordinal]
  omega

/-- A day is told by its number. -/
theorem ordinal_injective (h : d.ordinal = e.ordinal) : d = e := by
  -- Years first: the days before a later year pass every day of an
  -- earlier one; then months likewise.
  have hyear : d.year = e.year := by
    rcases Nat.lt_trichotomy d.year e.year with hlt | heq | hgt
    · exact absurd h (Nat.ne_of_lt (ordinal_lt_of_year_lt hlt))
    · exact heq
    · exact absurd h.symm (Nat.ne_of_lt (ordinal_lt_of_year_lt hgt))
  have hmonth : d.month = e.month := by
    rcases Nat.lt_trichotomy d.month e.month with hlt | heq | hgt
    · exact absurd h (Nat.ne_of_lt (ordinal_lt_of_month_lt hyear hlt))
    · exact heq
    · exact absurd h.symm (Nat.ne_of_lt (ordinal_lt_of_month_lt hyear.symm hgt))
  have hday : d.day = e.day := by
    rw [ordinal, ordinal, hyear, hmonth] at h
    omega
  rcases d with ⟨year, month, day, hd⟩
  rcases e with ⟨year', month', day', he⟩
  dsimp only at hyear hmonth hday
  subst hyear hmonth hday
  rfl

end Date

end Criteria
