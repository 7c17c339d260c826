import Criteria.Calendar.Moment
import Criteria.Proofs.Calendar.Ordinal

/-!
# Days from Their Numbers

The day with a number has that number, and every number of the calendar has its day.

A number is taken apart by cycles of 400, 100, 4 and 1 years. The last cycle of its kind
may be a day longer than the others, which is why two of the quotients are cut off at
three: the day that is left over belongs to the leap year at the end. So the year comes
out of the cycles as they were put in, and what is left is a day of it. The months of the
year are gone through one after the other, and there is nothing left behind the last one.

Moments are counted in microseconds along the days, so the same holds of them.

## Theorems

* `Date.splitYear_spec`, `Date.splitMonth_spec`: What a number is taken apart into.
* `Date.ofOrdinal?_eq_some_iff`: Days and their numbers belong together.
* `Date.exists_ofOrdinal?_iff`: The numbers of the calendar.
* `Moment.ofWall?_eq_some_iff`, `Moment.exists_ofWall?_iff`: The same for moments.
-/

namespace Criteria

namespace Date

section Splitting

/-- A quotient cut off at three leaves less than the divisor, unless it is three. -/
theorem min_three_spec (r : Nat) {k : Nat} (hk : 0 < k) :
    min (r / k) 3 ≤ 3 ∧ min (r / k) 3 * k ≤ r ∧
      (min (r / k) 3 < 3 → r < min (r / k) 3 * k + k) := by
  have hdiv := Nat.div_add_mod' r k
  have hmod := Nat.mod_lt r hk
  rcases Nat.le_total (r / k) 3 with hle | hge
  · rw [Nat.min_eq_left hle]
    omega
  · have hthree := Nat.mul_le_mul_right k hge
    rw [Nat.min_eq_right hge]
    omega

/-- The days of whole years, counted by their cycles. -/
theorem daysBeforeYear_cycles (n400 : Nat) {n100 n4 n1 : Nat} (h100 : n100 ≤ 3) (h4 : n4 ≤ 24)
    (h1 : n1 ≤ 3) :
    daysBeforeYear (n400 * 400 + n100 * 100 + n4 * 4 + n1 + 1) =
      n400 * 146097 + n100 * 36524 + n4 * 1461 + n1 * 365 := by
  have hfour : (n400 * 400 + n100 * 100 + n4 * 4 + n1) / 4 = n400 * 100 + n100 * 25 + n4 := by
    omega
  have hcentury : (n400 * 400 + n100 * 100 + n4 * 4 + n1) / 100 = n400 * 4 + n100 := by omega
  have hcycle : (n400 * 400 + n100 * 100 + n4 * 4 + n1) / 400 = n400 := by omega
  simp only [daysBeforeYear, Nat.add_sub_cancel, hfour, hcentury, hcycle]
  omega

/-- The last year of a cycle of four years has a leap day, unless the cycle is the last one
    of a century that is not the last one of four. -/
theorem isLeapYear_cycles (n400 : Nat) {n100 n4 : Nat} (h4 : n4 ≤ 24) (h : n4 < 24 ∨ n100 = 3) :
    isLeapYear (n400 * 400 + n100 * 100 + n4 * 4 + 3 + 1) = true := by
  simp only [isLeapYear, Bool.and_eq_true, Bool.or_eq_true, beq_iff_eq, bne_iff_ne]
  omega

/-- A number is taken apart into the days before a year and a day of that year. -/
theorem splitYear_spec (n : Nat) :
    1 ≤ (splitYear n).1 ∧ daysBeforeYear (splitYear n).1 + (splitYear n).2 = n ∧
      (splitYear n).2 < daysInYear (splitYear n).1 := by
  simp only [splitYear]
  -- The quotients and what they leave, each bounded by the length of its cycle.
  have hdiv400 := Nat.div_add_mod' n 146097
  have hmod400 := Nat.mod_lt n (y := 146097) (by decide)
  generalize n / 146097 = n400 at hdiv400 ⊢
  generalize n % 146097 = r400 at hdiv400 hmod400 ⊢
  rcases min_three_spec r400 (k := 36524) (by decide) with ⟨h100, hlow100, hhigh100⟩
  generalize min (r400 / 36524) 3 = n100 at h100 hlow100 hhigh100 ⊢
  have hdiv4 := Nat.div_add_mod' (r400 - n100 * 36524) 1461
  have hmod4 := Nat.mod_lt (r400 - n100 * 36524) (y := 1461) (by decide)
  generalize (r400 - n100 * 36524) / 1461 = n4 at hdiv4 ⊢
  generalize (r400 - n100 * 36524) % 1461 = r4 at hdiv4 hmod4 ⊢
  have h4 : n4 ≤ 24 := by omega
  rcases min_three_spec r4 (k := 365) (by decide) with ⟨h1, hlow1, hhigh1⟩
  generalize min (r4 / 365) 3 = n1 at h1 hlow1 hhigh1 ⊢
  rw [daysBeforeYear_cycles n400 h100 h4 h1]
  refine ⟨Nat.le_add_left 1 _, ?_, ?_⟩
  · rw [Nat.add_assoc, Nat.add_sub_cancel' hlow1, Nat.add_assoc, hdiv4, Nat.add_assoc,
      Nat.add_sub_cancel' hlow100, hdiv400]
  -- A day more than a common year has is left only at the end of a cycle of four.
  rcases Nat.lt_or_ge (r4 - n1 * 365) 365 with hlt | hge
  · refine Nat.lt_of_lt_of_le hlt ?_
    rw [daysInYear]
    split <;> decide
  · obtain rfl : n1 = 3 := by omega
    have hleap := isLeapYear_cycles n400 h4 (by omega : n4 < 24 ∨ n100 = 3)
    rw [daysInYear, hleap, if_pos rfl]
    omega

/-- The days before a month and a day of that month make up a day of the year. -/
theorem splitMonth_spec (year : Nat) {fuel month n : Nat} (hmonth : 1 ≤ month)
    (hfuel : month + fuel = 12) (hn : daysBeforeMonth year month + n < daysInYear year) :
    (1 ≤ (splitMonth year fuel month n).1 ∧ (splitMonth year fuel month n).1 ≤ 12) ∧
      (1 ≤ (splitMonth year fuel month n).2 ∧
        (splitMonth year fuel month n).2 ≤ daysInMonth year (splitMonth year fuel month n).1) ∧
      daysBeforeMonth year (splitMonth year fuel month n).1 + (splitMonth year fuel month n).2 =
        daysBeforeMonth year month + n + 1 := by
  -- The induction is on the months that are left to look through.
  induction fuel generalizing month n with
  | zero =>
      obtain rfl : month = 12 := hfuel
      rw [← daysBeforeMonth_thirteen, daysBeforeMonth_succ hmonth] at hn
      rw [splitMonth]
      exact ⟨⟨hmonth, Nat.le_refl 12⟩, ⟨Nat.le_add_left 1 n, by dsimp only; omega⟩, rfl⟩
  | succ fuel ih =>
      rw [splitMonth]
      -- The day lies in this month, or the month is passed and its days are taken off.
      split
      · rename_i hlt
        exact ⟨⟨hmonth, by omega⟩, ⟨Nat.le_add_left 1 n, hlt⟩, rfl⟩
      · rename_i hge
        have hbefore : daysBeforeMonth year (month + 1) = _ := daysBeforeMonth_succ hmonth
        have hspec := @ih (month + 1) (n - daysInMonth year month) (by omega) (by omega) (by omega)
        refine ⟨hspec.1, hspec.2.1, ?_⟩
        rw [hspec.2.2, hbefore]
        omega

end Splitting

variable {d : Date} {n : Int}

/-- A number from one on is that of a day, if its year is in the calendar. -/
theorem ofOrdinal?_spec (hn : 1 ≤ n) : ∃ year, 1 ≤ year ∧
    (daysBeforeYear year : Int) < n ∧ n ≤ daysBeforeYear year + daysInYear year ∧
      (year ≤ 9999 → ∃ d, ofOrdinal? n = some d ∧ (d.ordinal : Int) = n) ∧
      (9999 < year → ofOrdinal? n = none) := by
  have hyear := splitYear_spec (n - 1).toNat
  refine ⟨(splitYear (n - 1).toNat).1, hyear.1, by omega, by omega, ?_⟩
  rw [ofOrdinal?, if_pos hn]
  dsimp only
  -- The day is split into a year with the days left in it, and these into a month and a day.
  generalize splitYear (n - 1).toNat = split at hyear ⊢
  rcases split with ⟨year, rest⟩
  have hzero : daysBeforeMonth year 1 = 0 := rfl
  have hrest : daysBeforeMonth year 1 + rest < daysInYear year := by
    rw [hzero, Nat.zero_add]
    exact hyear.2.2
  have hmonth := splitMonth_spec year (Nat.le_refl 1) (rfl : 1 + 11 = 12) hrest
  generalize splitMonth year 11 1 rest = split at hmonth ⊢
  rcases split with ⟨month, day⟩
  dsimp only at hyear hmonth ⊢
  constructor
  · intro hle
    refine ⟨⟨year, month, day, ⟨hyear.1, hle⟩, hmonth.1, hmonth.2.1⟩,
      of?_eq_some_iff.mpr ⟨rfl, rfl, rfl⟩, ?_⟩
    rw [ordinal]
    dsimp only
    omega
  -- A later year is no date.
  · intro hlt
    rw [of?, dif_neg]
    exact fun hdate => Nat.not_le.mpr hlt hdate.1.2

/-- Days of the calendar are numbered from one. -/
theorem ordinal_pos (d : Date) : 1 ≤ d.ordinal := by
  have hday := d.valid.2.2.1
  rw [ordinal]
  omega

/-- The days up to a day are those of the years up to its own. -/
theorem ordinal_bounds (d : Date) : daysBeforeYear d.year < d.ordinal ∧
    d.ordinal ≤ daysBeforeYear d.year + daysInYear d.year := by
  have hmonths := daysBeforeMonth_add_le d.year d.valid.2.1.1 (Nat.lt_succ_of_le d.valid.2.1.2)
  rw [daysBeforeMonth_thirteen] at hmonths
  have hday := d.valid.2.2
  rw [ordinal]
  omega

theorem daysBeforeYear_last : daysBeforeYear 10000 = maxOrdinal := by
  decide

/-- The calendar ends with its last year. -/
theorem ordinal_le_maxOrdinal (d : Date) : d.ordinal ≤ maxOrdinal := by
  have hlater : d.year < 10000 := Nat.lt_succ_of_le d.valid.1.2
  have hyears := daysBeforeYear_add_le d.valid.1.1 hlater
  rw [daysBeforeYear_last] at hyears
  exact Nat.le_trans d.ordinal_bounds.2 hyears

/-- A number is that of the day it is taken apart into, and of no other. -/
theorem ofOrdinal?_eq_some_iff : ofOrdinal? n = some d ↔ (d.ordinal : Int) = n := by
  constructor
  · intro h
    have hn : 1 ≤ n := by
      rw [ofOrdinal?] at h
      split at h
      · assumption
      · cases h
    rcases ofOrdinal?_spec hn with ⟨year, -, -, -, hin, hout⟩
    rcases Nat.lt_or_ge 9999 year with hlt | hle
    · rw [hout hlt] at h
      cases h
    · rcases hin hle with ⟨e, he, hordinal⟩
      rw [h, Option.some.injEq] at he
      rwa [he]
  · rintro rfl
    have hbounds := d.ordinal_bounds
    rcases ofOrdinal?_spec (Int.ofNat_le.mpr d.ordinal_pos) with ⟨year, -, hlow, -, hin, -⟩
    have hyear : year ≤ 9999 := by
      refine Nat.le_trans (Nat.le_of_not_lt fun hlt => ?_) d.valid.1.2
      have hyears := daysBeforeYear_add_le d.valid.1.1 hlt
      omega
    rcases hin hyear with ⟨e, he, hordinal⟩
    rw [he, ordinal_injective (Int.ofNat_inj.mp hordinal)]

/-- The numbers of the calendar. -/
theorem exists_ofOrdinal?_iff : (∃ d, ofOrdinal? n = some d) ↔ 1 ≤ n ∧ n ≤ maxOrdinal := by
  constructor
  · rintro ⟨d, hd⟩
    rw [← ofOrdinal?_eq_some_iff.mp hd]
    exact ⟨Int.ofNat_le.mpr d.ordinal_pos, Int.ofNat_le.mpr d.ordinal_le_maxOrdinal⟩
  · rintro ⟨hpos, hle⟩
    rcases ofOrdinal?_spec hpos with ⟨year, -, hlow, -, hin, -⟩
    have hyear : year ≤ 9999 := by
      refine Nat.le_of_not_lt fun hlt => ?_
      have hlast : maxOrdinal ≤ daysBeforeYear year := by
        rw [← daysBeforeYear_last]
        rcases Nat.eq_or_lt_of_le (Nat.succ_le_of_lt hlt) with heq | hlt
        · exact Nat.le_of_eq (congrArg daysBeforeYear heq)
        · exact Nat.le_trans (Nat.le_add_right _ _) (daysBeforeYear_add_le (by decide) hlt)
      omega
    rcases hin hyear with ⟨d, hd, -⟩
    exact ⟨d, hd⟩

end Date

namespace Moment

variable {m : Moment} {n : Int} {offset : Option Offset}

/-- The day of a reading of the clock, and how far into it. -/
theorem wall_div (m : Moment) : m.wall / dayMicros = m.date.ordinal := by
  have hday := m.time.lt_day
  rw [wall]
  simp only [dayMicros] at hday ⊢
  omega

theorem wall_emod (m : Moment) : m.wall % dayMicros = m.time.micros := by
  have hday := m.time.lt_day
  rw [wall]
  simp only [dayMicros] at hday ⊢
  omega

/-- A reading of the clock is that of one moment. -/
theorem ofWall?_eq_some_iff : ofWall? n offset = some m ↔ m.wall = n ∧ m.offset = offset := by
  have hsplit := Int.mul_ediv_add_emod n dayMicros
  have hmod := Int.emod_nonneg n (b := dayMicros) (by decide)
  have hlt := Int.emod_lt_of_pos n (b := dayMicros) (by decide)
  rw [ofWall?, Option.map_eq_some_iff]
  constructor
  · rintro ⟨d, hd, rfl⟩
    refine ⟨?_, rfl⟩
    show (d.ordinal * dayMicros + ((n % dayMicros).toNat % dayMicros : Nat) : Int) = n
    rw [Date.ofOrdinal?_eq_some_iff.mp hd, Nat.mod_eq_of_lt (by omega), Int.toNat_of_nonneg hmod,
      Int.mul_comm, hsplit]
  · rintro ⟨rfl, rfl⟩
    refine ⟨m.date, Date.ofOrdinal?_eq_some_iff.mpr m.wall_div.symm, ?_⟩
    rcases m with ⟨date, ⟨micros, hday⟩, offset⟩
    have htime : (wall ⟨date, ⟨micros, hday⟩, offset⟩ % dayMicros).toNat = micros := by
      rw [wall_emod, Int.toNat_natCast]
    rw [htime]
    simp only [TimeOfDay.ofMicros, Nat.mod_eq_of_lt hday]

/-- The readings of the clock within the calendar. -/
theorem exists_ofWall?_iff : (∃ m, ofWall? n offset = some m) ↔
    (dayMicros : Int) ≤ n ∧ n < (Date.maxOrdinal + 1 : Nat) * dayMicros := by
  have hday : (∃ m, ofWall? n offset = some m) ↔ ∃ d, Date.ofOrdinal? (n / dayMicros) = some d := by
    simp only [ofWall?, Option.map_eq_some_iff]
    constructor
    · rintro ⟨m, d, hd, -⟩
      exact ⟨d, hd⟩
    · rintro ⟨d, hd⟩
      exact ⟨_, d, hd, rfl⟩
  rw [hday, Date.exists_ofOrdinal?_iff]
  simp only [dayMicros]
  omega

end Moment

end Criteria
