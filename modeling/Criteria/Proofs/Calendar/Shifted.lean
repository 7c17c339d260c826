import Criteria.Calendar.Relative
import Criteria.Proofs.Calendar.Counted

/-!
# Moments That Are Moved

Where a moment gets to by a number of units.

Minutes to weeks are lengths on the clock. Months and years are steps of the calendar:
the months since the start of the calendar are counted (`Moment.monthsAfter`), and the
day of the month is cut off at the end of a shorter one. Cutting off does not bring a
later month before an earlier one, so in either case more units lead to a later moment,
forwards and backwards (`Moment.wall_le_of_shift`). The clock keeps its offset.

A moment can be moved as long as it stays in the calendar (`Moment.CanShift`). Seven days
are a week and twelve months a year, wherever they lead to.

## Main definitions

* `Moment.monthsAfter`: The months up to that of a moment, and a number more.
* `Moment.CanShift`: A number of units leads to a moment within the calendar.

## Theorems

* `Moment.exists_shift_iff`: When there is a moment to be led to.
* `Moment.offset_of_shift`, `Moment.wall_le_of_shift`: Later moments on the same clock.
* `Moment.shift_week`, `Moment.shift_year`: Weeks and years by other units.
-/

namespace Criteria

namespace Moment

/-- The months from the start of year zero up to that of the moment, and a number more. -/
def monthsAfter (m : Moment) (n : Int) : Int :=
  m.date.year * 12 + (m.date.month - 1) + n

/-- The number of units leads to a moment within the calendar. -/
def CanShift (m : Moment) (unit : CalendarUnit) (amount : Int) : Prop :=
  match unit.step amount with
  | .micros n => (dayMicros : Int) ≤ m.wall + n ∧
      m.wall + n < (Date.maxOrdinal + 1 : Nat) * dayMicros
  | .months n => 1 ≤ m.monthsAfter n / 12 ∧ m.monthsAfter n / 12 ≤ 9999

instance (m : Moment) (unit : CalendarUnit) (amount : Int) :
    Decidable (m.CanShift unit amount) := by
  unfold CanShift
  split <;> infer_instance

variable {m r s : Moment} {unit : CalendarUnit} {j k n : Int}

theorem addMonths_eq_ok_iff : m.addMonths n = .ok r ↔ ∃ d, r = { m with date := d } ∧
    (d.year : Int) = m.monthsAfter n / 12 ∧ d.month = (m.monthsAfter n % 12).toNat + 1 ∧
      d.day = min m.date.day (daysInMonth d.year d.month) := by
  rw [addMonths, ← monthsAfter]
  generalize m.monthsAfter n = total
  constructor
  · intro h
    -- The year is too large to be counted, or out of the calendar, or there is a day.
    split at h
    · cases h
    split at h
    · cases h
    split at h
    · rename_i hyear _ d hd
      rcases Date.of?_eq_some_iff.mp hd with ⟨hy, hm, hday⟩
      refine ⟨d, (Except.ok.inj h).symm, ?_, hm, ?_⟩
      · rw [hy, Int.toNat_of_nonneg (by omega)]
      · rw [hday, hy, hm]
    · cases h
  · rintro ⟨d, rfl, hyear, hmonth, hday⟩
    have hlast := d.valid.1
    rw [if_neg (by simp only [maxCountedYear]; omega), if_neg (by omega)]
    -- The date with these three numbers is the given one.
    have hdate : Date.of? (total / 12).toNat ((total % 12).toNat + 1)
        (min m.date.day (daysInMonth (total / 12).toNat ((total % 12).toNat + 1))) = some d := by
      rw [← hyear, Int.toNat_natCast, ← hmonth, ← hday]
      exact Date.of?_eq_some_iff.mpr ⟨rfl, rfl, rfl⟩
    rw [hdate]

/-- Months lead to a moment if its year is in the calendar. -/
theorem exists_addMonths_iff :
    (∃ r, m.addMonths n = .ok r) ↔ 1 ≤ m.monthsAfter n / 12 ∧ m.monthsAfter n / 12 ≤ 9999 := by
  constructor
  · rintro ⟨r, hr⟩
    rcases addMonths_eq_ok_iff.mp hr with ⟨d, -, hyear, -⟩
    have hvalid := d.valid.1
    omega
  · rintro ⟨hfirst, hlast⟩
    -- The month is in the calendar whatever is added, and the day is cut to its length.
    have hmonth : 1 ≤ (m.monthsAfter n % 12).toNat + 1 ∧ (m.monthsAfter n % 12).toNat + 1 ≤ 12 := by
      omega
    have hday := m.date.valid.2.2.1
    have hdays := daysInMonth_pos (m.monthsAfter n / 12).toNat ((m.monthsAfter n % 12).toNat + 1)
    exact ⟨_, addMonths_eq_ok_iff.mpr
      ⟨⟨(m.monthsAfter n / 12).toNat, (m.monthsAfter n % 12).toNat + 1, _,
        ⟨⟨by omega, by omega⟩, hmonth, by omega, Nat.min_le_right _ _⟩⟩, rfl,
        Int.toNat_of_nonneg (by omega), rfl, rfl⟩⟩

/-- Later months do not lead to an earlier day, though they may be shorter. -/
theorem wall_le_of_addMonths (hj : m.addMonths j = .ok r) (hk : m.addMonths k = .ok s)
    (hle : j ≤ k) : r.wall ≤ s.wall := by
  rcases addMonths_eq_ok_iff.mp hj with ⟨d, rfl, hyear, hmonth, hday⟩
  rcases addMonths_eq_ok_iff.mp hk with ⟨e, rfl, hyear', hmonth', hday'⟩
  have hmonths : m.monthsAfter j ≤ m.monthsAfter k := by
    rw [monthsAfter, monthsAfter]
    omega
  -- A later count of months gives a later month, or the same one.
  have hordinal : d.ordinal ≤ e.ordinal := by
    rcases Nat.lt_trichotomy d.year e.year with hlt | heq | hgt
    · exact Nat.le_of_lt (Date.ordinal_lt_of_year_lt hlt)
    · rcases Nat.lt_or_ge d.month e.month with hlt | hge
      · exact Nat.le_of_lt (Date.ordinal_lt_of_month_lt heq hlt)
      · -- In the same month it is the same day.
        have hsame : d.month = e.month := by omega
        refine Nat.le_of_eq ?_
        rw [Date.ordinal, Date.ordinal, hday, hday', heq, hsame]
    · omega
  have hdays : (d.ordinal : Int) * dayMicros ≤ e.ordinal * dayMicros :=
    Int.mul_le_mul_of_nonneg_right (Int.ofNat_le.mpr hordinal) (by decide)
  rw [wall, wall]
  exact Int.add_le_add_right hdays _

theorem shift_micros (h : unit.step j = .micros n) :
    m.shift unit j = .ok r ↔ m.addMicros? n = some r := by
  rw [shift, h]
  dsimp only
  cases m.addMicros? n with
  | some s => simp only [Except.ok.injEq, Option.some.injEq]
  | none => simp only [reduceCtorEq]

theorem shift_months (h : unit.step j = .months n) : m.shift unit j = m.addMonths n := by
  rw [shift, h]

/-- When there is a moment to be led to. -/
theorem exists_shift_iff : (∃ r, m.shift unit n = .ok r) ↔ m.CanShift unit n := by
  rw [CanShift]
  cases hstep : unit.step n with
  | micros micros =>
      simp only [shift_micros hstep, addMicros?]
      exact exists_ofWall?_iff
  | months months =>
      simp only [shift_months hstep]
      exact exists_addMonths_iff

/-- The clock keeps its offset. -/
theorem offset_of_shift (h : m.shift unit n = .ok r) : r.offset = m.offset := by
  cases hstep : unit.step n with
  | micros micros => exact (ofWall?_eq_some_iff.mp ((shift_micros hstep).mp h)).2
  | months months =>
      rw [shift_months hstep] at h
      rcases addMonths_eq_ok_iff.mp h with ⟨d, rfl, -⟩
      rfl

/-- More units lead to a later moment. -/
theorem wall_le_of_shift (hj : m.shift unit j = .ok r) (hk : m.shift unit k = .ok s)
    (hle : j ≤ k) : r.wall ≤ s.wall := by
  have hmicros {length : Int} (hlength : 0 ≤ length) (hstepj : unit.step j = .micros (j * length))
      (hstepk : unit.step k = .micros (k * length)) : r.wall ≤ s.wall := by
    rw [(ofWall?_eq_some_iff.mp ((shift_micros hstepj).mp hj)).1,
      (ofWall?_eq_some_iff.mp ((shift_micros hstepk).mp hk)).1]
    exact Int.add_le_add_left (Int.mul_le_mul_of_nonneg_right hle hlength) _
  cases unit with
  | minute | hour | day | week => exact hmicros (by decide) rfl rfl
  | month => exact wall_le_of_addMonths hj hk hle
  | year => exact wall_le_of_addMonths hj hk (Int.mul_le_mul_of_nonneg_right hle (by decide))

/-- A week is seven days. -/
theorem shift_week (m : Moment) (n : Int) : m.shift .week n = m.shift .day (7 * n) := by
  have hstep : CalendarUnit.week.step n = CalendarUnit.day.step (7 * n) := by
    show Step.micros _ = Step.micros _
    rw [Int.mul_comm 7 n, Int.mul_assoc]
  rw [shift, shift, hstep]

/-- A year is twelve months. -/
theorem shift_year (m : Moment) (n : Int) : m.shift .year n = m.shift .month (12 * n) := by
  have hstep : CalendarUnit.year.step n = CalendarUnit.month.step (12 * n) := by
    show Step.months _ = Step.months _
    rw [Int.mul_comm]
  rw [shift, shift, hstep]

end Moment

end Criteria
