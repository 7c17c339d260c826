import Criteria.Proofs.Calendar.Counted
import Criteria.Proofs.Calendar.DayText
import Criteria.Proofs.Compile.TimeRange
import Criteria.Proofs.Value.Instants

/-!
# Ranges of Whole Days

Ranges of dates on fields that hold moments, with days as their bounds.

The first day starts at its midnight, and the last one is taken in by asking for what is
before the midnight after it. Both midnights are without an offset, so they are compared
with instants as those of universal time. Dividing an instant by the length of a day
turns both tests into one about the number of the day (`Moment.universalDay`), which need
not be in the calendar.

## Main definitions

* `Context.IsDateRange`: What an inclusive range of dates is made of.
* `Moment.universalDay`: The number of the day that an instant is on.
* `Moment.IsBetweenDays`: This day is between two others.

## Theorems

* `Context.IsDateRange.compile`: What is compiled.
* `Context.startTest_of_isDay`, `Context.endTest_of_isDay`: The tests of the two bounds.
* `Context.verdict_dateRange_days`: The verdict.
-/

namespace Criteria

namespace Moment

variable {m : Moment} {d : Date}

/-- The number of the day that a moment is on in universal time. It need not be in the
    calendar. -/
def universalDay (m : Moment) : Int :=
  m.instant / dayMicros

/-- The moment is not before the first day and not after the last one, if there are
    such days. -/
def IsBetweenDays (first last : Option Date) (m : Moment) : Prop :=
  (∀ d ∈ first, (d.ordinal : Int) ≤ m.universalDay) ∧ ∀ d ∈ last, m.universalDay ≤ d.ordinal

instance (first last : Option Date) (m : Moment) : Decidable (m.IsBetweenDays first last) := by
  unfold IsBetweenDays
  infer_instance

/-- The midnight of universal time that a day starts with. -/
theorem instant_ofDate (d : Date) : (ofDate d none).instant = d.ordinal * dayMicros := by
  show (d.ordinal * dayMicros + (TimeOfDay.midnight.micros : Int)) - 0 = _
  rw [Int.sub_zero]
  exact Int.add_zero _

/-- Moments stand to the start of a day as their day stands to it. -/
theorem instant_ofDate_le_iff :
    (ofDate d none).instant ≤ m.instant ↔ (d.ordinal : Int) ≤ m.universalDay := by
  rw [instant_ofDate, universalDay, Int.le_ediv_iff_mul_le (by decide)]

theorem lt_instant_ofDate_iff :
    m.instant < (ofDate d none).instant ↔ m.universalDay < d.ordinal := by
  rw [instant_ofDate, universalDay, Int.ediv_lt_iff_lt_mul (by decide)]

/-- The midnight after a day is that of the next day, if there is one. -/
theorem exists_addMicros?_ofDate (h : d.ordinal < Date.maxOrdinal) : ∃ next : Date,
    next.ordinal = d.ordinal + 1 ∧
      (ofDate d none).addMicros? dayMicros = some (ofDate next none) := by
  have hinside : 1 ≤ (d.ordinal : Int) + 1 ∧ (d.ordinal : Int) + 1 ≤ Date.maxOrdinal := by omega
  rcases Date.exists_ofOrdinal?_iff.mpr hinside with ⟨next, hnext⟩
  have hordinal := Date.ofOrdinal?_eq_some_iff.mp hnext
  refine ⟨next, by omega, ofWall?_eq_some_iff.mpr ⟨?_, rfl⟩⟩
  have hwall (d : Date) : (ofDate d none).wall = d.ordinal * dayMicros := Int.add_zero _
  rw [hwall, hwall, hordinal, Int.add_mul, Int.one_mul]

end Moment

namespace Context

variable {c : Context} {entity : TypeExpr} {k : Criterion} {a : Accessor}
  {first last : Option Value}
  {firstDay lastDay nextDay : Option Date} {raw v y : Value} {d : Date} {m : Moment}

/-- The criterion is an inclusive range of dates: a field, and one bound or both. -/
structure IsDateRange (c : Context) (entity : TypeExpr) (k : Criterion) (a : Accessor)
    (first last : Option Value) : Prop where
  type : k.type = .dateRange
  field : c.fieldOf entity k.settings = .ok a
  start : k.settings.get? "start" = first
  stop : k.settings.get? "end" = last
  given : (first.isNone && last.isNone) = false
  flag : k.settings.flag "inclusive" true = .ok true

/-- A range of dates compiles to the tests of the bounds that it has. -/
theorem IsDateRange.compile (hk : c.IsDateRange entity k a first last) :
    c.compileCriterion entity k = (do
      let lower ← testIfGiven first (c.startTest a true)
      let upper ← testIfGiven last (c.endTest a true)
      return c.guarded a (.allOf (lower ++ upper))) := by
  have hfilter : c.compileCriterion entity k = c.dateRange entity k.settings :=
    compileCriterion_of_filter? (by rw [hk.type]; rfl) (by rw [hk.type]; rfl)
  rw [hfilter, dateRange, hk.field]
  -- At least one of the bounds is there.
  show (if (k.settings.get? "start").isNone && (k.settings.get? "end").isNone then _ else _) = _
  rw [hk.start, hk.stop, hk.given, if_neg Bool.false_ne_true, hk.flag]
  rfl

/-- The tests for a midnight that the field is not before and one that it is before. -/
def midnightTests (c : Context) (a : Accessor) (firstDay nextDay : Option Date) : List Spec :=
  (firstDay.toList.map fun d => c.test a .greaterOrEqual (.moment (.ofDate d none)) none) ++
    nextDay.toList.map fun d => c.test a .less (.moment (.ofDate d none)) none

section Moments

variable (hvalue : a.valueType = .named .moment)

include hvalue

theorem asFieldValue_of_moment (m : Moment) : asFieldValue a m = .moment m := by
  rw [asFieldValue, holdsDates, hvalue, if_neg Bool.false_ne_true]

theorem dateBound_of_isDay (h : raw.IsDay d) :
    c.dateBound a raw = .ok (.moment (.ofDate d none)) := by
  rw [dateBound, h.readInstant]
  exact congrArg Except.ok (asFieldValue_of_moment hvalue _)

/-- A range starts with the midnight of its first day. -/
theorem startTest_of_isDay (h : raw.IsDay d) : c.startTest a true raw =
    .ok (c.test a .greaterOrEqual (.moment (.ofDate d none)) none) := by
  rw [startTest, dateBound_of_isDay hvalue h]
  rfl

/-- A range stops before the midnight after its last day. -/
theorem endTest_of_isDay (h : raw.IsDay d) (hlast : d.ordinal < Date.maxOrdinal) :
    ∃ next : Date, next.ordinal = d.ordinal + 1 ∧
      c.endTest a true raw = .ok (c.test a .less (.moment (.ofDate next none)) none) := by
  rcases Moment.exists_addMicros?_ofDate hlast with ⟨next, hordinal, hnext⟩
  have hlater : dayLater (.ofDate d none) = .ok (.ofDate next none) := by
    rw [dayLater, hnext]
    rfl
  refine ⟨next, hordinal, ?_⟩
  rw [endTest, dateBound_of_isDay hvalue h, h.isDateOnly]
  refine bind_eq_ok_iff.mpr ⟨_, rfl, ?_⟩
  dsimp only
  rw [if_pos rfl, hlater]
  rfl

/-- A range of days compiles to a test for the midnight that it starts with and one for
    the midnight that it stops before. -/
theorem IsDateRange.compile_days (hk : c.IsDateRange entity k a first last)
    (hfirst : Option.Rel Value.IsDay first firstDay) (hlast : Option.Rel Value.IsDay last lastDay)
    (hcalendar : ∀ d ∈ lastDay, d.ordinal < Date.maxOrdinal) :
    ∃ nextDay : Option Date, Option.Rel (fun d n => n.ordinal = d.ordinal + 1) lastDay nextDay ∧
      c.compileCriterion entity k =
        .ok (c.guarded a (.allOf (c.midnightTests a firstDay nextDay))) := by
  -- Each bound gives a test with its midnight, or none if it is missing.
  have hlower : testIfGiven first (c.startTest a true) = .ok (firstDay.toList.map fun d =>
      c.test a .greaterOrEqual (.moment (.ofDate d none)) none) := by
    cases hfirst with
    | none => rfl
    | some h =>
        rw [testIfGiven, startTest_of_isDay hvalue h]
        rfl
  have hupper : ∃ nextDay : Option Date,
      Option.Rel (fun d n => n.ordinal = d.ordinal + 1) lastDay nextDay ∧
      testIfGiven last (c.endTest a true) = .ok (nextDay.toList.map fun d =>
        c.test a .less (.moment (.ofDate d none)) none) := by
    cases hlast with
    | none => exact ⟨none, .none, rfl⟩
    | some h =>
        rcases endTest_of_isDay hvalue h (hcalendar _ rfl) with ⟨next, hordinal, htest⟩
        refine ⟨some next, .some hordinal, ?_⟩
        rw [testIfGiven, htest]
        rfl
  rcases hupper with ⟨nextDay, hnext, hupper⟩
  refine ⟨nextDay, hnext, ?_⟩
  rw [hk.compile, hlower, hupper]
  rfl

end Moments

section Verdicts

variable (hc : c.operators = .standard) (hread : a.read c.schema v = .ok y)

include hc hread

/-- Null is on no day. -/
theorem accepts_midnightTests_null (hnull : y.isNull = true)
    (hgiven : (firstDay.isNone && nextDay.isNone) = false) :
    Spec.acceptsAll c.schema (c.midnightTests a firstDay nextDay) v = .ok false := by
  -- No comparison accepts null.
  have hnever {op : Operator} (hop : op.isComparison = true) (d : Date) :
      (c.test a op (.moment (.ofDate d none)) none).accepts c.schema v = .ok false := by
    rw [accepts_test hc hread rfl, Value.eq_null_of_isNull hnull]
    cases op with
    | greater | greaterOrEqual | less | lessOrEqual => rfl
    | _ => cases hop
  rw [midnightTests, Spec.acceptsAll_append, Spec.acceptsAll_map fun d _ => hnever rfl d,
    Spec.acceptsAll_map fun d _ => hnever rfl d]
  -- One of the two lists of tests is not empty, so the answer is a refusal.
  cases firstDay with
  | some d => rfl
  | none =>
      cases nextDay with
      | some d => rfl
      | none => cases hgiven

/-- A moment passes the tests if its day is on the right side of both midnights. -/
theorem accepts_midnightTests (hy : y = .moment m) (hproper : m.isProper = true) :
    Spec.acceptsAll c.schema (c.midnightTests a firstDay nextDay) v =
      .ok (decide ((∀ d ∈ firstDay, (d.ordinal : Int) ≤ m.universalDay) ∧
        ∀ d ∈ nextDay, m.universalDay < d.ordinal)) := by
  have htest {op : Operator} (hop : op.isComparison = true) (d : Date) :
      (c.test a op (.moment (.ofDate d none)) none).accepts c.schema v =
        .ok (op.admits (compare m.instant (Moment.ofDate d none).instant)) := by
    -- A moment at midnight without an offset can be compared with any proper moment.
    have hcomparable : m.Comparable (.ofDate d none) :=
      Moment.comparable_of_offset_eq_none hproper rfl
    rw [accepts_test hc hread rfl, hy]
    exact OperatorTable.evaluate_related hop rfl rfl (Value.ordered_of_moments hcomparable).relate
  -- The tests on the instants are those on the days they lie in.
  have hfirst (d : Date) : (c.test a .greaterOrEqual (.moment (.ofDate d none)) none).accepts
      c.schema v = .ok (decide ((d.ordinal : Int) ≤ m.universalDay)) := by
    rw [htest rfl, Except.ok.injEq, Bool.eq_iff_iff, decide_eq_true_iff,
      (Operator.admits_compare _ _).2.2.2, Moment.instant_ofDate_le_iff]
  have hnext (d : Date) : (c.test a .less (.moment (.ofDate d none)) none).accepts
      c.schema v = .ok (decide (m.universalDay < d.ordinal)) := by
    rw [htest rfl, Except.ok.injEq, Bool.eq_iff_iff, decide_eq_true_iff,
      (Operator.admits_compare _ _).1, Moment.lt_instant_ofDate_iff]
  -- An optional bound is one test or none at all.
  have hall (days : Option Date) (p : Date → Prop) [DecidablePred p] :
      (days.toList.all fun d => decide (p d)) = decide (∀ d ∈ days, p d) := by
    rw [Bool.eq_iff_iff, List.all_eq_true, decide_eq_true_iff]
    simp only [Option.mem_toList, Option.mem_def, decide_eq_true_iff]
  rw [midnightTests, Spec.acceptsAll_append, Spec.acceptsAll_map fun d _ => hfirst d,
    Spec.acceptsAll_map fun d _ => hnext d, hall, hall, Bool.decide_and]
  cases decide (∀ d ∈ firstDay, (d.ordinal : Int) ≤ m.universalDay) <;> rfl

end Verdicts

/-- An inclusive range of days on a field that holds moments. The bounds are days as they
    are written, in either order, or there is only one; the last day is not the last one of
    the calendar.

    A candidate is accepted exactly if the field is not null and the moment that it holds
    is on a day from the first to the last one, in universal time. There is a verdict in
    any case, and so the criterion compiles. -/
theorem verdict_dateRange_days (hc : c.operators = .standard)
    (hk : c.IsDateRange entity k a first last) (hvalue : a.valueType = .named .moment)
    (hfirst : Option.Rel Value.IsDay first firstDay) (hlast : Option.Rel Value.IsDay last lastDay)
    (hcalendar : ∀ d ∈ lastDay, d.ordinal < Date.maxOrdinal)
    (hv : c.schema.IsCandidate v entity) :
    ∃ y, a.read c.schema v = .ok y ∧
      (y.isNull = true → c.verdict entity k v = .ok false) ∧
      (y.isNull = false → ∃ m, y = .moment m ∧
        c.verdict entity k v = .ok (decide (m.IsBetweenDays firstDay lastDay))) := by
  rcases exists_path_of_fieldOf hk.field with ⟨path, -, hresolve⟩
  rcases exists_read_of_isCandidate (resolve_eq_ok_iff.mpr hresolve) hvalue hv with
    ⟨y, hread, hproper, htype⟩
  rcases hk.compile_days hvalue hfirst hlast hcalendar with ⟨nextDay, hnext, hcompile⟩
  -- The verdict is that of the two tests, behind the guard against null.
  have hverdict : c.verdict entity k v = if a.nullable && y.isNull then .ok false else
      Spec.acceptsAll c.schema (c.midnightTests a firstDay nextDay) v := by
    rw [verdict, hcompile]
    show (c.guarded a _).accepts c.schema v = _
    rw [accepts_guarded_eq hc hread, Spec.accepts_allOf]
  refine ⟨y, hread, fun hnull => ?_, fun hnull => ?_⟩
  · -- Null is refused in front or by the tests, of which there is one at least.
    have hgiven : (firstDay.isNone && nextDay.isNone) = false := by
      have hgiven := hk.given
      cases hfirst <;> cases hlast <;> cases hnext <;> exact hgiven
    rw [hverdict, accepts_midnightTests_null hc hread hnull hgiven]
    exact ite_self _
  · rcases exists_eq_moment (htype hnull) with ⟨m, rfl⟩
    refine ⟨m, rfl, ?_⟩
    rw [hverdict, hnull, Bool.and_false, if_neg Bool.false_ne_true,
      accepts_midnightTests hc hread rfl hproper]
    refine congrArg Except.ok (decide_eq_decide.mpr (and_congr_right fun _ => ?_))
    -- Before the next midnight is on the last day or earlier.
    cases hnext with
    | none => exact ⟨nofun, nofun⟩
    | some hordinal =>
        simp only [Option.mem_def, Option.some.injEq, forall_eq', hordinal]
        omega

section Shifts

/-- Shifts that start on days from one to another. -/
def startedOn (start stop : String) : Criterion where
  type := .dateRange
  parameters := [("field", .text "starts_at"), ("start", .text start), ("end", .text stop)]

/-- The shift starts on the last day of January: it is in the range of this one day, and
    also if the day is written in digits of full width. -/
theorem verdict_dateRange_days_lateShift :
    ofShifts.verdict (Catalog.entityNamed "Shift") (startedOn "2020-01-31" "2020-01-31") lateShift =
      .ok true ∧
    ofShifts.verdict (Catalog.entityNamed "Shift")
        (startedOn " 2020-01-31" "２０２０-０１-３１") lateShift =
      .ok true := by
  have hresolve : ∃ a, ofShifts.resolve (Catalog.entityNamed "Shift") "starts_at" = .ok a ∧
      a.valueType = .named .moment ∧ a.read ofShifts.schema lateShift = .ok (.moment
        ⟨⟨2020, 1, 31, by decide⟩, .ofMicros (18 * 3600 * secondMicros), none⟩) :=
    ⟨_, rfl, rfl, rfl⟩
  rcases hresolve with ⟨a, ha, hvalue, hread⟩
  -- The same for both ways to write the day.
  have hday (start stop : String)
      (hk : ofShifts.IsDateRange (Catalog.entityNamed "Shift") (startedOn start stop) a
        (some (.text start)) (some (.text stop)))
      (hstart : dayOf? (Text.trim start) = some ⟨2020, 1, 31, by decide⟩)
      (hstop : dayOf? (Text.trim stop) = some ⟨2020, 1, 31, by decide⟩) :
      ofShifts.verdict (Catalog.entityNamed "Shift") (startedOn start stop) lateShift =
        .ok true := by
    rcases verdict_dateRange_days rfl hk hvalue (.some ⟨start, rfl, hstart⟩)
      (.some ⟨stop, rfl, hstop⟩)
      (by rintro d ⟨⟩; decide) isCandidate_lateShift with ⟨y, hy, -, hverdict⟩
    obtain rfl := Except.ok.inj (hread.symm.trans hy)
    rcases hverdict rfl with ⟨m, hm, hm'⟩
    obtain rfl := Value.moment.inj hm
    rw [hm']
    exact congrArg Except.ok (by decide)
  refine ⟨hday _ _ ⟨rfl, ha, rfl, rfl, rfl, rfl⟩ (by decide +kernel) (by decide +kernel),
    hday _ _ ⟨rfl, ha, rfl, rfl, rfl, rfl⟩ (by decide +kernel) (by decide +kernel)⟩

end Shifts

end Context

end Criteria
