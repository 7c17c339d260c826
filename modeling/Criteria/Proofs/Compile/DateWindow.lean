import Criteria.Proofs.Calendar.Shifted
import Criteria.Proofs.Compile.TimeRange
import Criteria.Proofs.Value.Instants

/-!
# Relative Windows of Dates

Windows of dates that end or start a number of units from now.

A window that reaches farther holds whatever a shorter one holds
(`Context.verdict_dateWindow`). The edges of both are on one clock and in the order of
the numbers of units, even where days of the month are cut off. So what is left is how
one value stands to several edges: whatever is read of the field has a place on a line on
which the edges keep their order (`Context.exists_line`), be it a line of days, of
instants or of readings of a clock.

A number of weeks or years is the same window as the number of days or months that it
comes to.

## Main definitions

* `Context.windowSide`, `Context.windowAmount`: What the direction of a window says.
* `Context.IsDateWindow`: What a relative window of dates is made of.

## Theorems

* `Context.IsDateWindow.compile`: What is compiled.
* `Context.accepts_guarded_eq_true_iff`: What a comparison accepts.
* `Context.exists_line`: How one value stands to several edges.
* `Context.verdict_dateWindow`: Windows hold shorter ones, and units can be changed.
-/

namespace Criteria

/-- An order that accepts two values can be asked for them, and null is not the first. -/
theorem OperatorTable.exists_relate_of_evaluate {op : Operator} {a b : Value}
    (hop : op.isComparison = true) (h : standard.evaluate op a b = .ok true) :
    a.isNull = false ∧
      ∃ r, Value.relate (Value.align a b).1 (Value.align a b).2 = .ok r := by
  -- Comparisons refuse null and need a relation before they can accept.
  have hrelated {accepted : Relation → Bool}
      (h : passing (unworded (Comparison.related accepted a b)) = .ok true) :
      a.isNull = false ∧
        ∃ r, Value.relate (Value.align a b).1 (Value.align a b).2 = .ok r := by
    have hcomparison := unworded_eq_ok_iff.mp (passing_eq_ok_iff.mp h)
    rw [Comparison.related] at hcomparison
    split at hcomparison
    · cases hcomparison
    · rename_i hnull
      rcases map_eq_ok_iff.mp hcomparison with ⟨r, hr, -⟩
      exact ⟨(Bool.or_eq_false_iff.mp (Bool.eq_false_of_not_eq_true hnull)).1, r, hr⟩
  cases op with
  | greater | greaterOrEqual | less | lessOrEqual => exact hrelated h
  | _ => cases hop

namespace Context

variable {c : Context} {entity : TypeExpr} {k : Criterion} {a : Accessor} {op : Operator}
  {unit : CalendarUnit} {amount : Int} {past : Bool} {v x : Value}

/-- The operator for values within a window. -/
def windowSide (past : Bool) : Operator :=
  if past then .greaterOrEqual else .lessOrEqual

/-- The number of units from now to the edge of a window. -/
def windowAmount (past : Bool) (amount : Int) : Int :=
  if past then -amount else amount

/-- The criterion is a relative window of dates: a field, a unit by its name, a number of
    units, and whether the window reaches into the past or the future. -/
structure IsDateWindow (c : Context) (entity : TypeExpr) (k : Criterion) (a : Accessor)
    (unit : CalendarUnit) (amount : Int) (past : Bool) : Prop where
  type : k.type = .dateRelative
  field : c.fieldOf entity k.settings = .ok a
  unit : ∃ word, k.settings.choice "unit" ["day", "week", "month", "year"] = .ok word ∧
    CalendarUnit.read word = .ok unit
  amount : k.settings.integer "amount" = .ok amount
  direction : k.settings.choice "direction" ["past", "future"] =
    .ok (if past then "past" else "future")

/-- The edge of a window, and the side that the window is on. -/
theorem IsDateWindow.windowEdge_eq (hk : c.IsDateWindow entity k a unit amount past) :
    c.windowEdge k.settings ["day", "week", "month", "year"] =
      (passing (unworded (c.now.shift unit (windowAmount past amount)))).map
        (·, windowSide past) := by
  rcases hk.unit with ⟨word, hword, hunit⟩
  -- The word is read as the unit, so moving by the word is shifting by the unit.
  have hmove (n : Int) : c.now.move word n = unworded (c.now.shift unit n) := by
    rw [Moment.move, hunit]
    rfl
  cases past with
  | true =>
      simp only [windowEdge, hword, hk.amount, hk.direction, bind, Except.bind, if_true, hmove,
        windowAmount, windowSide]
      -- A shift that leaves the calendar fails on both sides of the equation.
      cases c.now.shift unit (-amount) <;> rfl
  | false =>
      have hother : "future" ≠ "past" := by decide
      simp only [windowEdge, hword, hk.amount, hk.direction, bind, Except.bind,
        Bool.false_eq_true, if_false, hother, hmove, windowAmount, windowSide]
      cases c.now.shift unit amount <;> rfl

/-- A relative window compiles if its edge is in the calendar. -/
theorem IsDateWindow.compile (hk : c.IsDateWindow entity k a unit amount past) :
    c.compileCriterion entity k =
      (passing (unworded (c.now.shift unit (windowAmount past amount)))).map fun edge =>
        c.guarded a (c.test a (windowSide past) (asFieldValue a edge) none) := by
  have hfilter : c.compileCriterion entity k = c.dateRelative entity k.settings :=
    compileCriterion_of_filter? (by rw [hk.type]; rfl) (by rw [hk.type]; rfl)
  rw [hfilter, dateRelative, hk.field, hk.windowEdge_eq]
  cases c.now.shift unit (windowAmount past amount) <;> rfl

/-- The verdict of a relative window. -/
theorem IsDateWindow.verdict_eq_ok_iff (hk : c.IsDateWindow entity k a unit amount past)
    {b : Bool} : c.verdict entity k v = .ok b ↔
      ∃ edge, c.now.shift unit (windowAmount past amount) = .ok edge ∧
        (c.guarded a (c.test a (windowSide past) (asFieldValue a edge) none)).accepts c.schema v =
          .ok b := by
  rw [verdict, hk.compile, bind_eq_ok_iff]
  constructor
  · rintro ⟨spec, hspec, haccepts⟩
    rcases map_eq_ok_iff.mp hspec with ⟨edge, hedge, rfl⟩
    exact ⟨edge, unworded_eq_ok_iff.mp (passing_eq_ok_iff.mp hedge), haccepts⟩
  · rintro ⟨edge, hedge, haccepts⟩
    exact ⟨_, map_eq_ok_iff.mpr
      ⟨edge, passing_eq_ok_iff.mpr (unworded_eq_ok_iff.mpr hedge), rfl⟩, haccepts⟩

/-- A test of a field that has a verdict reads the field. -/
theorem exists_read_of_accepts {transform : Option Transform} {b : Bool}
    (h : (c.test a op x transform).accepts c.schema v = .ok b) :
    ∃ y, a.read c.schema v = .ok y := by
  rcases bind_eq_ok_iff.mp h with ⟨z, hz, -⟩
  rcases bind_eq_ok_iff.mp (unworded_eq_ok_iff.mp (passing_eq_ok_iff.mp hz)) with ⟨y, hy, -⟩
  exact ⟨y, hy⟩

/-- A comparison by order accepts what its operator accepts, whether null is refused first
    or by the operator. -/
theorem accepts_guarded_eq_true_iff (hc : c.operators = .standard) (hop : op.isComparison = true) :
    (c.guarded a (c.test a op x none)).accepts c.schema v = .ok true ↔
      ∃ y, a.read c.schema v = .ok y ∧ OperatorTable.standard.evaluate op y x = .ok true := by
  -- Guarded or not, the test has to read the value before it accepts.
  have hread (h : (c.guarded a (c.test a op x none)).accepts c.schema v = .ok true) :
      ∃ y, a.read c.schema v = .ok y := by
    rw [guarded] at h
    split at h
    · rw [Spec.accepts_conj, Spec.acceptsAll] at h
      rcases bind_eq_ok_iff.mp h with ⟨b, hb, -⟩
      exact exists_read_of_accepts hb
    · exact exists_read_of_accepts h
  constructor
  · intro h
    rcases hread h with ⟨y, hy⟩
    rw [accepts_guarded_eq hc hy, accepts_test hc hy rfl] at h
    split at h
    · cases h
    · exact ⟨y, hy, h⟩
  · rintro ⟨y, hy, h⟩
    rw [accepts_guarded_eq hc hy, accepts_test hc hy rfl, h,
      (OperatorTable.exists_relate_of_evaluate hop h).1, Bool.and_false]
    rfl

/-- A value that can be compared with a moment of a clock, as the field holds it, has a
    place on a line on which all moments of that clock keep their order. -/
theorem exists_line {y : Value} {e : Moment} {r : Relation} (a : Accessor)
    (h : Value.relate (Value.align y (asFieldValue a e)).1 (Value.align y (asFieldValue a e)).2 =
      .ok r) :
    ∃ (p : Int) (line : Moment → Int), ∀ f : Moment, f.offset = e.offset →
      Value.relate (Value.align y (asFieldValue a f)).1 (Value.align y (asFieldValue a f)).2 =
        .ok (.ofOrdering (compare p (line f))) ∧
      ∀ g : Moment, g.offset = e.offset → f.wall ≤ g.wall → line f ≤ line g := by
  have hdays {f g : Moment} (hle : f.wall ≤ g.wall) :
      (f.date.ordinal : Int) ≤ g.date.ordinal := by
    rw [← f.wall_div, ← g.wall_div]
    exact Int.ediv_le_ediv (by decide) hle
  -- Dates are compared by natural numbers and the line has integers.
  have hcompare (i j : Nat) : compare i j = compare (i : Int) j := by
    simp only [compare, compareOfLessAndEq, Int.ofNat_lt, Int.ofNat_inj]
  cases hfield : holdsDates a with
  | true =>
      -- The edges are days: a date is compared with their numbers, and a moment, on its own
      -- clock, with their starts.
      simp only [asFieldValue, hfield, if_true] at h ⊢
      rcases Value.eq_of_relate_align (.inl ⟨_, rfl⟩) h with ⟨d, rfl⟩ | ⟨m, rfl⟩
      · refine ⟨d.ordinal, fun f => f.date.ordinal, fun f _ => ⟨?_, fun g _ hle => hdays hle⟩⟩
        rw [← hcompare]
        exact (Value.ordered_of_date d f.date).relate
      · refine ⟨m.wall, fun f => f.date.ordinal * dayMicros, fun f _ =>
          ⟨(Value.ordered_of_moment_date m f.date).relate, fun g _ hle => ?_⟩⟩
        exact Int.mul_le_mul_of_nonneg_right (hdays hle) (by decide)
  | false =>
      -- The edges are moments: beside a date they are their days, and beside a moment their
      -- instants, which differ from the readings of their clock by one offset.
      simp only [asFieldValue, hfield, Bool.false_eq_true, if_false] at h ⊢
      rcases Value.eq_of_relate_align (.inr ⟨_, rfl⟩) h with ⟨d, rfl⟩ | ⟨m, rfl⟩
      · refine ⟨d.ordinal, fun f => f.date.ordinal, fun f _ => ⟨?_, fun g _ hle => hdays hle⟩⟩
        rw [← hcompare]
        exact (Value.ordered_of_date_moment d f).relate
      · have hcomparable := Value.comparable_of_relate h
        refine ⟨m.instant, Moment.instant, fun f hf =>
          ⟨(Value.ordered_of_moments ((Moment.comparable_congr hf).mpr hcomparable)).relate,
            fun g hg hle => ?_⟩⟩
        rw [Moment.instant, Moment.instant, Moment.offsetMicros, Moment.offsetMicros, hf, hg]
        exact Int.sub_le_sub_right hle _

/-- What is on the side of a window at one edge is there at an edge that is farther away. -/
theorem evaluate_windowSide {y : Value} {e f : Moment} (a : Accessor)
    (hoffset : f.offset = e.offset) (hle : if past then f.wall ≤ e.wall else e.wall ≤ f.wall)
    (h : OperatorTable.standard.evaluate (windowSide past) y (asFieldValue a e) = .ok true) :
    OperatorTable.standard.evaluate (windowSide past) y (asFieldValue a f) = .ok true := by
  have hside : (windowSide past).isComparison = true := by
    cases past <;> rfl
  rcases OperatorTable.exists_relate_of_evaluate hside h with ⟨hnull, r, hr⟩
  rcases exists_line a hr with ⟨p, line, hline⟩
  rw [OperatorTable.evaluate_related hside hnull (isNull_asFieldValue a e) (hline e rfl).1,
    Except.ok.injEq] at h
  rw [OperatorTable.evaluate_related hside hnull (isNull_asFieldValue a f) (hline f hoffset).1,
    Except.ok.injEq]
  -- The value is beyond the nearer edge, and so it is beyond the other one.
  cases past with
  | true =>
      refine (Operator.admits_compare _ _).2.2.2.mpr ?_
      exact Int.le_trans ((hline f hoffset).2 e rfl hle) ((Operator.admits_compare _ _).2.2.2.mp h)
  | false =>
      refine (Operator.admits_compare _ _).2.1.mpr ?_
      exact Int.le_trans ((Operator.admits_compare _ _).2.1.mp h) ((hline e rfl).2 f hoffset hle)

/-- Relative windows of dates, by number and by unit. Time stands still.

    Of two windows on one field, in one direction and by one unit, the one that reaches
    farther accepts whatever the other one does, as long as it does not reach out of the
    calendar. A window of some weeks is that of seven times as many days, and a window of
    some years that of twelve times as many months; if one of them is out of the calendar,
    so is the other. -/
theorem verdict_dateWindow (hc : c.operators = .standard) (entity : TypeExpr) (a : Accessor)
    (past : Bool) :
    (∀ k l unit m n, c.IsDateWindow entity k a unit m past → c.IsDateWindow entity l a unit n past →
      m ≤ n → c.now.CanShift unit (windowAmount past n) → ∀ v,
        c.verdict entity k v = .ok true → c.verdict entity l v = .ok true) ∧
    (∀ k l n, c.IsDateWindow entity k a .week n past →
      c.IsDateWindow entity l a .day (7 * n) past →
        c.compileCriterion entity k = c.compileCriterion entity l) ∧
    (∀ k l n, c.IsDateWindow entity k a .year n past →
      c.IsDateWindow entity l a .month (12 * n) past →
        c.compileCriterion entity k = c.compileCriterion entity l) := by
  have hside : (windowSide past).isComparison = true := by
    cases past <;> rfl
  have hscale (i n : Int) : windowAmount past (i * n) = i * windowAmount past n := by
    cases past with
    | true => exact (Int.mul_neg i n).symm
    | false => rfl
  refine ⟨fun k l unit m n hk hl hle hstays v hv => ?_, fun k l n hk hl => ?_,
    fun k l n hk hl => ?_⟩
  -- The narrower window has accepted, so its edge exists; the wider one's exists by assumption.
  · rcases hk.verdict_eq_ok_iff.mp hv with ⟨e, he, haccepts⟩
    rcases Moment.exists_shift_iff.mpr hstays with ⟨f, hf⟩
    rcases (accepts_guarded_eq_true_iff hc hside).mp haccepts with ⟨y, hread, hy⟩
    refine hl.verdict_eq_ok_iff.mpr ⟨f, hf, ?_⟩
    refine (accepts_guarded_eq_true_iff hc hside).mpr ⟨y, hread, evaluate_windowSide a ?_ ?_ hy⟩
    -- Both edges come from the clock and are on its offset.
    · rw [Moment.offset_of_shift hf, Moment.offset_of_shift he]
    · cases past with
      | true => exact Moment.wall_le_of_shift hf he (Int.neg_le_neg hle)
      | false => exact Moment.wall_le_of_shift he hf hle
  -- Seven days are what the calendar makes of a week, and twelve months of a year.
  · rw [hk.compile, hl.compile, hscale, Moment.shift_week]
  · rw [hk.compile, hl.compile, hscale, Moment.shift_year]

section Shifts

/-- The end of a month that is longer than the one before it. -/
def inMarch : Context :=
  { ofShifts with
    now := ⟨⟨2020, 3, 31, by decide⟩, .ofMicros (12 * 3600 * secondMicros), some .utc⟩ }

/-- Shifts that started at most a number of units ago. -/
def startedWithin (amount : Int) (unit : String) : Criterion where
  type := .dateRelative
  parameters := [("field", .text "starts_at"), ("unit", .text unit), ("amount", .int amount),
    ("direction", .text "past")]

/-- The shift started two months ago, when January ended, so it is among those of the last
    three months. Two weeks and a year are as long as they should be. -/
theorem verdict_dateWindow_lateShift :
    inMarch.verdict (Catalog.entityNamed "Shift") (startedWithin 3 "months") lateShift = .ok true ∧
    inMarch.compileCriterion (Catalog.entityNamed "Shift") (startedWithin 2 "weeks") =
      inMarch.compileCriterion (Catalog.entityNamed "Shift") (startedWithin 14 "days") ∧
    inMarch.compileCriterion (Catalog.entityNamed "Shift") (startedWithin 1 "year") =
      inMarch.compileCriterion (Catalog.entityNamed "Shift") (startedWithin 12 "months") := by
  have hresolve : ∃ a, inMarch.resolve (Catalog.entityNamed "Shift") "starts_at" = .ok a :=
    ⟨_, rfl⟩
  rcases hresolve with ⟨a, ha⟩
  -- A phrase of the filter is a window once its unit and amount are read.
  have hwindow (amount : Int) (unit word : String) (u : CalendarUnit)
      (hunit : ((startedWithin amount unit).settings.choice "unit"
        ["day", "week", "month", "year"]).toOption = some word)
      (hword : (CalendarUnit.read word).toOption = some u)
      (hamount : ((startedWithin amount unit).settings.integer "amount").toOption = some amount) :
      inMarch.IsDateWindow (Catalog.entityNamed "Shift") (startedWithin amount unit) a u amount
        true :=
    ⟨rfl, ha, ⟨word, toOption_eq_some_iff.mp hunit, toOption_eq_some_iff.mp hword⟩,
      toOption_eq_some_iff.mp hamount, rfl⟩
  have hmonths :
      inMarch.verdict (Catalog.entityNamed "Shift") (startedWithin 2 "months") lateShift =
      .ok true := toOption_eq_some_iff.mp (by decide +kernel)
  have hstandard : inMarch.operators = .standard := rfl
  rcases verdict_dateWindow hstandard (Catalog.entityNamed "Shift") a true with
    ⟨hlonger, hweeks, hyears⟩
  refine ⟨?_, ?_, ?_⟩
  · exact hlonger _ _ .month 2 3
      (hwindow 2 "months" "month" .month (by decide +kernel) (by decide +kernel)
        (by decide +kernel))
      (hwindow 3 "months" "month" .month (by decide +kernel) (by decide +kernel)
        (by decide +kernel))
      (by decide) (by decide +kernel) _ hmonths
  · exact hweeks _ _ 2
      (hwindow 2 "weeks" "week" .week (by decide +kernel) (by decide +kernel) (by decide +kernel))
      (hwindow 14 "days" "day" .day (by decide +kernel) (by decide +kernel) (by decide +kernel))
  · exact hyears _ _ 1
      (hwindow 1 "year" "year" .year (by decide +kernel) (by decide +kernel) (by decide +kernel))
      (hwindow 12 "months" "month" .month (by decide +kernel) (by decide +kernel)
        (by decide +kernel))

end Shifts

end Context

end Criteria
