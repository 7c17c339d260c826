import Criteria.Proofs.Calendar.DayCircle
import Criteria.Proofs.Compile.Partition
import Criteria.Proofs.Compile.Target

/-!
# Filters of Times

What filters of times say about a candidate.

The value of the field is reduced to a time of day without an offset, and what it is
compared with is taken as it was read. So a bound that was written with an offset cannot
be compared with anything, though it could be compared with the other bound when the
filter was compiled (`Context.exists_accepts_timeFilter_iff`). A range without offsets is
an arc of the circle of the day (`Context.verdict_timeRange`).

## Main definitions

* `NamedType.isTime`: The types whose values have a time of day.
* `Criterion.settings`: The parameters of a criterion as its filter looks them up.
* `Context.IsTimeRange`: What a range of times is made of.

## Theorems

* `Context.accepts_guarded_eq`: The verdict where null is refused first.
* `Context.compileCriterion_of_filter?`: A custom filter is compiled by its own rule.
* `Context.exists_isTimeRange`, `Context.IsTimeRange.compile`: What is compiled.
* `Context.exists_accepts_timeFilter_iff`: When there is a verdict.
* `Context.verdict_timeRange`: The verdict of a range without offsets.
-/

namespace Criteria

/-- Values of the type have a time of day. -/
def NamedType.isTime : NamedType → Bool
  | clock | moment | duration => true
  | _ => false

theorem Schema.isSome_wallMicros? {s : Schema} {t : NamedType} {v : Value} (ht : t.isTime = true)
    (h : s.isInstance v t = true) : v.wallMicros?.isSome = true := by
  rcases s.isInstance_cases h with
    rfl | rfl | ⟨b, -, rfl⟩ | ⟨m, -, rfl⟩ | ⟨m, e, -, -, hbase⟩ | ⟨name, rfl⟩
  -- By the kind of the value: only moments, times of day and
  -- durations are instances of a time type.
  · cases v with
    | moment | clock | duration => rfl
    | set frozen => cases frozen <;> cases ht
    | _ => cases ht
  · cases ht
  · cases ht
  · cases ht
  -- An enumeration extends texts or whole numbers at most, so its members are no times.
  · cases hkind : e.kind <;> rw [hkind] at hbase
    · exact absurd hbase List.not_mem_nil
    · rw [List.mem_singleton.mp hbase] at ht
      cases ht
    · rw [List.mem_singleton.mp hbase] at ht
      cases ht
    · rw [List.mem_singleton.mp hbase] at ht
      cases ht
  · cases ht

/-- The parameters as the filter looks them up. -/
def Criterion.settings (k : Criterion) : Parameters :=
  .ofEntries k.type k.parameters

/-- The offset that a bound of a range of times is written with. -/
def Criterion.boundOffset? (k : Criterion) (key : String) : Option Offset :=
  ((k.settings.get? key).bind fun raw => raw.readTime.toOption).bind ClockTime.offset

namespace OperatorTable

variable {op : Operator} {b : ClockTime} {t : TimeOfDay}

/-- Times of day without an offset are compared as they are. -/
theorem evaluate_clock (hop : op.isComparison = true) (hb : b.offset = none) :
    standard.evaluate op (.clock ⟨t, none⟩) (.clock b) =
      .ok (op.admits (compare t.micros b.time.micros)) := by
  refine evaluate_related hop rfl rfl ?_
  show Value.relation? (ClockTime.compare? ⟨t, none⟩ b) = _
  rw [ClockTime.compare?, hb]
  rfl

/-- A time of day without an offset cannot be compared with one that has an offset. -/
theorem not_exists_evaluate_clock (hop : op.isComparison = true) {o : Offset}
    (hb : b.offset = some o) :
    ¬∃ r, standard.evaluate op (.clock ⟨t, none⟩) (.clock b) = .ok r := by
  -- Times of day with and without an offset have no order, so comparing them is an error whatever
  -- the operator makes of the relation.
  have hrelate : Value.relate (.clock ⟨t, none⟩) (.clock b) = .error .mismatch := by
    show Value.relation? (ClockTime.compare? ⟨t, none⟩ b) = _
    rw [ClockTime.compare?, hb]
    rfl
  have hrelated (accepted : Relation → Bool) :
      Comparison.related accepted (.clock ⟨t, none⟩) (.clock b) = .error .mismatch := by
    show (Value.relate (.clock ⟨t, none⟩) (.clock b)).map accepted = _
    rw [hrelate]
    rfl
  rintro ⟨r, hr⟩
  -- Each comparison puts its own test to that relation; the other operators are excluded by `hop`.
  cases op with
  | greater | greaterOrEqual | less | lessOrEqual =>
      have hfails : passing (unworded (Comparison.related _ (.clock ⟨t, none⟩) (.clock b))) =
          .ok r := hr
      rw [hrelated] at hfails
      cases hfails
  | _ => cases hop

end OperatorTable

namespace Context

variable {c : Context} {entity : TypeExpr} {k : Criterion} {a : Accessor} {op : Operator}
  {t : NamedType} {v y : Value} {spec : Spec} {first last : ClockTime} {inclusive : Bool}

/-- Where null is refused first, the verdict is that of what comes after. -/
theorem accepts_guarded_eq (hc : c.operators = .standard) (hread : a.read c.schema v = .ok y)
    (spec : Spec) : (c.guarded a spec).accepts c.schema v =
      if a.nullable && y.isNull then .ok false else spec.accepts c.schema v := by
  have hnotNull : (c.notNull a).accepts c.schema v = .ok !y.isNull := by
    rw [notNull, accepts_test hc hread rfl]
    rfl
  rw [guarded]
  cases a.nullable with
  | false => rfl
  | true =>
      rw [if_pos rfl, Spec.accepts_conj, Spec.acceptsAll, hnotNull]
      cases y.isNull with
      | true => rfl
      | false => exact Spec.acceptsAll_singleton spec

/-- The tests of the two bounds. -/
def rangeTests (c : Context) (a : Accessor) (inclusive : Bool) (first last : ClockTime) :
    List Spec :=
  [c.test a (boundOperators inclusive).1 (.clock first) (some .timeOfDay),
    c.test a (boundOperators inclusive).2 (.clock last) (some .timeOfDay)]

/-- The specification of a range of times: both tests, or one of them where the range
    goes on past midnight. -/
def rangeSpec (c : Context) (a : Accessor) (inclusive : Bool) (first last : ClockTime)
    (o : Ordering) : Spec :=
  c.guarded a (if o = .gt then .disj (c.rangeTests a inclusive first last)
    else .conj (c.rangeTests a inclusive first last))

/-- The criterion is a range of times: a field that holds times, two bounds as they are
    read, and whether they are in the range themselves. -/
structure IsTimeRange (c : Context) (entity : TypeExpr) (k : Criterion) (a : Accessor)
    (first last : ClockTime) (inclusive : Bool) : Prop where
  type : k.type = .timeRange
  field : c.fieldOf entity k.settings = .ok a
  holds : c.holdsTimes a = true
  start : ∃ raw, k.settings.get? "start" = some raw ∧ raw.readTime = .ok first
  stop : ∃ raw, k.settings.get? "end" = some raw ∧ raw.readTime = .ok last
  flag : k.settings.flag "inclusive" true = .ok inclusive

/-- A custom criterion is compiled by the filter of its type. -/
theorem compileCriterion_of_filter? (hkind : k.type.kind = .custom)
    {f : Context → TypeExpr → Parameters → Except Fault Spec} (hf : filter? k.type = some f) :
    c.compileCriterion entity k = f c entity k.settings := by
  rw [compileCriterion_eq, Criterion.kind, hkind]
  show c.compileCustom entity k.type k.parameters = _
  rw [compileCustom, hf]
  rfl

theorem timeField_eq_ok_iff {p : Parameters} :
    c.timeField entity p = .ok a ↔ c.fieldOf entity p = .ok a ∧ c.holdsTimes a = true := by
  rw [timeField, bind_eq_ok_iff]
  constructor
  · rintro ⟨b, hb, h⟩
    split at h
    · rw [← Except.ok.inj h]
      exact ⟨hb, ‹_›⟩
    · exact absurd h defective_ne_ok
  · rintro ⟨ha, hholds⟩
    exact ⟨a, ha, if_pos hholds⟩

theorem compileCriterion_timeRange (hk : k.type = .timeRange) :
    c.compileCriterion entity k = c.timeRange entity k.settings :=
  compileCriterion_of_filter? (by rw [hk]; rfl) (by rw [hk]; rfl)

theorem timeBound_eq_ok_iff {raw : Value} :
    timeBound raw = .ok first ↔ raw.readTime = .ok first := by
  refine ⟨readTime_of_timeBound, fun h => ?_⟩
  rw [timeBound, h]

/-- A range of times compiles to both tests or to one of them, as its bounds stand. -/
theorem IsTimeRange.compile (hk : c.IsTimeRange entity k a first last inclusive) {o : Ordering}
    (ho : first.compare? last = some o) :
    c.compileCriterion entity k = .ok (c.rangeSpec a inclusive first last o) := by
  rcases hk.start with ⟨rawStart, hstart, hfirst⟩
  rcases hk.stop with ⟨rawEnd, hstop, hlast⟩
  have hboth : k.settings.requireBoth "start" "end" = .ok (rawStart, rawEnd) := by
    rw [Parameters.requireBoth, hstart, hstop]
  -- The compilation is followed step by step; what each step yields is a field of `hk`.
  rw [compileCriterion_timeRange hk.type]
  refine bind_eq_ok_iff.mpr ⟨a, timeField_eq_ok_iff.mpr ⟨hk.field, hk.holds⟩, ?_⟩
  refine bind_eq_ok_iff.mpr ⟨(rawStart, rawEnd), hboth, ?_⟩
  refine bind_eq_ok_iff.mpr ⟨first, timeBound_eq_ok_iff.mpr hfirst, ?_⟩
  refine bind_eq_ok_iff.mpr ⟨last, timeBound_eq_ok_iff.mpr hlast, ?_⟩
  refine bind_eq_ok_iff.mpr ⟨inclusive, hk.flag, ?_⟩
  dsimp only
  -- The order of the bounds only decides how the two tests are joined.
  rw [ho]
  cases o <;> rfl

/-- A range of times that compiles is made of bounds that can be compared. -/
theorem exists_isTimeRange (hk : k.type = .timeRange)
    (h : c.compileCriterion entity k = .ok spec) :
    ∃ a first last inclusive o, c.IsTimeRange entity k a first last inclusive ∧
      first.compare? last = some o := by
  -- Every step has succeeded, and read backwards the steps are the fields of `IsTimeRange`.
  rw [compileCriterion_timeRange hk] at h
  rcases bind_eq_ok_iff.mp h with ⟨a, ha, h⟩
  rcases bind_eq_ok_iff.mp h with ⟨⟨rawStart, rawEnd⟩, hboth, h⟩
  rcases bind_eq_ok_iff.mp h with ⟨first, hfirst, h⟩
  rcases bind_eq_ok_iff.mp h with ⟨last, hlast, h⟩
  rcases bind_eq_ok_iff.mp h with ⟨inclusive, hflag, h⟩
  have hfield := timeField_eq_ok_iff.mp ha
  have hget := Parameters.get?_of_requireBoth hboth
  have hrange : c.IsTimeRange entity k a first last inclusive :=
    ⟨hk, hfield.1, hfield.2, ⟨rawStart, hget.1, timeBound_eq_ok_iff.mp hfirst⟩,
      ⟨rawEnd, hget.2, timeBound_eq_ok_iff.mp hlast⟩, hflag⟩
  -- Bounds without an order are refused, against `h`.
  cases ho : first.compare? last with
  | some o => exact ⟨a, first, last, inclusive, o, hrange, ho⟩
  | none =>
      dsimp only at h
      rw [ho] at h
      cases h

/-- What is read of the field is null or has a time of day. -/
theorem exists_read_time (ha : c.fieldOf entity k.settings = .ok a)
    (hvalue : a.valueType = .named t) (ht : t.isTime = true) (hv : c.schema.Suits v entity) :
    ∃ y, a.read c.schema v = .ok y ∧ (y.isNull = false → y.wallMicros?.isSome = true) := by
  rcases exists_path_of_fieldOf ha with ⟨path, -, hresolve⟩
  rcases Schema.exists_readAll_of_resolve hresolve hv with ⟨y, hy, -, hconforms, -⟩
  refine ⟨y, (c.schema.read_eq_readAll a v).trans hy, fun hnull => ?_⟩
  have hnamed := hconforms hnull
  rw [hvalue] at hnamed
  exact Schema.isSome_wallMicros? ht hnamed.typed.1

section Tests

variable (hc : c.operators = .standard) (hread : a.read c.schema v = .ok y)
  (hop : op.isComparison = true) {bound : ClockTime}

include hc hread

/-- A test of times looks at the time of day. -/
theorem accepts_timeTest : (c.test a op (.clock bound) (some .timeOfDay)).accepts c.schema v =
    OperatorTable.standard.evaluate op y.timeOfDay (.clock bound) :=
  accepts_test hc hread rfl

include hop

/-- Null is at no time. -/
theorem accepts_timeTest_null (hnull : y.isNull = true) :
    (c.test a op (.clock bound) (some .timeOfDay)).accepts c.schema v = .ok false := by
  rw [accepts_timeTest hc hread, Value.eq_null_of_isNull hnull]
  cases op with
  | greater | greaterOrEqual | less | lessOrEqual => rfl
  | _ => cases hop

/-- A bound without an offset is compared with the time of day. -/
theorem accepts_timeTest_clock {τ : TimeOfDay} (hy : y.timeOfDay = .clock ⟨τ, none⟩)
    (hbound : bound.offset = none) :
    (c.test a op (.clock bound) (some .timeOfDay)).accepts c.schema v =
      .ok (op.admits (compare τ.micros bound.time.micros)) := by
  rw [accepts_timeTest hc hread, hy, OperatorTable.evaluate_clock hop hbound]

/-- A bound with an offset is not compared with any time of day. -/
theorem not_exists_accepts_timeTest {τ : TimeOfDay} (hy : y.timeOfDay = .clock ⟨τ, none⟩)
    {o : Offset} (hbound : bound.offset = some o) :
    ¬∃ b, (c.test a op (.clock bound) (some .timeOfDay)).accepts c.schema v = .ok b := by
  rw [accepts_timeTest hc hread, hy]
  exact OperatorTable.not_exists_evaluate_clock hop hbound

end Tests

/-- The operators for bounds compare by order. -/
theorem isComparison_boundOperators (inclusive : Bool) :
    (boundOperators inclusive).1.isComparison = true ∧
      (boundOperators inclusive).2.isComparison = true := by
  cases inclusive <;> exact ⟨rfl, rfl⟩

/-- The operators for bounds ask on which side of the bounds a time is. -/
theorem admits_boundOperators (inclusive : Bool) (s e τ : TimeOfDay) :
    ((boundOperators inclusive).1.admits (compare τ.micros s.micros) = true ↔
      if inclusive then s.micros ≤ τ.micros else s.micros < τ.micros) ∧
    ((boundOperators inclusive).2.admits (compare τ.micros e.micros) = true ↔
      if inclusive then τ.micros ≤ e.micros else τ.micros < e.micros) := by
  -- The three outcomes of a comparison as facts about numbers.
  have hsides (m n : Nat) : (compare m n = .gt ↔ n < m) ∧ (compare m n = .eq ↔ m = n) ∧
      (compare m n = .lt ↔ m < n) :=
    ⟨Nat.compare_eq_gt, Nat.compare_eq_eq, Nat.compare_eq_lt⟩
  have hstart := hsides τ.micros s.micros
  have hstop := hsides τ.micros e.micros
  cases inclusive with
  | true =>
      refine ⟨Bool.or_eq_true_iff.trans ?_, Bool.or_eq_true_iff.trans ?_⟩
      · rw [beq_iff_eq, beq_iff_eq, hstart.1, hstart.2.1, if_pos rfl]
        omega
      · rw [beq_iff_eq, beq_iff_eq, hstop.2.2, hstop.2.1, if_pos rfl]
        omega
  | false =>
      refine ⟨beq_iff_eq.trans ?_, beq_iff_eq.trans ?_⟩
      · rw [hstart.1, if_neg Bool.false_ne_true]
      · rw [hstop.2.2, if_neg Bool.false_ne_true]

section Ranges

variable (hc : c.operators = .standard) (hread : a.read c.schema v = .ok y)

include hc hread

/-- Null is in no range. -/
theorem accepts_rangeSpec_null (hnull : y.isNull = true) (o : Ordering) :
    (c.rangeSpec a inclusive first last o).accepts c.schema v = .ok false := by
  have hops := isComparison_boundOperators inclusive
  have hnever {op : Operator} (hop : op.isComparison = true) (bound : ClockTime) :
      (c.test a op (.clock bound) (some .timeOfDay)).accepts c.schema v = .ok false :=
    accepts_timeTest_null hc hread hop hnull
  rw [rangeSpec, accepts_guarded_eq hc hread]
  split
  · rfl
  split
  · rw [Spec.accepts_disj, rangeTests, Spec.acceptsAny, hnever hops.1, Spec.acceptsAny,
      hnever hops.2]
    rfl
  · rw [Spec.accepts_conj, rangeTests, Spec.acceptsAll, hnever hops.1]
    rfl

/-- A range without offsets is an arc of the circle of the day. -/
theorem accepts_rangeSpec {τ : TimeOfDay} (hnull : y.isNull = false)
    (hy : y.timeOfDay = .clock ⟨τ, none⟩) (hfirst : first.offset = none)
    (hlast : last.offset = none) :
    (c.rangeSpec a inclusive first last (compare first.time.micros last.time.micros)).accepts
      c.schema v = .ok (decide (TimeOfDay.IsOnArc inclusive first.time last.time τ)) := by
  have hops := isComparison_boundOperators inclusive
  have hlower := accepts_timeTest_clock hc hread hops.1 hy hfirst
  have hupper := accepts_timeTest_clock hc hread hops.2 hy hlast
  have hadmits := admits_boundOperators inclusive first.time last.time τ
  rw [rangeSpec, accepts_guarded_eq hc hread, hnull, Bool.and_false, if_neg Bool.false_ne_true]
  rcases Nat.lt_or_ge last.time.micros first.time.micros with hlt | hle
  -- The arc runs over midnight: a time lies on it when one of the two tests accepts.
  · have harc : decide (TimeOfDay.IsOnArc inclusive first.time last.time τ) =
        ((boundOperators inclusive).1.admits (compare τ.micros first.time.micros) ||
          (boundOperators inclusive).2.admits (compare τ.micros last.time.micros)) := by
      rw [Bool.eq_iff_iff, decide_eq_true_iff, TimeOfDay.isOnArc_of_lt inclusive hlt,
        Bool.or_eq_true, hadmits.1, hadmits.2]
      cases inclusive <;> rfl
    rw [if_pos (Nat.compare_eq_gt.mpr hlt), Spec.accepts_disj, rangeTests, Spec.acceptsAny, hlower,
      Spec.acceptsAny_singleton, hupper, harc]
    cases (boundOperators inclusive).1.admits (compare τ.micros first.time.micros) <;> rfl
  -- Within a day both tests have to accept.
  · have harc : decide (TimeOfDay.IsOnArc inclusive first.time last.time τ) =
        ((boundOperators inclusive).1.admits (compare τ.micros first.time.micros) &&
          (boundOperators inclusive).2.admits (compare τ.micros last.time.micros)) := by
      rw [Bool.eq_iff_iff, decide_eq_true_iff, TimeOfDay.isOnArc_of_le inclusive hle,
        Bool.and_eq_true, hadmits.1, hadmits.2]
      cases inclusive <;> rfl
    have hnot : ¬compare first.time.micros last.time.micros = .gt :=
      fun h => Nat.not_lt.mpr hle (Nat.compare_eq_gt.mp h)
    rw [if_neg hnot, Spec.accepts_conj, rangeTests, Spec.acceptsAll, hlower,
      Spec.acceptsAll_singleton, hupper, harc]
    cases (boundOperators inclusive).1.admits (compare τ.micros first.time.micros) <;> rfl

/-- A bound with an offset cannot be put to any value. -/
theorem not_exists_accepts_rangeSpec {τ : TimeOfDay} (hnull : y.isNull = false)
    (hy : y.timeOfDay = .clock ⟨τ, none⟩) {u : Offset} (hfirst : first.offset = some u)
    (o : Ordering) :
    ¬∃ b, (c.rangeSpec a inclusive first last o).accepts c.schema v = .ok b := by
  have hops := isComparison_boundOperators inclusive
  have hlower := not_exists_accepts_timeTest hc hread hops.1 hy hfirst
  rw [rangeSpec, accepts_guarded_eq hc hread, hnull, Bool.and_false, if_neg Bool.false_ne_true]
  -- The test of the first bound is put to the value in any case.
  rintro ⟨b, hb⟩
  split at hb
  · rw [Spec.accepts_disj, rangeTests, Spec.acceptsAny] at hb
    rcases bind_eq_ok_iff.mp hb with ⟨lower, h, -⟩
    exact hlower ⟨lower, h⟩
  · rw [Spec.accepts_conj, rangeTests, Spec.acceptsAll] at hb
    rcases bind_eq_ok_iff.mp hb with ⟨lower, h, -⟩
    exact hlower ⟨lower, h⟩

end Ranges

/-- Bounds that can be compared both have an offset, or neither has one. -/
theorem compare?_cases {o : Ordering} (ho : first.compare? last = some o) :
    (first.offset = none ∧ last.offset = none ∧ o = compare first.time.micros last.time.micros) ∨
      ∃ u w, first.offset = some u ∧ last.offset = some w := by
  rw [ClockTime.compare?] at ho
  -- One bound with an offset and one without have no order, which leaves two of the four cases.
  cases hfirst : first.offset with
  | none =>
      cases hlast : last.offset with
      | none =>
          rw [hfirst, hlast] at ho
          exact .inl ⟨rfl, rfl, (Option.some.inj ho).symm⟩
      | some w =>
          rw [hfirst, hlast] at ho
          cases ho
  | some u =>
      cases hlast : last.offset with
      | none =>
          rw [hfirst, hlast] at ho
          cases ho
      | some w => exact .inr ⟨u, w, rfl, rfl⟩

theorem boundOffset?_eq {key : String} {bound : ClockTime}
    (h : ∃ raw, k.settings.get? key = some raw ∧ raw.readTime = .ok bound) :
    k.boundOffset? key = bound.offset := by
  rcases h with ⟨raw, hraw, hbound⟩
  rw [Criterion.boundOffset?, hraw, Option.bind_some, hbound]
  rfl

/-- A window of times compares with the time that it reaches to. -/
theorem exists_test_of_timeRelative (hk : k.type = .timeRelative)
    (h : c.compileCriterion entity k = .ok spec) (ha : c.fieldOf entity k.settings = .ok a) :
    ∃ op τ, op.isComparison = true ∧
      spec = c.guarded a (c.test a op (.clock ⟨τ, none⟩) (some .timeOfDay)) := by
  rw [compileCriterion_of_filter? (by rw [hk]; rfl) (by rw [hk]; rfl : filter? k.type = _)] at h
  rcases bind_eq_ok_iff.mp h with ⟨b, hb, h⟩
  rcases bind_eq_ok_iff.mp h with ⟨⟨edge, op⟩, hedge, h⟩
  obtain rfl := Except.ok.inj (ha.symm.trans (timeField_eq_ok_iff.mp hb).1)
  refine ⟨op, edge.time, ?_, (Except.ok.inj h).symm⟩
  -- What the phrase says does not matter: either direction picks a comparison.
  rcases bind_eq_ok_iff.mp hedge with ⟨unit, -, hedge⟩
  rcases bind_eq_ok_iff.mp hedge with ⟨amount, -, hedge⟩
  rcases bind_eq_ok_iff.mp hedge with ⟨direction, -, hedge⟩
  split at hedge
  · rcases bind_eq_ok_iff.mp hedge with ⟨m, -, hm⟩
    cases hm
    rfl
  · rcases bind_eq_ok_iff.mp hedge with ⟨m, -, hm⟩
    cases hm
    rfl

section Shifts

/-- Shifts that take from one to another time of the clock. -/
def lastingBetween (start stop : String) (inclusive : Bool) : Criterion where
  type := .timeRange
  parameters := [("field", .text "duration"), ("start", .text start), ("end", .text stop),
    ("inclusive", .bool inclusive)]

/-- The two bounds are read, and the length is looked up. -/
theorem isTimeRange_lastingBetween {start stop : String} {first last : ClockTime}
    (hstart : start ≠ "") (hfirst : Value.readTime (.text start) = .ok first)
    (hstop : stop ≠ "") (hlast : Value.readTime (.text stop) = .ok last)
    (ha : ofShifts.resolve (Catalog.entityNamed "Shift") "duration" = .ok a)
    (hvalue : a.valueType = .named .duration) (inclusive : Bool) :
    ofShifts.IsTimeRange (Catalog.entityNamed "Shift") (lastingBetween start stop inclusive) a
      first last inclusive := by
  have hgiven {key text : String} (h : text ≠ "") {rest : List String}
      (hspellings : Parameters.spellings key = key :: rest)
      (hlookup : (lastingBetween start stop inclusive).settings.entries.lookup (Text.lower key) =
        some (.text text)) :
      (lastingBetween start stop inclusive).settings.get? key = some (.text text) := by
    -- A bound that is given counts as present because its text is not empty.
    have hpresent : (!Parameters.isMissing (.text text)) = true := by
      show (!(some text == some "")) = true
      rw [Bool.not_eq_true']
      exact beq_eq_false_iff_ne.mpr fun heq => h (Option.some.inj heq)
    rw [Parameters.get?, hspellings, List.findSome?_cons, hlookup, Option.filter_some, hpresent]
    rfl
  refine ⟨rfl, ha, ?_, ⟨.text start, hgiven hstart rfl rfl, hfirst⟩,
    ⟨.text stop, hgiven hstop rfl rfl, hlast⟩, ?_⟩
  · rw [holdsTimes, hvalue]
    rfl
  · cases inclusive <;> rfl

theorem exists_resolve_duration : ∃ a,
    ofShifts.resolve (Catalog.entityNamed "Shift") "duration" = .ok a ∧
      a.valueType = .named .duration ∧
      ∀ m d, a.read ofShifts.schema (shiftOf m d) = .ok (.duration d) :=
  ⟨_, rfl, rfl, fun _ _ => rfl⟩

end Shifts

/-- A filter of times that compiles, on a field whose type has times of day, gives a
    verdict on every candidate, but for a range whose bounds are written with offsets: it
    gives none where the field is not null. -/
theorem exists_accepts_timeFilter_iff (hc : c.operators = .standard)
    (hk : k.type = .timeRange ∨ k.type = .timeRelative)
    (h : c.compileCriterion entity k = .ok spec) (ha : c.fieldOf entity k.settings = .ok a)
    (hvalue : a.valueType = .named t) (ht : t.isTime = true) (hv : c.schema.Suits v entity) :
    ∃ y, a.read c.schema v = .ok y ∧
      ((∃ b, spec.accepts c.schema v = .ok b) ↔ (k.type = .timeRange → y.isNull = false →
        k.boundOffset? "start" = none ∧ k.boundOffset? "end" = none)) := by
  rcases exists_read_time ha hvalue ht hv with ⟨y, hread, htime⟩
  refine ⟨y, hread, ?_⟩
  rcases hk with hk | hk
  -- A range: it has an answer exactly when no bound keeps an offset, and
  -- null is refused before any comparison.
  · rcases exists_isTimeRange hk h with ⟨a', first, last, inclusive, o, hrange, ho⟩
    obtain rfl := Except.ok.inj (ha.symm.trans hrange.field)
    obtain rfl := Except.ok.inj (h.symm.trans (hrange.compile ho))
    rw [boundOffset?_eq hrange.start, boundOffset?_eq hrange.stop]
    cases hnull : y.isNull with
    | true =>
        exact iff_of_true ⟨false, accepts_rangeSpec_null hc hread hnull o⟩ fun _ h => by cases h
    | false =>
        rcases Value.exists_timeOfDay (htime hnull) with ⟨τ, hτ, -⟩
        -- Two bounds that can be ordered keep offsets both or neither.
        rcases compare?_cases ho with ⟨hfirst, hlast, rfl⟩ | ⟨u, w, hfirst, -⟩
        · exact iff_of_true ⟨_, accepts_rangeSpec hc hread hnull hτ hfirst hlast⟩
            fun _ _ => ⟨hfirst, hlast⟩
        · refine iff_of_false (not_exists_accepts_rangeSpec hc hread hnull hτ hfirst o)
            fun hnone => ?_
          have hoffset := (hnone hk rfl).1
          rw [hfirst] at hoffset
          cases hoffset
  -- A relative time is computed from the clock and never keeps an
  -- offset, so it always has an answer.
  · rcases exists_test_of_timeRelative hk h ha with ⟨op, edge, hop, rfl⟩
    have hverdict : ∃ b, (c.guarded a (c.test a op (.clock ⟨edge, none⟩)
        (some .timeOfDay))).accepts c.schema v = .ok b := by
      refine exists_accepts_guarded hc hread ?_
      cases hnull : y.isNull with
      | true => exact ⟨false, accepts_timeTest_null hc hread hop hnull⟩
      | false =>
          rcases Value.exists_timeOfDay (htime hnull) with ⟨τ, hτ, -⟩
          exact ⟨_, accepts_timeTest_clock hc hread hop hτ rfl⟩
    exact iff_of_true hverdict fun hrange => by rw [hk] at hrange; cases hrange

/-- A shift of two hours lasts until a time that is between one and three o'clock. -/
theorem exists_accepts_timeFilter_iff_lateShift : ∃ spec b,
    ofShifts.compileCriterion (Catalog.entityNamed "Shift") (lastingBetween "01:00" "03:00" true) =
      .ok spec ∧ spec.accepts ofShifts.schema lateShift = .ok b := by
  have hcompiled : ∃ spec, ofShifts.compileCriterion (Catalog.entityNamed "Shift")
      (lastingBetween "01:00" "03:00" true) = .ok spec := ⟨_, rfl⟩
  rcases hcompiled with ⟨spec, hspec⟩
  rcases exists_resolve_duration with ⟨a, ha, hvalue, -⟩
  rcases exists_accepts_timeFilter_iff rfl (.inl rfl) hspec ha hvalue rfl
    isCandidate_lateShift.suits with ⟨y, -, hverdict⟩
  rcases hverdict.mpr fun _ _ => ⟨rfl, rfl⟩ with ⟨b, hb⟩
  exact ⟨spec, b, hspec, hb⟩

/-- Bounds of universal time. The criterion compiles, and then it cannot be put to a
    candidate that conforms to the type. -/
theorem not_exists_accepts_timeFilter_universal : ∃ spec,
    ofShifts.compileCriterion (Catalog.entityNamed "Shift")
      (lastingBetween "00:00+00:00" "23:59:59.999999+00:00" true) = .ok spec ∧
    ofShifts.schema.IsCandidate lateShift (Catalog.entityNamed "Shift") ∧
    ¬∃ b, spec.accepts ofShifts.schema lateShift = .ok b := by
  have hrun : (do
      let spec ← ofShifts.compileCriterion (Catalog.entityNamed "Shift")
        (lastingBetween "00:00+00:00" "23:59:59.999999+00:00" true)
      return (spec.accepts ofShifts.schema lateShift).toOption) = .ok none :=
    toOption_eq_some_iff.mp (by decide +kernel)
  rcases bind_eq_ok_iff.mp hrun with ⟨spec, hspec, hfails⟩
  refine ⟨spec, hspec, isCandidate_lateShift, fun ⟨b, hb⟩ => ?_⟩
  rw [hb] at hfails
  exact absurd (Except.ok.inj hfails) (Option.some_ne_none b)

/-- A range of times without offsets is an arc of the circle of the day. The field is of
    a type that has times of day.

    Null is not in the range. Any other value is exactly if its time of day is on the arc
    from the first bound to the last, with them or without; and this is the exact time of
    day but for lengths of time of hundreds of years, whose seconds are rounded. So of the
    range with its bounds and the range back without them exactly one holds the value. -/
theorem verdict_timeRange (hc : c.operators = .standard)
    (hk : c.IsTimeRange entity k a first last inclusive) (hfirst : first.offset = none)
    (hlast : last.offset = none) (hvalue : a.valueType = .named t) (ht : t.isTime = true)
    (hv : c.schema.Suits v entity) :
    ∃ y, a.read c.schema v = .ok y ∧
      (y.isNull = true → c.verdict entity k v = .ok false) ∧
      (y.isNull = false → ∃ τ : TimeOfDay, y.timeOfDay = .clock ⟨τ, none⟩ ∧
        (y.IsExact → y.wallMicros? = some (τ.micros : Int)) ∧
        c.verdict entity k v =
          .ok (decide (TimeOfDay.IsOnArc inclusive first.time last.time τ))) ∧
      (y.isNull = false → first.time ≠ last.time → inclusive = true →
        ∀ l, c.IsTimeRange entity l a last first false → ∃ b,
          c.verdict entity k v = .ok b ∧ c.verdict entity l v = .ok !b) := by
  rcases exists_read_time hk.field hvalue ht hv with ⟨y, hread, htime⟩
  have hcompare {s e : ClockTime} (hs : s.offset = none) (he : e.offset = none) :
      s.compare? e = some (compare s.time.micros e.time.micros) := by
    rw [ClockTime.compare?, hs, he]
  -- The verdict on a range is that of its specification, by the compilation above.
  have hverdict {l : Criterion} {s e : ClockTime} {i : Bool} (hl : c.IsTimeRange entity l a s e i)
      (hs : s.offset = none) (he : e.offset = none) {b : Bool}
      (h : (c.rangeSpec a i s e (compare s.time.micros e.time.micros)).accepts c.schema v = .ok b) :
      c.verdict entity l v = .ok b :=
    bind_eq_ok_iff.mpr ⟨_, hl.compile (hcompare hs he), h⟩
  refine ⟨y, hread, fun hnull => ?_, fun hnull => ?_, fun hnull hne hi l hl => ?_⟩
  · exact hverdict hk hfirst hlast (accepts_rangeSpec_null hc hread hnull _)
  · rcases Value.exists_timeOfDay (htime hnull) with ⟨τ, hτ, hexact⟩
    exact ⟨τ, hτ, hexact,
      hverdict hk hfirst hlast (accepts_rangeSpec hc hread hnull hτ hfirst hlast)⟩
  -- The swapped range without its ends is the complement of the arc.
  · subst hi
    rcases Value.exists_timeOfDay (htime hnull) with ⟨τ, hτ, -⟩
    refine ⟨_, hverdict hk hfirst hlast (accepts_rangeSpec hc hread hnull hτ hfirst hlast), ?_⟩
    rw [hverdict hl hlast hfirst (accepts_rangeSpec hc hread hnull hτ hlast hfirst), ← decide_not]
    exact congrArg Except.ok (decide_eq_decide.mpr (TimeOfDay.isOnArc_swap hne))

/-- A shift of two hours lasts until the clock that was started at midnight shows two,
    which is between ten in the evening and six in the morning, and not between six in the
    morning and ten in the evening. -/
theorem verdict_timeRange_lateShift :
    ofShifts.verdict (Catalog.entityNamed "Shift") (lastingBetween "22:00" "06:00" true)
      lateShift = .ok true ∧
    ofShifts.verdict (Catalog.entityNamed "Shift") (lastingBetween "06:00" "22:00" false)
      lateShift = .ok false := by
  -- The two bounds as the texts are read; the type of the field comes from the schema of shifts.
  have hevening :
      Value.readTime (.text "22:00") = .ok ⟨.ofMicros (22 * 3600 * secondMicros), none⟩ :=
    rfl
  have hmorning :
      Value.readTime (.text "06:00") = .ok ⟨.ofMicros (6 * 3600 * secondMicros), none⟩ :=
    rfl
  rcases exists_resolve_duration with ⟨a, ha, hvalue, hread⟩
  have hnight := isTimeRange_lastingBetween (by decide) hevening (by decide) hmorning ha hvalue true
  have hday := isTimeRange_lastingBetween (by decide) hmorning (by decide) hevening ha hvalue false
  rcases verdict_timeRange rfl hnight rfl rfl hvalue rfl isCandidate_lateShift.suits with
    ⟨y, hy, -, hverdict, hswap⟩
  obtain rfl := Except.ok.inj ((hread _ _).symm.trans hy)
  rcases hverdict rfl with ⟨τ, -, hexact, hnight'⟩
  rcases hswap rfl (by decide) rfl _ hday with ⟨b, hb, hb'⟩
  -- Durations of whole microseconds are exact, so the time of day is two o'clock itself.
  have hτ : τ = .ofMicros (2 * 3600 * secondMicros) := by
    have hmicros : ((2 * 3600 * secondMicros : Nat) : Int) = τ.micros :=
      Option.some.inj (hexact (by show Duration.IsExact _; decide))
    rcases τ with ⟨n, hn⟩
    obtain rfl := Int.ofNat_inj.mp hmicros
    rfl
  have hinside : ofShifts.verdict (Catalog.entityNamed "Shift")
      (lastingBetween "22:00" "06:00" true) lateShift = .ok true := by
    refine hnight'.trans (congrArg Except.ok ?_)
    rw [hτ]
    decide
  -- The second verdict is the negation of the first, by the last part of the theorem.
  obtain rfl := Except.ok.inj (hb.symm.trans hinside)
  exact ⟨hinside, hb'⟩

/-- A shift of hundreds of years, a microsecond less than a full second. -/
def longShift : Value :=
  shiftOf ⟨.first, .midnight, none⟩ ⟨(2 ^ 34 + 1) * secondMicros - 1⟩

/-- Its full seconds go round the clock to the only time in the range, and still it is not
    in the range. -/
theorem not_verdict_timeRange_longShift : ∃ a first,
    ofShifts.IsTimeRange (Catalog.entityNamed "Shift") (lastingBetween "01:53:04" "01:53:04" true) a
      first first true ∧
    first.offset = none ∧ a.valueType = .named .duration ∧
    ofShifts.schema.Suits longShift (Catalog.entityNamed "Shift") ∧
    (∃ y, a.read ofShifts.schema longShift = .ok y ∧
      y.wallMicros? = some (first.time.micros : Int)) ∧
    TimeOfDay.IsOnArc true first.time first.time first.time ∧
    ofShifts.verdict (Catalog.entityNamed "Shift") (lastingBetween "01:53:04" "01:53:04" true)
      longShift = .ok false := by
  have hread' : Value.readTime (.text "01:53:04") = .ok ⟨.ofMicros (6784 * secondMicros), none⟩ :=
    rfl
  rcases exists_resolve_duration with ⟨a, ha, hvalue, hread⟩
  refine ⟨a, _, isTimeRange_lastingBetween (by decide) hread' (by decide) hread' ha hvalue true,
    rfl, hvalue, suits_shiftOf _ _, ⟨_, hread _ _, rfl⟩, Int.le_refl _, ?_⟩
  -- As a time of day the duration is rounded up to the next second, behind the range.
  exact toOption_eq_some_iff.mp (by decide +kernel)

end Context

end Criteria
