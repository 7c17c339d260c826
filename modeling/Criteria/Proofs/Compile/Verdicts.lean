import Criteria.Proofs.Coercion.Typed
import Criteria.Proofs.Compile.Negation
import Criteria.Proofs.Number.Digits
import Criteria.Proofs.Schema.Access

/-!
# Verdicts of Simple Criteria

A simple criterion on a field of a plain type has a verdict on every candidate.

Two facts meet in a comparison. What is read of the candidate is null or of the type
of the field, since the candidate conforms to what its type declares; and so is the
operand, since coercing it makes it so. Null is either answered for or left alone by
every comparison, and two values of one type are on a scale, members of enumerations
once they are replaced by their ordinals. So the comparison does not fail.

There are two places where this breaks down. A text search writes the value of the
field, and whole numbers of too many digits are not written. And a text may name an
offset that no clock has, which makes an operand that cannot be compared with any
moment.

## Main definitions

* `Operator.isDirect`: The operator compares values, not their texts.
* `Context.IsStandard`: What is asked of the context.
* `Schema.IsCandidate`: A candidate with the members that its type declares.

## Theorems

* `Value.hasDisplay_iff`: Which values can be written.
* `OperatorTable.exists_evaluate_of_scale`, `OperatorTable.exists_evaluate_equal`,
  `OperatorTable.exists_evaluate_textual_iff`: When comparisons have an outcome.
* `Context.exists_accepts_iff`: When simple criteria have a verdict.
-/

namespace Criteria

/-- The operator compares the values themselves, not their texts. -/
def Operator.isDirect : Operator → Bool
  | equal | notEqual | greater | greaterOrEqual | less | lessOrEqual => true
  | _ => false

/-- An operator that is no quantifier tests the field alone, searches in its text, or
    compares its value. -/
theorem Operator.kinds {op : Operator} (h : op.isQuantifier = false) :
    (op.takesValue = false ∧ op.isTextual = false) ∨ op.isTextual = true ∨
      op.isDirect = true ∧ op.isTextual = false := by
  cases op with
  | any | all | none => cases h
  | isNull | isNotNull | isEmpty | isNotEmpty => exact .inl ⟨rfl, rfl⟩
  | contains | notContains | startsWith | notStartsWith | endsWith | notEndsWith =>
      exact .inr (.inl rfl)
  | _ => exact .inr (.inr ⟨rfl, rfl⟩)

/-- Operators compare as usual, converters make values of their types, and the members
    of enumerations stand for what their kind says. -/
structure Context.IsStandard (c : Context) : Prop where
  operators : c.operators = .standard
  converters : c.coercer.IsSound c.schema
  enums : c.schema.FitsEnums

/-- A candidate has the members that the type declares, and they conform. Members of
    enumerations that are read of it are genuine, and moments have proper offsets. -/
structure Schema.IsCandidate (s : Schema) (v : Value) (entity : TypeExpr) : Prop where
  suits : s.Suits v entity
  genuine : ∀ names x, s.readAll v names = .ok x → s.IsGenuine x
  proper : ∀ names x, s.readAll v names = .ok x → x.isProper = true

/-- Among the values of plain types, all can be written but whole numbers of too many
    digits. -/
theorem Value.hasDisplay_iff {s : Schema} {t : NamedType} {v : Value}
    (hv : v.isNull = true ∨ s.HasType v t) (ht : t.isPlain = true) (hproper : v.isProper = true) :
    v.hasDisplay = true ↔ ∀ n, Schema.index? v = some n → n.natAbs < 10 ^ maxDigits := by
  -- Only whole numbers, and what is one, can be too long to be written; every other value is
  -- written and has no index.
  have htrivial {w : Value} (hdisplay : w.hasDisplay = true) (hindex : Schema.index? w = none) :
      w.hasDisplay = true ↔ ∀ n, Schema.index? w = some n → n.natAbs < 10 ^ maxDigits :=
    iff_of_true hdisplay fun n hn => by rw [hindex] at hn; cases hn
  have hnumeral (n : Int) : hasNumeral n = true ↔ n.natAbs < 10 ^ maxDigits :=
    decide_eq_true_iff.trans (digitCount_le_iff (by decide))
  have hbool (b : Bool) : (Value.bool b).hasDisplay = true ↔
      ∀ n, Schema.index? (.bool b) = some n → n.natAbs < 10 ^ maxDigits := by
    -- A truth is a number of one digit.
    refine iff_of_true rfl fun n hn => lt_pow_maxDigits (k := 1) ?_ (by decide)
    rw [← Option.some.inj hn]
    cases b <;> decide
  have hmember (m : EnumMember) : (Value.member m).hasDisplay = true ↔
      ∀ n, Schema.index? (.member m) = some n → n.natAbs < 10 ^ maxDigits := by
    rcases m with ⟨type, kind, name, ordinal, value⟩
    cases kind with
    | integral =>
        cases value with
        | int n => exact (hnumeral n).trans ⟨fun h k hk => Option.some.inj hk ▸ h, fun h => h n rfl⟩
        | _ => exact htrivial rfl rfl
    | _ => exact htrivial rfl rfl
  -- The cases are those of an instance of a plain type.
  rcases hv with hnull | htype
  · rw [Value.eq_null_of_isNull hnull]
    exact htrivial rfl rfl
  · rcases s.isInstance_cases htype.isInstance with
      rfl | rfl | ⟨b, rfl, -⟩ | ⟨m, rfl, -⟩ | ⟨m, e, rfl, -⟩ | ⟨name, rfl⟩
    · cases v with
      | bool b => exact hbool b
      | int n => exact (hnumeral n).trans ⟨fun h k hk => Option.some.inj hk ▸ h, fun h => h n rfl⟩
      | float | text | date | duration | uuid => exact htrivial rfl rfl
      | moment m => exact htrivial hproper rfl
      | member m => exact hmember m
      | set frozen => cases frozen <;> cases ht
      | _ => cases ht
    · cases ht
    · exact hbool b
    · exact htrivial hproper rfl
    · exact hmember m
    · cases ht

/-- Texts can be written, members that stand for texts included. -/
theorem Value.hasDisplay_of_text {v : Value} {s : String} (h : v.text? = some s) :
    v.hasDisplay = true := by
  cases v with
  | text => rfl
  | member m =>
      rcases m with ⟨type, kind, name, ordinal, value⟩
      cases kind with
      | integral => cases h
      | _ => rfl
  | _ => cases h

/-- Decimals are not among the values of plain types. -/
theorem Value.signals_eq_false {s : Schema} {t : NamedType} {v : Value}
    (hv : v.isNull = true ∨ s.HasType v t) (ht : t.isPlain = true) : v.signals = false := by
  cases v with
  | decimal d =>
      rcases hv with hnull | htype
      · cases hnull
      · rcases s.isInstance_cases htype.isInstance with
          rfl | rfl | ⟨b, h, -⟩ | ⟨m, h, -⟩ | ⟨m, e, h, -⟩ | ⟨name, rfl⟩
        · cases ht
        · cases ht
        · cases h
        · cases h
        · cases h
        · cases ht
  | _ => rfl

/-- The values of an enumeration are its members. -/
theorem Schema.HasType.exists_eq_member {s : Schema} {name : String} {v : Value}
    (h : s.HasType v (.enum name)) : ∃ m, v = .member m := by
  rcases s.exists_member_of_isInstance h.isInstance with ⟨m, hm, -⟩
  exact ⟨m, hm⟩

/-- Ordinals are numbers. -/
theorem Scale.has_ordinal (m : EnumMember) : Scale.number.Has (Value.ordinal (.member m)) := by
  rcases m with ⟨type, kind, name, ordinal, value⟩
  cases value <;> exact ⟨rfl, _, rfl⟩

/-- A plain type is on a scale, or it is an enumeration. -/
theorem NamedType.scale_or_enum {t : NamedType} (ht : t.isPlain = true) :
    (∃ scale, t.scale? = some scale) ∨ ∃ name, t = .enum name := by
  cases t with
  | enum name => exact .inr ⟨name, rfl⟩
  | bool | int | float | text | date | moment | duration | uuid => exact .inl ⟨_, rfl⟩
  | _ => cases ht

section Comparisons

variable {a b : Value}

/-- Values of no decimal kind are equal or not. -/
theorem Comparison.exists_equal (ha : a.signals = false) (hb : b.signals = false)
    (hpa : a.isProper = true) (hpb : b.isProper = true) : ∃ r, Comparison.equal a b = .ok r := by
  have hspec := Value.align_spec hpa hpb
  exact Value.exists_equal? (hspec.2.1 ha) (hspec.2.2 hb) hspec.1.1 hspec.1.2

/-- Null stands in no relation, and values on a scale do or do not. -/
theorem Comparison.exists_related (accepted : Relation → Bool) {scale : Scale}
    (ha : a.isNull = true ∨ scale.Has a) (hb : b.isNull = true ∨ scale.Has b)
    (hpa : a.isProper = true) (hpb : b.isProper = true) :
    ∃ r, Comparison.related accepted a b = .ok r := by
  rw [related]
  split
  · exact ⟨false, rfl⟩
  · rename_i hnull
    rw [Bool.or_eq_true, not_or] at hnull
    rcases Scale.exists_relate (ha.resolve_left hnull.1) (hb.resolve_left hnull.2) hpa hpb with
      ⟨r, hr⟩
    exact ⟨accepted r, map_eq_ok_iff.mpr ⟨r, hr, rfl⟩⟩

/-- Null matches nothing, and the texts of values do or do not, if both are written. -/
theorem Comparison.exists_textual_iff (accepted : (operand field : List Char) → Bool)
    (hb : b.hasDisplay = true) :
    (∃ r, Comparison.textual accepted a b = .ok r) ↔ a.hasDisplay = true := by
  -- The operand can be written by assumption, so only the field is in question.
  have hwrite : b.write = .ok b.display := by
    rw [Value.write, if_pos hb]
  rw [textual]
  -- A null field is refused before it is written.
  split
  · rename_i hnull
    rw [Value.eq_null_of_isNull hnull]
    exact iff_of_true ⟨false, rfl⟩ rfl
  · rw [hwrite, Value.write]
    by_cases ha : a.hasDisplay = true
    · rw [if_pos ha]
      exact iff_of_true ⟨_, rfl⟩ ha
    · rw [if_neg ha]
      exact iff_of_false (fun ⟨r, hr⟩ => by cases hr) ha

end Comparisons

namespace OperatorTable

variable {op : Operator} {a b : Value}

/-- Tests of the field alone always have an outcome. -/
theorem exists_evaluate_unary (hop : op.takesValue = false) (a b : Value) :
    ∃ r, standard.evaluate op a b = .ok r := by
  cases op with
  | isNull | isNotNull | isEmpty | isNotEmpty => exact ⟨_, rfl⟩
  | _ => cases hop

theorem exists_evaluate_equal (hop : op = .equal ∨ op = .notEqual) (ha : a.signals = false)
    (hb : b.signals = false) (hpa : a.isProper = true) (hpb : b.isProper = true) :
    ∃ r, standard.evaluate op a b = .ok r := by
  rcases Comparison.exists_equal ha hb hpa hpb with ⟨r, hr⟩
  rcases hop with rfl | rfl
  · exact ⟨r, passing_eq_ok_iff.mpr (unworded_eq_ok_iff.mpr hr)⟩
  · exact ⟨!r, passing_eq_ok_iff.mpr (unworded_eq_ok_iff.mpr (map_eq_ok_iff.mpr ⟨r, hr, rfl⟩))⟩

theorem exists_evaluate_of_scale (hop : op.isComparison = true) {scale : Scale}
    (ha : a.isNull = true ∨ scale.Has a) (hb : b.isNull = true ∨ scale.Has b)
    (hpa : a.isProper = true) (hpb : b.isProper = true) :
    ∃ r, standard.evaluate op a b = .ok r := by
  have hrelated : ∃ accepted, standard.evaluate op a b =
      passing (unworded (Comparison.related accepted a b)) := by
    cases op with
    | greater | greaterOrEqual | less | lessOrEqual => exact ⟨_, rfl⟩
    | _ => cases hop
  rcases hrelated with ⟨accepted, haccepted⟩
  rcases Comparison.exists_related accepted ha hb hpa hpb with ⟨r, hr⟩
  exact ⟨r, haccepted.trans (passing_eq_ok_iff.mpr (unworded_eq_ok_iff.mpr hr))⟩

theorem exists_evaluate_textual_iff (hop : op.isTextual = true) (hb : b.hasDisplay = true) :
    (∃ r, standard.evaluate op a b = .ok r) ↔ a.hasDisplay = true := by
  have htextual : ∃ accepted, standard.evaluate op a b =
      passing (unworded (Comparison.textual accepted a b)) := by
    cases op with
    | contains | notContains | startsWith | notStartsWith | endsWith | notEndsWith =>
        exact ⟨_, rfl⟩
    | _ => cases hop
  rcases htextual with ⟨accepted, haccepted⟩
  rw [haccepted, ← Comparison.exists_textual_iff accepted hb]
  exact exists_congr fun r => passing_eq_ok_iff.trans unworded_eq_ok_iff

end OperatorTable

namespace Context

variable {c : Context} {a : Accessor} {op : Operator} {t : NamedType} {v w x y z : Value}
  {spec : Spec}

/-- A test compares what is read. -/
theorem accepts_test (hc : c.operators = .standard) {transform : Option Transform}
    (hread : a.read c.schema v = .ok y) (htransform : transformed transform y = .ok z) :
    (c.test a op x transform).accepts c.schema v = OperatorTable.standard.evaluate op z x := by
  have hvalue : (do transformed transform (← a.read c.schema v)) = .ok z :=
    bind_eq_ok_iff.mpr ⟨y, hread, htransform⟩
  rw [test, Spec.accepts, FieldTest.accepts]
  dsimp only
  rw [hvalue, hc]
  rfl

/-- The test that the field is not null does not get in the way. -/
theorem exists_accepts_guarded (hc : c.operators = .standard) {transform : Option Transform}
    (hread : a.read c.schema v = .ok y)
    (h : ∃ b, (c.test a op x transform).accepts c.schema v = .ok b) :
    ∃ b, (c.guarded a (c.test a op x transform)).accepts c.schema v = .ok b := by
  rw [guarded]
  split
  · have hnotNull : ∃ b, (c.notNull a).accepts c.schema v = .ok b := by
      rw [notNull, accepts_test hc hread rfl]
      exact OperatorTable.exists_evaluate_unary rfl _ _
    show ∃ b, Spec.acceptsAll c.schema [c.notNull a, c.test a op x transform] v = .ok b
    exact Spec.exists_acceptsAll
      (List.forall_mem_cons.mpr ⟨hnotNull, List.forall_mem_singleton.mpr h⟩)
  · exact h

/-- The values of an enumeration are on no scale. -/
theorem isEnum_eq_false {scale : Scale} (hvalue : a.valueType = .named t)
    (hscale : t.scale? = some scale) : a.isEnum = false := by
  rw [Accessor.isEnum, hvalue]
  cases t with
  | enum => cases hscale
  | _ => rfl

/-- A comparison by order that compiles has a verdict on values of the type of its
    operand. -/
theorem exists_accepts_of_compileOrder (hc : c.IsStandard) (hop : op.isComparison = true)
    (hvalue : a.valueType = .named t) (ht : t.isPlain = true)
    (hx : x.isNull = true ∨ c.schema.HasType x t) (hpx : x.isProper = true)
    (h : c.compileOrder a op x = .ok spec) (hread : a.read c.schema v = .ok y)
    (hy : y.isNull = true ∨ c.schema.HasType y t) (hpy : y.isProper = true) :
    ∃ b, spec.accepts c.schema v = .ok b := by
  rw [compileOrder] at h
  -- Without an operand such a comparison does not compile.
  split at h
  · cases h
  rename_i hnull
  have hx := hx.resolve_left hnull
  -- Plain types are compared on their scale, the enumerations on the scale of their ordinals.
  rcases t.scale_or_enum ht with ⟨scale, hscale⟩ | ⟨name, rfl⟩
  · rw [isEnum_eq_false hvalue hscale, if_neg Bool.false_ne_true] at h
    rw [← Except.ok.inj h]
    refine exists_accepts_guarded hc.operators hread ?_
    rw [accepts_test hc.operators hread rfl]
    exact OperatorTable.exists_evaluate_of_scale hop (hy.imp_right (·.has hc.enums hscale))
      (.inr (hx.has hc.enums hscale)) hpy hpx
  · -- Members are compared by their ordinals.
    have henum : a.isEnum = true := by
      rw [Accessor.isEnum, hvalue]
    rw [henum, if_pos rfl] at h
    rw [← Except.ok.inj h]
    refine exists_accepts_guarded hc.operators hread ?_
    rw [accepts_test (z := y.ordinal) hc.operators hread rfl]
    rcases hx.exists_eq_member with ⟨m, rfl⟩
    have hordinal (m : EnumMember) : (Value.ordinal (.member m)).isProper = true := by
      rcases m with ⟨type, kind, name, ordinal, value⟩
      cases value <;> rfl
    rcases hy with hnull | hy
    · rw [Value.eq_null_of_isNull hnull]
      exact OperatorTable.exists_evaluate_of_scale hop (.inl rfl) (.inr (Scale.has_ordinal m)) rfl
        (hordinal m)
    · rcases hy.exists_eq_member with ⟨n, rfl⟩
      exact OperatorTable.exists_evaluate_of_scale hop (.inr (Scale.has_ordinal n))
        (.inr (Scale.has_ordinal m)) (hordinal n) (hordinal m)

/-- A comparison of values that compiles has a verdict on values of the field's type. -/
theorem exists_accepts_of_isDirect (hc : c.IsStandard) (hop : op.isDirect = true)
    (hvalue : a.valueType = .named t) (ht : t.isPlain = true) (hw : w.isScalar = true)
    (hproper : ∀ x, c.coercer.coerce c.schema a.valueType w = .ok x → x.isProper = true)
    (h : c.compileComparison a op w = .ok spec) (hread : a.read c.schema v = .ok y)
    (hy : y.isNull = true ∨ c.schema.HasType y t) (hpy : y.isProper = true) :
    ∃ b, spec.accepts c.schema v = .ok b := by
  -- A direct operator takes a value and is not textual, so two tests
  -- of the compilation are passed over.
  have hvalues : op.takesValue = true ∧ op.isTextual = false := by
    cases op with
    | equal | notEqual | greater | greaterOrEqual | less | lessOrEqual => exact ⟨rfl, rfl⟩
    | _ => cases hop
  rw [compileComparison, hvalues.1, hvalues.2, Bool.not_true, if_neg Bool.false_ne_true,
    if_neg Bool.false_ne_true] at h
  rcases bind_eq_ok_iff.mp h with ⟨x, hx, hspec⟩
  have hpx := hproper x hx
  rw [hvalue] at hx
  have hxtype := Coercer.givesOnly_coerceTo hc.converters ht hw x hx
  -- The order and the equality of values are compiled by different functions.
  split at hspec
  · rename_i hcomparison
    exact exists_accepts_of_compileOrder hc hcomparison hvalue ht hxtype hpx hspec hread hy hpy
  · rename_i hcomparison
    have hequal : op = .equal ∨ op = .notEqual := by
      cases op with
      | equal => exact .inl rfl
      | notEqual => exact .inr rfl
      | greater | greaterOrEqual | less | lessOrEqual => exact absurd rfl hcomparison
      | _ => cases hop
    rw [← Except.ok.inj hspec, accepts_test hc.operators hread rfl]
    exact OperatorTable.exists_evaluate_equal hequal (Value.signals_eq_false hy ht)
      (Value.signals_eq_false hxtype ht) hpy hpx

/-- The operand of a search becomes a text, so only the field may be impossible to
    write. -/
theorem hasDisplay_of_coerce (hc : c.IsStandard) (hw : w.isScalar = true)
    (hx : c.coercer.coerce c.schema (.named .text) w = .ok x) : x.hasDisplay = true := by
  rcases Coercer.givesOnly_coerceTo hc.converters rfl hw x hx with hnull | htype
  · rw [Value.eq_null_of_isNull hnull]
    rfl
  · rcases (htype.has hc.enums rfl).2 with ⟨s, hs⟩
    exact Value.hasDisplay_of_text hs

/-- A search in texts that compiles has a verdict where the field's value can be
    written. -/
theorem exists_accepts_iff_of_isTextual (hc : c.IsStandard) (hop : op.isTextual = true)
    (hw : w.isScalar = true) (h : c.compileComparison a op w = .ok spec)
    (hread : a.read c.schema v = .ok y) :
    (∃ b, spec.accepts c.schema v = .ok b) ↔ y.hasDisplay = true := by
  have htakes : op.takesValue = true := by
    cases op with
    | contains | notContains | startsWith | notStartsWith | endsWith | notEndsWith => rfl
    | _ => cases hop
  rw [compileComparison, htakes, hop, Bool.not_true, if_neg Bool.false_ne_true, if_pos rfl,
    compileText] at h
  split at h
  · cases h
  rcases bind_eq_ok_iff.mp h with ⟨x, hx, hspec⟩
  rw [← Except.ok.inj hspec, accepts_test hc.operators hread rfl]
  exact OperatorTable.exists_evaluate_textual_iff hop (hasDisplay_of_coerce hc hw hx)

/-- A simple criterion on a field of a plain type, with an operand as payloads have
    them: if it compiles it has a verdict on every candidate, but where a text search
    meets a whole number of too many digits. Operands that are compared as values must
    not have an offset that is none. -/
theorem exists_accepts_iff (hc : c.IsStandard) {entity : TypeExpr} {k : Criterion}
    (htype : k.type = .simple) (hop : k.op.isQuantifier = false)
    (hoperand : k.operand = .literal w) (hw : w.isScalar = true) {path : String}
    (hfield : k.field = some path) (ha : c.resolve entity path = .ok a)
    (hvalue : a.valueType = .named t) (ht : t.isPlain = true)
    (hproper : k.op.isDirect = true →
      ∀ x, c.coercer.coerce c.schema a.valueType w = .ok x → x.isProper = true)
    (h : c.compileCriterion entity k = .ok spec) (hv : c.schema.IsCandidate v entity) :
    ∃ y, a.read c.schema v = .ok y ∧
      ((∃ b, spec.accepts c.schema v = .ok b) ↔
        (k.op.isTextual = true → ∀ n, Schema.index? y = some n → n.natAbs < 10 ^ maxDigits)) := by
  -- A simple criterion that compiles names its path and accessor.
  rcases (compileCriterion_eq_ok_iff htype).mp h with ⟨path', a', hfield', -, ha', hspec⟩
  rw [hfield, Option.some.injEq] at hfield'
  rw [← hfield', ha, Except.ok.injEq] at ha'
  rw [← ha', hop, if_neg Bool.false_ne_true, hoperand, literalOf] at hspec
  rcases Schema.exists_readAll_of_resolve (mapError_eq_ok_iff.mp ha) hv.suits with
    ⟨y, hy, -, hconforms, -⟩
  have hread : a.read c.schema v = .ok y := (c.schema.read_eq_readAll a v).trans hy
  have hpy := hv.proper _ _ hy
  -- The operators split into three groups, and all that they need to
  -- know of what is read is its type.
  have hytype : y.isNull = true ∨ c.schema.HasType y t := by
    cases hnull : y.isNull with
    | true => exact .inl rfl
    | false =>
        have hnamed := hconforms hnull
        rw [hvalue] at hnamed
        exact .inr ⟨hnamed.typed.1, hv.genuine _ _ hy⟩
  refine ⟨y, hread, ?_⟩
  rcases Operator.kinds hop with htakes | htextual | hdirect
  -- Without a value to compare nothing can fail.
  · rw [compileComparison, htakes.1, Bool.not_false, if_pos rfl] at hspec
    rw [← Except.ok.inj hspec, accepts_test hc.operators hread rfl]
    refine iff_of_true (OperatorTable.exists_evaluate_unary htakes.1 _ _) fun htextual => ?_
    rw [htakes.2] at htextual
    cases htextual
  -- The textual operators fail exactly on what cannot be written,
  -- that is, on the long whole numbers.
  · rw [exists_accepts_iff_of_isTextual hc htextual hw hspec hread,
      Value.hasDisplay_iff hytype ht hpy]
    exact ⟨fun h _ => h, fun h => h htextual⟩
  -- The direct operators never fail between values of one type.
  · refine iff_of_true ?_ fun htextual => ?_
    · exact exists_accepts_of_isDirect hc hdirect.1 hvalue ht hw (hproper hdirect.1) hspec hread
        hytype hpy
    · rw [hdirect.2] at htextual
      cases htextual

section Shifts

/-- Shifts alone. -/
def ofShifts : Context :=
  { schema := ⟨[], [Catalog.shift], .first⟩, now := ⟨.first, .ofMicros 0, some .utc⟩ }

/-- A shift that starts in the evening, on a clock of unknown offset. -/
def lateShift : Value :=
  .entity "Shift" .record [("name", .text "late"),
    ("starts_at", .moment ⟨⟨2020, 1, 31, by decide⟩, .ofMicros (18 * 3600 * secondMicros), none⟩),
    ("duration", .duration ⟨7200 * secondMicros⟩), ("ends", .null)] []

/-- The same shift at another time. -/
def shiftAt (m : Moment) : Value :=
  .entity "Shift" .record [("name", .text "late"), ("starts_at", .moment m),
    ("duration", .duration ⟨7200 * secondMicros⟩), ("ends", .null)] []

/-- The shift starts after a moment. -/
def startsAfter (moment : String) : Criterion where
  field := some "starts_at"
  op := .greater
  operand := .literal (.text moment)

theorem properties_ofShifts : ∀ e ∈ ofShifts.schema.entities, e.properties = [] := by
  intro e he
  rw [List.mem_singleton.mp he]
  rfl

/-- Null, a whole number, a text, a moment or a length of time. -/
def IsPart : Value → Prop
  | .null | .int _ | .text _ | .duration _ => True
  | .moment m => m.isProper = true
  | _ => False

/-- Parts have nothing but parts. -/
theorem isPart_read {s : Schema} {name : String} (hx : IsPart x) (h : s.read x name = .ok y) :
    IsPart y := by
  -- The parts of a text, a number, a moment and a duration are numbers and texts, or nothing.
  cases x with
  | null | text =>
      rw [← Except.ok.inj h]
      trivial
  | int n =>
      rw [← Except.ok.inj h, Value.part?]
      unfold Value.numberPart?
      split <;> trivial
  | moment m =>
      rw [← Except.ok.inj h, Value.part?]
      unfold Value.datePart? Value.timePart?
      split
      · trivial
      · trivial
      · trivial
      · split <;> trivial
  | duration d =>
      rw [← Except.ok.inj h, Value.part?]
      unfold Value.durationPart?
      split <;> trivial
  | _ => exact absurd hx id

theorem isPart_readAll {s : Schema} {names : List String} (hx : IsPart x)
    (h : s.readAll x names = .ok y) : IsPart y := by
  induction names generalizing x with
  | nil => exact Except.ok.inj h ▸ hx
  | cons name names ih =>
      rcases bind_eq_ok_iff.mp h with ⟨z, hz, h⟩
      exact ih (isPart_read hx hz) h

/-- Whatever is read of such a shift. -/
theorem eq_or_isPart_of_readAll_shiftAt {m : Moment} (hm : m.isProper = true)
    {names : List String} (h : ofShifts.schema.readAll (shiftAt m) names = .ok x) :
    x = shiftAt m ∨ IsPart x := by
  -- Any further name starts at one of the four members of a shift.
  cases names with
  | nil => exact .inl (Except.ok.inj h).symm
  | cons name names =>
      -- What a member holds is a part of some sort, and reading on stays among the parts.
      rcases bind_eq_ok_iff.mp h with ⟨y, hy, h⟩
      refine .inr (isPart_readAll ?_ h)
      rw [shiftAt, Schema.read, Schema.property?_eq_none properties_ofShifts] at hy
      split at hy
      · rename_i hproperty
        cases hproperty
      · rename_i hlookup
        rw [← Except.ok.inj hy]
        have hmem := mem_of_lookup hlookup
        simp only [List.mem_cons, List.not_mem_nil, or_false, Prod.mk.injEq] at hmem
        rcases hmem with ⟨-, rfl⟩ | ⟨-, rfl⟩ | ⟨-, rfl⟩ | ⟨-, rfl⟩
        · trivial
        · exact hm
        · trivial
        · trivial
      · rw [← Except.ok.inj hy]
        trivial

/-- A shift of another length, at another time. -/
def shiftOf (m : Moment) (d : Duration) : Value :=
  .entity "Shift" .record [("name", .text "late"), ("starts_at", .moment m),
    ("duration", .duration d), ("ends", .null)] []

/-- Such a shift has the members that its type declares. -/
theorem suits_shiftOf (m : Moment) (d : Duration) :
    ofShifts.schema.Suits (shiftOf m d) (Catalog.entityNamed "Shift") := by
  have hany (v : Value) : ofShifts.schema.Conforms v .any :=
    Schema.conforms_any_of_properties properties_ofShifts v
  refine ⟨fun _ => hany _, fun e he => ?_⟩
  have hmembers : ofShifts.schema.members (Catalog.entityNamed "Shift") =
      [("name", .named .text), ("starts_at", .named .moment), ("duration", .named .duration),
        ("ends", .union [.named .clock, .named .null])] := rfl
  -- The members of a shift are checked one by one.
  rw [hmembers] at he
  simp only [List.mem_cons, List.not_mem_nil, or_false] at he
  rcases he with rfl | rfl | rfl | rfl
  · exact ⟨_, rfl, Schema.conforms_named (hany _) rfl rfl⟩
  · exact ⟨_, rfl, Schema.conforms_named (hany _) rfl rfl⟩
  · exact ⟨_, rfl, Schema.conforms_named (hany _) rfl rfl⟩
  · exact ⟨.null, rfl, Schema.conforms_of_typedBy (hany _)
      ⟨.named .null, List.mem_cons_of_mem _ List.mem_cons_self,
        Schema.conforms_named (hany _) rfl rfl⟩⟩

/-- Such a shift is a candidate, with whatever proper offset. -/
theorem isCandidate_shiftAt {m : Moment} (hm : m.isProper = true) :
    ofShifts.schema.IsCandidate (shiftAt m) (Catalog.entityNamed "Shift") := by
  refine ⟨suits_shiftOf m _, fun names x h => ?_, fun names x h => ?_⟩
  · rcases eq_or_isPart_of_readAll_shiftAt hm h with rfl | hx
    · trivial
    · cases x with
      | member => exact absurd hx id
      | _ => trivial
  · rcases eq_or_isPart_of_readAll_shiftAt hm h with rfl | hx
    · rfl
    · cases x with
      | moment m => exact hx
      | _ => rfl

theorem isCandidate_lateShift :
    ofShifts.schema.IsCandidate lateShift (Catalog.entityNamed "Shift") :=
  isCandidate_shiftAt rfl

theorem isStandard_ofShifts : ofShifts.IsStandard :=
  ⟨rfl, Coercer.isSound_nil _, by decide⟩

/-- The shift has no offset and the other moment has one. -/
theorem exists_accepts_iff_lateShift : ∃ spec b,
    ofShifts.compileCriterion (Catalog.entityNamed "Shift")
      (startsAfter "2020-01-31T12:00:00-05:00") = .ok spec ∧
    spec.accepts ofShifts.schema lateShift = .ok b ∧ b = true := by
  -- The run of the criterion, its path and its operand are computed, and the theorem is
  -- instantiated with what they give.
  have hrun : (do
      let spec ← ofShifts.compileCriterion (Catalog.entityNamed "Shift")
        (startsAfter "2020-01-31T12:00:00-05:00")
      spec.accepts ofShifts.schema lateShift) = .ok true :=
    toOption_eq_some_iff.mp (by decide +kernel)
  have hresolve : (do
      let a ← ofShifts.resolve (Catalog.entityNamed "Shift") "starts_at"
      return a.valueType) = .ok (.named .moment) := rfl
  have hcoerce : (do
      let x ← ofShifts.coercer.coerce ofShifts.schema (.named .moment)
        (.text "2020-01-31T12:00:00-05:00")
      return x.isProper) = .ok true :=
    toOption_eq_some_iff.mp (by decide +kernel)
  rcases bind_eq_ok_iff.mp hrun with ⟨spec, hspec, haccepts⟩
  rcases bind_eq_ok_iff.mp hresolve with ⟨a, ha, hvalue⟩
  rcases bind_eq_ok_iff.mp hcoerce with ⟨x, hx, hproper⟩
  have hoperand (_ : Operator.isDirect .greater = true) (y : Value)
      (hy : ofShifts.coercer.coerce ofShifts.schema a.valueType
        (.text "2020-01-31T12:00:00-05:00") = .ok y) : y.isProper = true := by
    rw [Except.ok.inj hvalue, hx] at hy
    rw [← Except.ok.inj hy]
    exact Except.ok.inj hproper
  rcases exists_accepts_iff isStandard_ofShifts rfl rfl rfl rfl rfl ha (Except.ok.inj hvalue) rfl
    hoperand hspec isCandidate_lateShift with ⟨y, -, hverdict⟩
  rcases hverdict.mpr nofun with ⟨b, hb⟩
  exact ⟨spec, b, hspec, hb, Except.ok.inj (hb.symm.trans haccepts)⟩

/-- An offset of more than a day. The criterion compiles, and then it cannot be put to a
    candidate that conforms to the type. -/
theorem not_exists_accepts_distantOffset : ∃ spec,
    ofShifts.compileCriterion (Catalog.entityNamed "Shift")
      (startsAfter "2020-01-31 12:00 +9900") = .ok spec ∧
    ofShifts.schema.IsCandidate lateShift (Catalog.entityNamed "Shift") ∧
    ¬ ∃ b, spec.accepts ofShifts.schema lateShift = .ok b := by
  have hrun : (do
      let spec ← ofShifts.compileCriterion (Catalog.entityNamed "Shift")
        (startsAfter "2020-01-31 12:00 +9900")
      return (spec.accepts ofShifts.schema lateShift).toOption) = .ok none :=
    toOption_eq_some_iff.mp (by decide +kernel)
  rcases bind_eq_ok_iff.mp hrun with ⟨spec, hspec, hfails⟩
  refine ⟨spec, hspec, isCandidate_lateShift, fun ⟨b, hb⟩ => ?_⟩
  rw [hb] at hfails
  exact absurd (Except.ok.inj hfails) (Option.some_ne_none b)

end Shifts

end Context

end Criteria
