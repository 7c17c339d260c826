import Criteria.Proofs.Compile.Verdicts
import Criteria.Proofs.Schema.Trichotomy

/-!
# Criteria That Divide the Candidates

The criteria that compare one field with one operand divide the candidates among
themselves.

Whatever is read of a candidate is null, or it stands to the operand in one of three
ways. The six operators that compare values each ask for some of these ways
(`Operator.admits`), and nothing else enters into their verdicts. So exactly one of
"less", "equal" and "greater" accepts, and the verdicts of the other three follow. This
takes that equality, which compares the values, and order, which compares members of
enumerations by their ordinals, are told by one ordering. Searches in texts come in
pairs, of which one accepts.

Null is on neither side: of all these operators only "not equal" accepts it, since even
the negated searches find nothing in it.

The verdicts are there under the conditions that all verdicts need. An operand with an
offset that is none cannot be compared, and a whole number of too many digits cannot be
searched in.

## Main definitions

* `Operator.admits`: The orderings that an operator asks for.
* `Operator.searches`: Searches in texts with their negations.
* `Context.verdict`: The verdict of a criterion on a candidate.
* `Context.CanSearch`: Operands that can be searched for.
* `Context.IsComparison`: What a comparison of a field with an operand is made of.

## Theorems

* `OperatorTable.evaluate_equal`, `OperatorTable.evaluate_related`,
  `OperatorTable.evaluate_null`: What operators say of ordered values and of null.
* `Context.verdict_partition`: How criteria divide the candidates.
-/

namespace Criteria

namespace Operator

/-- The value of the field stands to the operand as the operator asks. -/
def admits : Operator → Ordering → Bool
  | equal, o => o == .eq
  | notEqual, o => o != .eq
  | less, o => o == .lt
  | lessOrEqual, o => o == .lt || o == .eq
  | greater, o => o == .gt
  | greaterOrEqual, o => o == .gt || o == .eq
  | _, _ => false

/-- The searches in texts, each with its negation. -/
def searches : List (Operator × Operator) :=
  [(contains, notContains), (startsWith, notStartsWith), (endsWith, notEndsWith)]

/-- What the operators of order ask for where the ordering is one of numbers. -/
theorem admits_compare (p q : Int) :
    (less.admits (compare p q) = true ↔ p < q) ∧
      (lessOrEqual.admits (compare p q) = true ↔ p ≤ q) ∧
      (greater.admits (compare p q) = true ↔ q < p) ∧
      (greaterOrEqual.admits (compare p q) = true ↔ q ≤ p) := by
  have hsides : (compare p q = .lt ↔ p < q) ∧ (compare p q = .eq ↔ p = q) ∧
      (compare p q = .gt ↔ q < p) :=
    ⟨compare_lt_iff_lt, compare_eq_iff_eq, compare_gt_iff_gt⟩
  simp only [admits, Bool.or_eq_true, beq_iff_eq, hsides, true_and]
  exact ⟨Int.le_iff_lt_or_eq.symm, by rw [eq_comm (a := p)]; exact Int.le_iff_lt_or_eq.symm⟩

theorem isQuantifier_eq_false {op : Operator} (h : op.isDirect = true ∨ op.isTextual = true) :
    op.isQuantifier = false := by
  cases op with
  | any | all | none => rcases h with h | h <;> cases h
  | _ => rfl

theorem isDirect_of_isTextual {op : Operator} (h : op.isTextual = true) : op.isDirect = false := by
  cases op with
  | contains | notContains | startsWith | notStartsWith | endsWith | notEndsWith => rfl
  | _ => cases h

end Operator

namespace OperatorTable

variable {op : Operator} {a b : Value} {o : Ordering}

/-- Equality asks whether the two are equal. -/
theorem evaluate_equal (hop : op = .equal ∨ op = .notEqual)
    (h : Value.equal? (Value.align a b).1 (Value.align a b).2 = .ok (o == .eq)) :
    standard.evaluate op a b = .ok (op.admits o) := by
  have hequal : Comparison.equal a b = .ok (o == .eq) := h
  rcases hop with rfl | rfl
  · show passing (unworded (Comparison.equal a b)) = _
    rw [hequal]
    rfl
  · show passing (unworded ((Comparison.equal a b).map not)) = _
    rw [hequal]
    rfl

/-- Order asks how one stands to the other. -/
theorem evaluate_related (hop : op.isComparison = true) (ha : a.isNull = false)
    (hb : b.isNull = false)
    (h : Value.relate (Value.align a b).1 (Value.align a b).2 = .ok (.ofOrdering o)) :
    standard.evaluate op a b = .ok (op.admits o) := by
  -- All comparisons read the same relation and differ in what they accept.
  have hrelated (accepted : Relation → Bool) :
      Comparison.related accepted a b = .ok (accepted (.ofOrdering o)) := by
    rw [Comparison.related, ha, hb, Bool.or_self, if_neg Bool.false_ne_true]
    show (Value.relate (Value.align a b).1 (Value.align a b).2).map accepted = _
    rw [h]
    rfl
  cases op with
  | greater | greaterOrEqual | less | lessOrEqual =>
      show passing (unworded (Comparison.related _ a b)) = _
      rw [hrelated]
      cases o <;> rfl
  | _ => cases hop

/-- Null equals no operand. -/
theorem equal_null (hb : b.isNull = false) : Comparison.equal .null b = .ok false := by
  have hequal : Value.equal .null b = false := by
    show Value.equalScalar .null b = false
    rw [Value.equalScalar.eq_def]
    cases b with
    | null => cases hb
    | _ => rfl
  have hnone : (b.signals && (Value.number? .null).isSome) = false := Bool.and_false _
  show Value.equal? .null b = _
  rw [Value.equal?, hnone, Bool.or_false, hequal]
  rfl

/-- Null differs from every operand, is in no relation to it, and nothing is found in
    null. -/
theorem evaluate_null (hop : op.isDirect = true ∨ op.isTextual = true)
    (hb : op.isDirect = true → b.isNull = false) :
    standard.evaluate op .null b = .ok (op == .notEqual) := by
  cases op with
  | equal =>
      show passing (unworded (Comparison.equal .null b)) = _
      rw [equal_null (hb rfl)]
      rfl
  | notEqual =>
      show passing (unworded ((Comparison.equal .null b).map not)) = _
      rw [equal_null (hb rfl)]
      rfl
  | greater | greaterOrEqual | less | lessOrEqual => rfl
  | contains | notContains | startsWith | notStartsWith | endsWith | notEndsWith => rfl
  | _ => rcases hop with hop | hop <;> cases hop

/-- A search in a text that can be written finds the operand, or its negation does. -/
theorem evaluate_search {p : Operator × Operator} (hp : p ∈ Operator.searches)
    (ha : a.isNull = false) (hda : a.hasDisplay = true) (hdb : b.hasDisplay = true) :
    ∃ r, standard.evaluate p.1 a b = .ok r ∧ standard.evaluate p.2 a b = .ok !r := by
  have htextual (accepted : (operand field : List Char) → Bool) :
      Comparison.textual accepted a b = .ok (accepted b.display.toList a.display.toList) := by
    rw [Comparison.textual, ha, if_neg Bool.false_ne_true, Value.write, Value.write, if_pos hda,
      if_pos hdb]
    rfl
  have hpassing (accepted : (operand field : List Char) → Bool) :
      passing (unworded (Comparison.textual accepted a b)) =
        .ok (accepted b.display.toList a.display.toList) := by
    rw [htextual]
    rfl
  simp only [Operator.searches, List.mem_cons, List.not_mem_nil, or_false] at hp
  rcases hp with rfl | rfl | rfl <;> exact ⟨_, hpassing _, hpassing _⟩

end OperatorTable

namespace Context

variable {c : Context} {entity : TypeExpr} {k : Criterion} {a : Accessor} {op : Operator}
  {t : NamedType} {v w x y : Value} {path : String}

/-- The verdict of a criterion on a candidate. -/
def verdict (c : Context) (entity : TypeExpr) (k : Criterion) (candidate : Value) :
    Except Fault Bool := do
  (← c.compileCriterion entity k).accepts c.schema candidate

/-- The operand can be searched for: it gives a text. -/
def CanSearch (c : Context) (w : Value) : Prop :=
  ∃ u, c.coercer.coerce c.schema (.named .text) w = .ok u

/-- No path is empty. -/
theorem ne_empty_of_resolve (ha : c.resolve entity path = .ok a) : path ≠ "" := by
  rintro rfl
  have hempty := mapError_eq_ok_iff.mp ha
  cases hempty

/-- The criterion compares a field with an operand. -/
structure IsComparison (c : Context) (entity : TypeExpr) (k : Criterion) (a : Accessor)
    (op : Operator) (w : Value) : Prop where
  type : k.type = .simple
  field : ∃ path, k.field = some path ∧ c.resolve entity path = .ok a
  op : k.op = op
  operand : k.operand = .literal w

/-- A comparison with a field compiles as that of its accessor does. -/
theorem IsComparison.compile_eq_ok_iff (hk : c.IsComparison entity k a op w)
    (hop : op.isQuantifier = false) {spec : Spec} :
    c.compileCriterion entity k = .ok spec ↔ c.compileComparison a op w = .ok spec := by
  rcases hk.field with ⟨path, hpath, ha⟩
  rw [compileCriterion_eq_ok_iff hk.type, hk.op, hop, hk.operand]
  constructor
  · rintro ⟨path', a', hpath', -, ha', hspec⟩
    obtain rfl := Option.some.inj (hpath.symm.trans hpath')
    obtain rfl := Except.ok.inj (ha.symm.trans ha')
    exact hspec
  · exact fun hspec => ⟨path, a, hpath, ne_empty_of_resolve ha, ha, hspec⟩

/-- The verdict of a simple criterion is that of the comparison it stands for. -/
theorem verdict_of_comparison (htype : k.type = .simple) (hoperand : k.operand = .literal w)
    (hfield : k.field = some path) (ha : c.resolve entity path = .ok a)
    (hop : op.isQuantifier = false) {spec : Spec} (hspec : c.compileComparison a op w = .ok spec)
    {b : Bool} (hb : spec.accepts c.schema v = .ok b) :
    c.verdict entity { k with op := op } v = .ok b := by
  have hk : c.IsComparison entity { k with op := op } a op w :=
    ⟨htype, ⟨path, hfield, ha⟩, rfl, hoperand⟩
  exact bind_eq_ok_iff.mpr ⟨spec, (hk.compile_eq_ok_iff hop).mpr hspec, hb⟩

/-- Null is refused anyway where the test that the field is not null goes first. -/
theorem accepts_guarded (hc : c.operators = .standard) {transform : Option Transform}
    (hread : a.read c.schema v = .ok y) {b : Bool}
    (h : (c.test a op x transform).accepts c.schema v = .ok b)
    (hnull : y.isNull = true → b = false) :
    (c.guarded a (c.test a op x transform)).accepts c.schema v = .ok b := by
  rw [guarded]
  -- The guard is there for accessors that may read null; without it the test stands alone.
  split
  · have hnotNull : (c.notNull a).accepts c.schema v = .ok !y.isNull := by
      rw [notNull, accepts_test hc hread rfl]
      rfl
    show Spec.acceptsAll c.schema [c.notNull a, c.test a op x transform] v = _
    rw [Spec.acceptsAll, hnotNull]
    -- Null stops at the guard, which agrees with `b` by `hnull`.
    cases hy : y.isNull with
    | true => rw [hnull hy]; rfl
    | false => exact (Spec.acceptsAll_singleton _).trans h
  · exact h

/-- What a value of the field is ordered by: members of enumerations by their ordinals. -/
def orderedAs (a : Accessor) (v : Value) : Value :=
  if a.isEnum then v.ordinal else v

theorem isNull_orderedAs (a : Accessor) (v : Value) : (orderedAs a v).isNull = v.isNull := by
  rw [orderedAs]
  split
  · cases v with
    | member m =>
        rcases m with ⟨_, _, _, _, value⟩
        cases value <;> rfl
    | _ => rfl
  · rfl

/-- A moment is not null, whatever the field keeps of it. -/
theorem isNull_asFieldValue (a : Accessor) (m : Moment) : (asFieldValue a m).isNull = false := by
  rw [asFieldValue]
  split <;> rfl

/-- A comparison by equality compares what is read with the operand. -/
theorem compileComparison_equal (hop : op = .equal ∨ op = .notEqual)
    (hx : c.coercer.coerce c.schema a.valueType w = .ok x) :
    c.compileComparison a op w = .ok (c.test a op x none) := by
  rcases hop with rfl | rfl
  · exact bind_eq_ok_iff.mpr ⟨x, hx, rfl⟩
  · exact bind_eq_ok_iff.mpr ⟨x, hx, rfl⟩

/-- It compiles exactly if its operand can be coerced to the type of the field. -/
theorem IsComparison.compile_equal_iff (hk : c.IsComparison entity k a op w)
    (hop : op = .equal ∨ op = .notEqual) {spec : Spec} :
    c.compileCriterion entity k = .ok spec ↔
      ∃ x, c.coercer.coerce c.schema a.valueType w = .ok x ∧ spec = c.test a op x none := by
  have hquantifier : op.isQuantifier = false := by rcases hop with rfl | rfl <;> rfl
  rw [hk.compile_eq_ok_iff hquantifier]
  constructor
  · intro hspec
    have hcoerce : ∃ x, c.coercer.coerce c.schema a.valueType w = .ok x := by
      rcases hop with rfl | rfl <;> exact (bind_eq_ok_iff.mp hspec).imp fun _ hx => hx.1
    rcases hcoerce with ⟨x, hx⟩
    exact ⟨x, hx, Except.ok.inj (hspec.symm.trans (compileComparison_equal hop hx))⟩
  · rintro ⟨x, hx, rfl⟩
    exact compileComparison_equal hop hx

/-- A comparison by order compares what the two are ordered by. -/
theorem compileComparison_order (hop : op.isComparison = true)
    (hx : c.coercer.coerce c.schema a.valueType w = .ok x) (hnull : x.isNull = false) :
    c.compileComparison a op w = .ok (c.guarded a (c.test a op (orderedAs a x)
      (if a.isEnum then some .ordinal else none))) := by
  have horder : c.compileOrder a op x = .ok (c.guarded a (c.test a op (orderedAs a x)
      (if a.isEnum then some .ordinal else none))) := by
    rw [compileOrder, hnull, if_neg Bool.false_ne_true, orderedAs]
    cases a.isEnum <;> rfl
  cases op with
  | greater | greaterOrEqual | less | lessOrEqual => exact bind_eq_ok_iff.mpr ⟨x, hx, horder⟩
  | _ => cases hop

/-- An operator that compares values asks for equality or for order. -/
theorem equal_or_comparison (hop : op.isDirect = true) :
    (op = .equal ∨ op = .notEqual) ∨ op.isComparison = true := by
  cases op with
  | equal => exact .inl (.inl rfl)
  | notEqual => exact .inl (.inr rfl)
  | greater | greaterOrEqual | less | lessOrEqual => exact .inr rfl
  | _ => cases hop

/-- The verdict of a comparison is the outcome of its operator, on the values themselves
    or on what they are ordered by. -/
theorem verdict_of_evaluate (hc : c.operators = .standard) (htype : k.type = .simple)
    (hoperand : k.operand = .literal w) (hfield : k.field = some path)
    (ha : c.resolve entity path = .ok a)
    (hx : c.coercer.coerce c.schema a.valueType w = .ok x) (hnull : x.isNull = false)
    (hread : a.read c.schema v = .ok y) (hop : op.isDirect = true) {b : Bool}
    (hequal : op = .equal ∨ op = .notEqual → OperatorTable.standard.evaluate op y x = .ok b)
    (horder : op.isComparison = true →
      OperatorTable.standard.evaluate op (orderedAs a y) (orderedAs a x) = .ok b ∧
        (y.isNull = true → b = false)) :
    c.verdict entity { k with op := op } v = .ok b := by
  have hquantifier := Operator.isQuantifier_eq_false (.inl hop)
  -- Equality is compiled to a plain test, the order to a guarded one that may go through ordinals.
  rcases equal_or_comparison hop with hop | hop
  · refine verdict_of_comparison htype hoperand hfield ha hquantifier
      (compileComparison_equal hop hx) ?_
    rw [accepts_test hc hread rfl]
    exact hequal hop
  · refine verdict_of_comparison htype hoperand hfield ha hquantifier
      (compileComparison_order hop hx hnull) (accepts_guarded hc hread ?_ (horder hop).2)
    have htransformed : transformed (if a.isEnum then some .ordinal else none) y =
        .ok (orderedAs a y) := by
      rw [orderedAs]
      cases a.isEnum <;> rfl
    rw [accepts_test hc hread htransformed]
    exact (horder hop).1

/-- The verdict of a search is the outcome of its operator on the text of the operand. -/
theorem verdict_of_textual (hc : c.operators = .standard) (htype : k.type = .simple)
    (hoperand : k.operand = .literal w) (hw : w.isNull = false) (hfield : k.field = some path)
    (ha : c.resolve entity path = .ok a)
    (hx : c.coercer.coerce c.schema (.named .text) w = .ok x)
    (hread : a.read c.schema v = .ok y) (hop : op.isTextual = true) {b : Bool}
    (h : OperatorTable.standard.evaluate op y x = .ok b) :
    c.verdict entity { k with op := op } v = .ok b := by
  -- The textual operators coerce their operand to a text, whatever the field holds.
  have htext : c.compileText a op w = .ok (c.test a op x none) := by
    rw [compileText, hw, if_neg Bool.false_ne_true]
    exact bind_eq_ok_iff.mpr ⟨x, hx, rfl⟩
  have hspec : c.compileComparison a op w = .ok (c.test a op x none) := by
    cases op with
    | contains | notContains | startsWith | notStartsWith | endsWith | notEndsWith => exact htext
    | _ => cases hop
  have hquantifier := Operator.isQuantifier_eq_false (.inr hop)
  refine verdict_of_comparison htype hoperand hfield ha hquantifier hspec ?_
  rw [accepts_test hc hread rfl]
  exact h

/-- The values of decimal type are the decimals. -/
theorem exists_eq_decimal {s : Schema} (h : s.HasType v .decimal) : ∃ d, v = .decimal d := by
  have htype := Schema.ofValue_eq_of_final h.isInstance (by decide) nofun
  cases v with
  | decimal d => exact ⟨d, rfl⟩
  | set frozen => cases frozen <;> cases htype
  | _ => cases htype

/-- The values of a field of moments are the moments. -/
theorem exists_eq_moment {s : Schema} (h : s.HasType v .moment) : ∃ m, v = .moment m := by
  have htype := Schema.ofValue_eq_of_final h.isInstance (by decide) nofun
  cases v with
  | moment m => exact ⟨m, rfl⟩
  | set frozen => cases frozen <;> cases htype
  | _ => cases htype

/-- Null is of no type whose values can be compared. -/
theorem isNull_of_hasType {s : Schema} (ht : t.isPlain = true ∨ t = .decimal)
    (h : s.HasType v t) : v.isNull = false := by
  cases v with
  | null =>
      rcases s.isInstance_cases h.isInstance with
        rfl | rfl | ⟨b, hv, -⟩ | ⟨m, hv, -⟩ | ⟨m, e, hv, -⟩ | ⟨name, rfl⟩
      · rcases ht with ht | ht <;> cases ht
      · rcases ht with ht | ht <;> cases ht
      · cases hv
      · cases hv
      · cases hv
      · rcases ht with ht | ht <;> cases ht
  | _ => rfl

/-- A genuine member of an enumeration that the schema knows. -/
theorem exists_mem_members {s : Schema} {name : String} (h : s.HasType v (.enum name)) :
    ∃ m e, v = .member m ∧ s.enum? name = some e ∧ m ∈ e.members := by
  rcases s.exists_member_of_isInstance h.isInstance with ⟨m, rfl, htype⟩
  rcases h.genuine with ⟨e, he, hm⟩
  exact ⟨m, e, rfl, htype ▸ he, hm⟩

/-- One ordering tells how a field and an operand of its type compare. -/
theorem exists_ordered_of_hasType (hs : c.schema.FitsEnums)
    (ht : t.isPlain = true ∨ t = .decimal) (hvalue : a.valueType = .named t)
    (henum : ∀ name e, t = .enum name → c.schema.enum? name = some e → e.IsDistinct ∧ e.IsUniform)
    (hy : c.schema.HasType y t) (hx : c.schema.HasType x t) (hdy : y.isDefined = true)
    (hdx : x.isDefined = true) (hpy : y.isProper = true) (hpx : x.isProper = true) :
    ∃ o : Ordering, Value.equal? (Value.align y x).1 (Value.align y x).2 = .ok (o == .eq) ∧
      Value.relate (Value.align (orderedAs a y) (orderedAs a x)).1
        (Value.align (orderedAs a y) (orderedAs a x)).2 = .ok (.ofOrdering o) := by
  -- Away from the enumerations nothing is turned into an ordinal.
  have hsame (hnot : a.isEnum = false) (z : Value) : orderedAs a z = z := by
    rw [orderedAs, hnot, if_neg Bool.false_ne_true]
  rcases ht with ht | rfl
  · rcases t.scale_or_enum ht with ⟨scale, hscale⟩ | ⟨name, rfl⟩
    · have hnot := isEnum_eq_false hvalue hscale
      rcases Scale.exists_ordered (hy.has hs hscale) (hx.has hs hscale) hdy hdx hpy hpx with ⟨o, ho⟩
      rw [hsame hnot, hsame hnot]
      exact ⟨o, ho.equal, ho.relate⟩
    · -- Members are equal as members and ordered by rank.
      have hordered (z : Value) : orderedAs a z = z.ordinal := by
        rw [orderedAs, Accessor.isEnum, hvalue]
        rfl
      rcases exists_mem_members hy with ⟨m, e, rfl, he, hm⟩
      rcases exists_mem_members hx with ⟨n, e', rfl, he', hn⟩
      rw [he, Option.some.injEq] at he'
      rw [← he'] at hn
      have hproperties := henum name e rfl he
      rw [hordered, hordered, Value.align_of_number m.number?_ordinal]
      exact hproperties.1.exists_ordered hproperties.2 (hs e (List.mem_of_find?_eq_some he)) hm hn
  -- Decimals are not plain, but they are numbers, which is all that is needed.
  · rcases exists_eq_decimal hy with ⟨d, rfl⟩
    rcases exists_eq_decimal hx with ⟨d', rfl⟩
    have hnot : a.isEnum = false := by
      rw [Accessor.isEnum, hvalue]
    rcases Value.exists_ordered_of_number (a := .decimal d) (b := .decimal d') rfl rfl hdy hdx with
      ⟨o, ho⟩
    rw [hsame hnot, hsame hnot]
    exact ⟨o, ho.equal, ho.relate⟩

/-- Which values can be written, decimals included. -/
theorem hasDisplay_of_index? {s : Schema} (ht : t.isPlain = true ∨ t = .decimal)
    (hy : s.HasType y t) (hpy : y.isProper = true)
    (hdigits : ∀ n, Schema.index? y = some n → n.natAbs < 10 ^ maxDigits) :
    y.hasDisplay = true := by
  rcases ht with ht | rfl
  · exact (Value.hasDisplay_iff (.inr hy) ht hpy).mpr hdigits
  · rcases exists_eq_decimal hy with ⟨d, rfl⟩
    rfl

/-- What is read of a candidate is null or of the type of the field. -/
theorem exists_read_of_isCandidate (ha : c.resolve entity path = .ok a)
    (hvalue : a.valueType = .named t) (hv : c.schema.IsCandidate v entity) :
    ∃ y, a.read c.schema v = .ok y ∧ y.isProper = true ∧
      (y.isNull = false → c.schema.HasType y t) := by
  rcases Schema.exists_readAll_of_resolve (mapError_eq_ok_iff.mp ha) hv.suits with
    ⟨y, hy, -, hconforms, -⟩
  refine ⟨y, (c.schema.read_eq_readAll a v).trans hy, hv.proper _ _ hy, fun hnull => ?_⟩
  have hnamed := hconforms hnull
  rw [hvalue] at hnamed
  exact ⟨hnamed.typed.1, hv.genuine _ _ hy⟩

section Verdicts

variable (hc : c.IsStandard) (htype : k.type = .simple) (hoperand : k.operand = .literal w)
  (hfield : k.field = some path) (ha : c.resolve entity path = .ok a)
  (hread : a.read c.schema v = .ok y)

include hc htype hoperand hfield ha hread

/-- Comparisons with an operand find null only where they ask for what differs. -/
theorem verdict_of_null (hx : c.coercer.coerce c.schema a.valueType w = .ok x)
    (hxnull : x.isNull = false) (hnull : y.isNull = true) (hop : op.isDirect = true) :
    c.verdict entity { k with op := op } v = .ok (op == .notEqual) := by
  -- Null is equal to nothing that is not null, and no order accepts it.
  rw [Value.eq_null_of_isNull hnull] at hread
  have hequal := OperatorTable.evaluate_null (.inl hop) fun _ => hxnull
  refine verdict_of_evaluate hc.operators htype hoperand hfield ha hx hxnull hread hop
    (fun _ => hequal) fun horder => ⟨?_, fun _ => ?_⟩
  · have hordered : orderedAs a .null = .null := by
      rw [orderedAs]
      split <;> rfl
    rw [hordered]
    refine OperatorTable.evaluate_null (.inl hop) fun _ => ?_
    rw [isNull_orderedAs, hxnull]
  -- Among the direct operators only `notEqual` accepts null.
  · cases op with
    | notEqual => cases horder
    | _ => rfl

/-- Nothing is found in null, and nothing is missing from it either. -/
theorem verdict_of_null_textual (hw : w.isNull = false) (hsearch : c.CanSearch w)
    (hnull : y.isNull = true) (hop : op.isTextual = true) :
    c.verdict entity { k with op := op } v = .ok (op == .notEqual) := by
  rw [Value.eq_null_of_isNull hnull] at hread
  rcases hsearch with ⟨u, hu⟩
  refine verdict_of_textual hc.operators htype hoperand hw hfield ha hu hread hop ?_
  refine OperatorTable.evaluate_null (.inr hop) fun hdirect => ?_
  rw [Operator.isDirect_of_isTextual hop] at hdirect
  cases hdirect

/-- All comparisons with an operand go by one ordering. -/
theorem verdict_of_ordered (hx : c.coercer.coerce c.schema a.valueType w = .ok x)
    (hxnull : x.isNull = false) (hynull : y.isNull = false) {o : Ordering}
    (hequal : Value.equal? (Value.align y x).1 (Value.align y x).2 = .ok (o == .eq))
    (hrelate : Value.relate (Value.align (orderedAs a y) (orderedAs a x)).1
      (Value.align (orderedAs a y) (orderedAs a x)).2 = .ok (.ofOrdering o))
    (hop : op.isDirect = true) : c.verdict entity { k with op := op } v = .ok (op.admits o) := by
  refine verdict_of_evaluate hc.operators htype hoperand hfield ha hx hxnull hread hop
    (fun hop => OperatorTable.evaluate_equal hop hequal) fun horder => ⟨?_, fun hnull => ?_⟩
  · refine OperatorTable.evaluate_related horder ?_ ?_ hrelate
    · rw [isNull_orderedAs, hynull]
    · rw [isNull_orderedAs, hxnull]
  · rw [hynull] at hnull
    cases hnull

/-- Of a search and its negation one accepts a value that can be written. -/
theorem exists_verdict_search (hw : w.isScalar = true) (hwnull : w.isNull = false)
    (hsearch : c.CanSearch w) (hynull : y.isNull = false) (hdisplay : y.hasDisplay = true)
    {p : Operator × Operator} (hp : p ∈ Operator.searches) :
    ∃ b, c.verdict entity { k with op := p.1 } v = .ok b ∧
      c.verdict entity { k with op := p.2 } v = .ok !b := by
  rcases hsearch with ⟨u, hu⟩
  rcases OperatorTable.evaluate_search hp hynull hdisplay (hasDisplay_of_coerce hc hw hu) with
    ⟨b, hfound, hmissing⟩
  have htextual : p.1.isTextual = true ∧ p.2.isTextual = true := by
    simp only [Operator.searches, List.mem_cons, List.not_mem_nil, or_false] at hp
    rcases hp with rfl | rfl | rfl <;> exact ⟨rfl, rfl⟩
  exact ⟨b,
    verdict_of_textual hc.operators htype hoperand hwnull hfield ha hu hread htextual.1 hfound,
    verdict_of_textual hc.operators htype hoperand hwnull hfield ha hu hread htextual.2 hmissing⟩

end Verdicts

/-- How simple criteria on one field with one operand divide the candidates. The field is
    of a plain or a decimal type, and if this is an enumeration its members are distinct
    and all stand for whole numbers, or none does. The operand is not null, and coercing it
    gives a value of the type that is no undefined number.

    Then reading the field does not fail. Null is refused by the six comparisons and the
    six searches, except by "not equal". Anything else, undefined numbers apart, stands to
    the operand in one of three ways, and each comparison accepts it in its own of these
    ways; operands must not have an offset that is none. And of a search and its negation
    one accepts it and the other does not, unless it is a whole number of too many
    digits. Searches take an operand that can be searched for. -/
theorem verdict_partition (hc : c.IsStandard) (htype : k.type = .simple)
    (hoperand : k.operand = .literal w) (hw : w.isScalar = true) (hwnull : w.isNull = false)
    (hfield : k.field = some path) (ha : c.resolve entity path = .ok a)
    (hvalue : a.valueType = .named t) (ht : t.isPlain = true ∨ t = .decimal)
    (henum : ∀ name e, t = .enum name → c.schema.enum? name = some e → e.IsDistinct ∧ e.IsUniform)
    (hx : c.coercer.coerce c.schema a.valueType w = .ok x) (hxtype : c.schema.HasType x t)
    (hdx : x.isDefined = true) (hv : c.schema.IsCandidate v entity) :
    ∃ y, a.read c.schema v = .ok y ∧
      (y.isNull = true → ∀ op : Operator,
        op.isDirect = true ∨ op.isTextual = true ∧ c.CanSearch w →
        c.verdict entity { k with op := op } v = .ok (op == .notEqual)) ∧
      (y.isNull = false → y.isDefined = true → x.isProper = true →
        ∃ o : Ordering, ∀ op : Operator, op.isDirect = true →
          c.verdict entity { k with op := op } v = .ok (op.admits o)) ∧
      (y.isNull = false → (∀ n, Schema.index? y = some n → n.natAbs < 10 ^ maxDigits) →
        c.CanSearch w → ∀ p ∈ Operator.searches, ∃ b,
          c.verdict entity { k with op := p.1 } v = .ok b ∧
          c.verdict entity { k with op := p.2 } v = .ok !b) := by
  rcases exists_read_of_isCandidate ha hvalue hv with ⟨y, hread, hpy, hytype⟩
  have hxnull := isNull_of_hasType ht hxtype
  -- What is read is null or not; if it is not, values are compared and texts searched in.
  refine ⟨y, hread, fun hnull op hop => ?_, fun hnull hdy hpx => ?_,
    fun hnull hdigits hsearch p hp => ?_⟩
  · rcases hop with hop | ⟨hop, hsearch⟩
    · exact verdict_of_null hc htype hoperand hfield ha hread hx hxnull hnull hop
    · exact verdict_of_null_textual hc htype hoperand hfield ha hread hwnull hsearch hnull hop
  · rcases exists_ordered_of_hasType hc.enums ht hvalue henum (hytype hnull) hxtype hdy hdx hpy hpx
      with ⟨o, hequal, hrelate⟩
    exact ⟨o, fun op hop =>
      verdict_of_ordered hc htype hoperand hfield ha hread hx hxnull hnull hequal hrelate hop⟩
  · have hdisplay := hasDisplay_of_index? ht (hytype hnull) hpy hdigits
    exact exists_verdict_search hc htype hoperand hfield ha hread hw hwnull hsearch hnull
      hdisplay hp

section Shifts

/-- The shift starts on one side of noon, and its start contains the text or not. -/
theorem verdict_partition_lateShift :
    (∃ o : Ordering, ∀ op : Operator, op.isDirect = true →
      ofShifts.verdict (Catalog.entityNamed "Shift")
        { startsAfter "2020-01-31T12:00:00-05:00" with op := op } lateShift = .ok (op.admits o)) ∧
    ∀ p ∈ Operator.searches, ∃ b,
      ofShifts.verdict (Catalog.entityNamed "Shift")
        { startsAfter "2020-01-31T12:00:00-05:00" with op := p.1 } lateShift = .ok b ∧
      ofShifts.verdict (Catalog.entityNamed "Shift")
        { startsAfter "2020-01-31T12:00:00-05:00" with op := p.2 } lateShift = .ok !b := by
  -- The moments on both sides are computed.
  have hresolve : (do
      let a ← ofShifts.resolve (Catalog.entityNamed "Shift") "starts_at"
      return (a.valueType, (a.read ofShifts.schema lateShift).toOption)) = .ok (.named .moment,
        some (.moment
          ⟨⟨2020, 1, 31, by decide⟩, .ofMicros (18 * 3600 * secondMicros), none⟩)) := rfl
  have hcoerce : (do
      let x ← ofShifts.coercer.coerce ofShifts.schema (.named .moment)
        (.text "2020-01-31T12:00:00-05:00")
      return (x.isNull, x.isDefined, x.isProper)) = .ok (false, true, true) :=
    toOption_eq_some_iff.mp (by decide +kernel)
  rcases bind_eq_ok_iff.mp hresolve with ⟨a, ha, hrest⟩
  rcases bind_eq_ok_iff.mp hcoerce with ⟨x, hx, hfacts⟩
  have hvalue : a.valueType = .named .moment := congrArg Prod.fst (Except.ok.inj hrest)
  have hread := toOption_eq_some_iff.mp (congrArg Prod.snd (Except.ok.inj hrest))
  have hnull : x.isNull = false := congrArg Prod.fst (Except.ok.inj hfacts)
  have hdefined : x.isDefined = true := congrArg (fun r => r.2.1) (Except.ok.inj hfacts)
  have hproper : x.isProper = true := congrArg (fun r => r.2.2) (Except.ok.inj hfacts)
  -- The operand is a moment because the coercer gives only values of the type, or null.
  have hxtype : ofShifts.schema.HasType x .moment := by
    have hgives : x.isNull = true ∨ ofShifts.schema.HasType x .moment :=
      Coercer.givesOnly_coerceTo isStandard_ofShifts.converters rfl rfl x hx
    rw [hnull] at hgives
    exact hgives.resolve_left Bool.false_ne_true
  rw [← hvalue] at hx
  rcases verdict_partition isStandard_ofShifts (k := startsAfter "2020-01-31T12:00:00-05:00") rfl
    rfl rfl rfl rfl ha hvalue (.inl rfl) nofun hx hxtype hdefined isCandidate_lateShift with
    ⟨y, hy, -, hdirect, hsearch⟩
  obtain rfl := Except.ok.inj (hread.symm.trans hy)
  exact ⟨hdirect rfl rfl hproper, hsearch rfl nofun ⟨_, rfl⟩⟩

/-- With an operand whose offset is more than a day none of the three accepts, though the
    operand is a moment and the candidate conforms to the type. -/
theorem not_verdict_partition_distantOffset :
    ofShifts.schema.IsCandidate lateShift (Catalog.entityNamed "Shift") ∧
    (∃ x, ofShifts.coercer.coerce ofShifts.schema (.named .moment)
      (.text "2020-01-31 12:00 +9900") = .ok x ∧ ofShifts.schema.HasType x .moment) ∧
    ∀ op ∈ [Operator.less, .equal, .greater],
      ¬ ofShifts.verdict (Catalog.entityNamed "Shift")
        { startsAfter "2020-01-31 12:00 +9900" with op := op } lateShift = .ok true := by
  -- The offset is read, so the criterion compiles; the comparison is what fails.
  have hcoerce : (do
      let x ← ofShifts.coercer.coerce ofShifts.schema (.named .moment)
        (.text "2020-01-31 12:00 +9900")
      return x.isNull) = .ok false :=
    toOption_eq_some_iff.mp (by decide +kernel)
  have hfails : ∀ op ∈ [Operator.less, .equal, .greater],
      (ofShifts.verdict (Catalog.entityNamed "Shift")
        { startsAfter "2020-01-31 12:00 +9900" with op := op } lateShift).toOption = none := by
    decide +kernel
  rcases bind_eq_ok_iff.mp hcoerce with ⟨x, hx, hnull⟩
  refine ⟨isCandidate_lateShift, ⟨x, hx, ?_⟩, fun op hop haccepts => ?_⟩
  · have hgives : x.isNull = true ∨ ofShifts.schema.HasType x .moment :=
      Coercer.givesOnly_coerceTo isStandard_ofShifts.converters rfl rfl x hx
    have hpresent : x.isNull = false := Except.ok.inj hnull
    rw [hpresent] at hgives
    exact hgives.resolve_left Bool.false_ne_true
  -- A verdict that fails accepts nothing.
  · have hnone := hfails op hop
    rw [haccepts] at hnone
    cases hnone

end Shifts

end Context

end Criteria
