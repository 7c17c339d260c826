import Criteria.Catalog.Types
import Criteria.Proofs.Compile.Resent
import Criteria.Proofs.Spec.Verdict

/-!
# Negated Criteria

De Morgan's laws for criteria about collections.

Quantifiers over tests that have an opposite can be negated from the outside in:
"some element" becomes "every element" and the other way round, each with the
negated criterion behind it, and "no element" becomes "some element" with the
criterion as it was. At the end of the way a test turns into its opposite.

What is shown is not only that the two criteria never agree on a candidate, but
that they fail alike. Both ask the same tests of the same elements in the same
order: "some" stops at the first element that is accepted, and this is where "every"
stops when it is asked for the opposite. So the verdicts are opposite wherever there
is one, and the induction needs no assumption on what the tests do. It is on the
quantifiers, one inside the other, and holds for all types of entity at once, since
the nested criterion is about the type of the elements.

That equality is opposite to its negation on null as well, and emptiness too, comes
from the comparisons of the standard table. A table with other comparisons need not
have this.

## Main definitions

* `Operator.HasOpposite`, `Operator.negated`: Tests with an opposite, and the opposite
  of an operator.
* `Quantifier.opposite`: The other quantifier.
* `Criterion.negated`: The negated criterion.
* `Criterion.IsTree`: Quantifiers over a test that has an opposite.

## Theorems

* `OperatorTable.evaluate_negated`: Opposite tests have opposite outcomes.
* `Quantifier.decide_opposite`: Opposite quantifiers over opposite verdicts.
* `Context.compile_negated`: Negated criteria have opposite verdicts.
-/

namespace Criteria

namespace Operator

/-- The operator is a test that has an opposite. -/
def HasOpposite (op : Operator) : Prop :=
  op ∈ [equal, notEqual, isNull, isNotNull, isEmpty, isNotEmpty]

instance (op : Operator) : Decidable op.HasOpposite :=
  inferInstanceAs (Decidable (op ∈ _))

/-- The operator of a negated criterion. -/
def negated : Operator → Operator
  | equal => notEqual
  | notEqual => equal
  | isNull => isNotNull
  | isNotNull => isNull
  | isEmpty => isNotEmpty
  | isNotEmpty => isEmpty
  | any => all
  | all | none => any
  | op => op

/-- The criterion behind the quantifier is negated as well; "none" is negated by
    itself. -/
def negatesNested : Operator → Bool
  | any | all => true
  | _ => false

/-- A test that has an opposite is none that is compiled in a way of its own. -/
theorem HasOpposite.isPlain {op : Operator} (h : op.HasOpposite) :
    op.isQuantifier = false ∧ op.isTextual = false ∧ op.isComparison = false := by
  simp only [HasOpposite, List.mem_cons, List.not_mem_nil, or_false] at h
  rcases h with rfl | rfl | rfl | rfl | rfl | rfl <;> exact ⟨rfl, rfl, rfl⟩

theorem HasOpposite.negated {op : Operator} (h : op.HasOpposite) :
    op.negated.HasOpposite ∧ op.negated.takesValue = op.takesValue := by
  simp only [HasOpposite, List.mem_cons, List.not_mem_nil, or_false] at h
  rcases h with rfl | rfl | rfl | rfl | rfl | rfl <;>
    exact ⟨by simp only [HasOpposite, Operator.negated, List.mem_cons, true_or, or_true], rfl⟩

theorem isQuantifier_negated {op : Operator} (h : op.isQuantifier = true) :
    op.negated.isQuantifier = true := by
  cases op with
  | any | all | none => rfl
  | _ => exact absurd h Bool.false_ne_true

end Operator

/-- The other quantifier. -/
def Quantifier.opposite : Quantifier → Quantifier
  | .some => .every
  | .every => .some

namespace Criterion

mutual

/-- The negated criterion; of further criteria only the first one matters. -/
def negated : Criterion → Criterion
  | ⟨field, op, operand, logic, filters, type, parameters, specification, arguments, composite⟩ =>
    ⟨field, op.negated, if op.negatesNested then negatedOperand operand else operand, logic,
      if op.negatesNested then negatedFirst filters else filters, type, parameters, specification,
      arguments, composite⟩
termination_by structural c => c

/-- The operand, negated if it is a criterion. -/
def negatedOperand : Operand Criterion → Operand Criterion
  | .literal v => .literal v
  | .nested c => .nested (negated c)
termination_by structural o => o

/-- The criteria, the first one negated. -/
def negatedFirst : List Criterion → List Criterion
  | [] => []
  | c :: cs => negated c :: cs
termination_by structural cs => cs

end

/-- Quantifiers, one inside the other, over a test that has an opposite. -/
inductive IsTree : Criterion → Prop
  | test {x : Criterion} (htype : x.type = .simple) (hop : x.op.HasOpposite) : IsTree x
  | quantifier {x n : Criterion} (htype : x.type = .simple) (hop : x.op.isQuantifier = true)
      (hnested : x.nested? = some n) (hn : IsTree n) : IsTree x

theorem type_of_kind_simple {x : Criterion} (h : x.kind = .simple) : x.type = .simple := by
  rw [kind] at h
  cases htype : x.type with
  | simple => rfl
  | _ => rw [htype] at h; exact absurd h (by decide)

section Fields

variable (x : Criterion)

theorem field_negated : x.negated.field = x.field := by
  cases x
  rw [negated]

theorem op_negated : x.negated.op = x.op.negated := by
  cases x
  rw [negated]

theorem type_negated : x.negated.type = x.type := by
  cases x
  rw [negated]

theorem literalOf_operand_negated :
    Context.literalOf x.negated.operand = Context.literalOf x.operand := by
  cases x with
  | mk field op operand =>
      rw [negated]
      dsimp only
      split
      · cases operand <;> rfl
      · rfl

/-- What a negated quantifier asks of the elements. -/
theorem nested?_negated :
    x.negated.nested? = if x.op.negatesNested then x.nested?.map negated else x.nested? := by
  cases x with
  | mk field op operand logic filters =>
      rw [negated]
      cases op.negatesNested with
      | false => rfl
      | true =>
          cases operand with
          | nested n => rfl
          | literal v => cases filters <;> rfl

end Fields

end Criterion

section Verdicts

theorem passing_unworded_map {α β : Type} (f : α → β) (x : Except Failure α) :
    passing (unworded (x.map f)) = (passing (unworded x)).map f := by
  cases x <;> rfl

theorem map_not_map_not {ε : Type} (x : Except ε Bool) : (x.map not).map not = x := by
  cases x with
  | ok b => cases b <;> rfl
  | error e => rfl

/-- Opposite tests have opposite outcomes, and fail alike. -/
theorem OperatorTable.evaluate_negated {op : Operator} (h : op.HasOpposite)
    (field operand : Value) : standard.evaluate op.negated field operand =
      (standard.evaluate op field operand).map not := by
  simp only [Operator.HasOpposite, List.mem_cons, List.not_mem_nil, or_false] at h
  rcases h with rfl | rfl | rfl | rfl | rfl | rfl
  · exact passing_unworded_map not _
  · have hequal : standard.evaluate .notEqual field operand =
        (standard.evaluate .equal field operand).map not := passing_unworded_map not _
    rw [hequal, map_not_map_not]
    rfl
  · rfl
  · exact congrArg Except.ok (Bool.not_not _).symm
  · rfl
  · exact congrArg Except.ok (Bool.not_not _).symm

/-- The opposite quantifier stops at the same element when it is asked for the
    opposite. -/
theorem Quantifier.decide_opposite (q : Quantifier) (f : Value → Except Fault Bool)
    (es : List Value) :
    q.opposite.decide (fun e => (f e).map not) es = (q.decide f es).map not := by
  induction es with
  | nil => cases q <;> rfl
  | cons e es ih =>
      rw [decide, decide]
      cases f e with
      | error fault => rfl
      | ok b =>
          cases q <;> cases b
          · exact ih
          · rfl
          · rfl
          · exact ih

end Verdicts

namespace Context

variable {c : Context} {entity : TypeExpr}

/-- A simple criterion compiles when its path leads somewhere and what is asked there
    compiles. -/
theorem compileCriterion_eq_ok_iff {x : Criterion} (htype : x.type = .simple) {spec : Spec} :
    c.compileCriterion entity x = .ok spec ↔
      ∃ path a, x.field = some path ∧ path ≠ "" ∧ c.resolve entity path = .ok a ∧
        (if x.op.isQuantifier then
            compileQuantifier a x.op fun element => x.nested?.map (c.compileCriterion element)
          else c.compileComparison a x.op (literalOf x.operand)) = .ok spec := by
  have hkind : x.kind = .simple := by rw [Criterion.kind, htype, CustomType.kind]
  rw [compileCriterion_eq, hkind]
  dsimp only
  -- A missing and an empty path are refused, so the path that is left is not empty.
  rw [compileSimple.eq_def]
  split
  · rename_i hfield
    simp only [hfield, defective, failWith, reduceCtorEq, false_and, exists_false]
  · rename_i hfield
    simp only [hfield, defective, failWith, reduceCtorEq, Option.some.injEq, false_iff, not_exists]
    rintro path a ⟨rfl, hne, -⟩
    exact hne rfl
  · rename_i path hne hfield
    rw [bind_eq_ok_iff]
    constructor
    · rintro ⟨a, ha, h⟩
      exact ⟨path, a, hfield, hne, ha, h⟩
    · rintro ⟨_, a, hpath, -, ha, h⟩
      rw [hfield, Option.some.injEq] at hpath
      rw [← hpath] at ha
      exact ⟨a, ha, h⟩

/-- A test compiles with either of two opposite operators, and to tests that differ in
    the operator only. -/
theorem compileComparison_negated {a : Accessor} {op : Operator} (hop : op.HasOpposite)
    {operand : Value} {spec : Spec} (h : c.compileComparison a op operand = .ok spec) :
    ∃ v, spec = c.test a op v none ∧
      c.compileComparison a op.negated operand = .ok (c.test a op.negated v none) := by
  -- Neither the operator nor its opposite is textual or compares by order.
  rcases hop.isPlain with ⟨-, htextual, hcomparison⟩
  rcases hop.negated with ⟨hop', htakes⟩
  rcases hop'.isPlain with ⟨-, htextual', hcomparison'⟩
  rw [compileComparison] at h ⊢
  rw [htakes]
  -- With a value or without one, both operators are compiled alike.
  by_cases hvalue : op.takesValue = true
  · rw [hvalue, Bool.not_true, if_neg Bool.false_ne_true, htextual, if_neg Bool.false_ne_true] at h
    rw [hvalue, Bool.not_true, if_neg Bool.false_ne_true, htextual', if_neg Bool.false_ne_true]
    rcases bind_eq_ok_iff.mp h with ⟨v, hv, hspec⟩
    rw [hcomparison, if_neg Bool.false_ne_true] at hspec
    refine ⟨v, (Except.ok.inj hspec).symm, bind_eq_ok_iff.mpr ⟨v, hv, ?_⟩⟩
    rw [hcomparison', if_neg Bool.false_ne_true]
    rfl
  · rw [Bool.not_eq_true] at hvalue
    rw [hvalue, Bool.not_false, if_pos rfl] at h
    rw [hvalue, Bool.not_false, if_pos rfl]
    exact ⟨.null, (Except.ok.inj h).symm, rfl⟩

/-- Quantifying over opposite specifications gives opposite verdicts. -/
theorem accepts_quantify_negated {s : Schema} {a : Accessor} {op : Operator}
    (hop : op.isQuantifier = true) {inner other : Spec}
    (hinner : op.negatesNested = true → ∀ v, other.accepts s v = (inner.accepts s v).map not)
    (hsame : op.negatesNested = false → other = inner) (v : Value) :
    (quantify a op.negated other).accepts s v = ((quantify a op inner).accepts s v).map not := by
  -- The two quantifiers read the same elements.
  have hopposite (q : Quantifier) (h : ∀ v, other.accepts s v = (inner.accepts s v).map not) :
      (Spec.quantified a q.opposite other).accepts s v =
        ((Spec.quantified a q inner).accepts s v).map not := by
    rw [Spec.accepts, Spec.accepts, funext h]
    cases passing (unworded (do (← a.read s v).elementsOrNone)) with
    | ok es => exact Quantifier.decide_opposite q _ es
    | error f => rfl
  -- The quantifiers `any` and `all` are opposite to each other over opposite criteria, and `none`
  -- is the opposite of `any` over the same one.
  cases op with
  | any => exact hopposite .some (hinner rfl)
  | all => exact hopposite .every (hinner rfl)
  | none =>
      rw [hsame rfl]
      exact (map_not_map_not ((Spec.quantified a .some inner).accepts s v)).symm
  | _ => exact absurd hop Bool.false_ne_true

/-- A test that has an opposite. -/
theorem compile_negated_test (hc : c.operators = .standard) {x : Criterion}
    (htype : x.type = .simple) (hop : x.op.HasOpposite) {spec : Spec}
    (h : c.compileCriterion entity x = .ok spec) :
    ∃ other, c.compileCriterion entity x.negated = .ok other ∧
      ∀ v, other.accepts c.schema v = (spec.accepts c.schema v).map not := by
  -- Field, path and operand are those of the criterion that is negated.
  rcases (compileCriterion_eq_ok_iff htype).mp h with ⟨path, a, hfield, hne, ha, h⟩
  rw [hop.isPlain.1, if_neg Bool.false_ne_true] at h
  rcases compileComparison_negated hop h with ⟨operand, rfl, hother⟩
  refine ⟨c.test a x.op.negated operand none, ?_, fun v => ?_⟩
  · rw [compileCriterion_eq_ok_iff (x.type_negated.trans htype), x.field_negated, x.op_negated,
      x.literalOf_operand_negated]
    refine ⟨path, a, hfield, hne, ha, ?_⟩
    rw [hop.negated.1.isPlain.1, if_neg Bool.false_ne_true]
    exact hother
  · -- Both tests compare the same value with the same operand.
    rw [test, test, Spec.accepts, Spec.accepts, FieldTest.accepts, FieldTest.accepts, hc]
    dsimp only
    cases passing (unworded (do transformed none (← a.read c.schema v))) with
    | error f => rfl
    | ok field => exact OperatorTable.evaluate_negated hop field operand

/-- A quantifier over a criterion that is negated as it should be. -/
theorem compile_negated_quantifier {x n : Criterion} (htype : x.type = .simple)
    (hop : x.op.isQuantifier = true) (hnested : x.nested? = some n)
    (hn : ∀ {element : TypeExpr} {inner : Spec}, c.compileCriterion element n = .ok inner →
      ∃ other, c.compileCriterion element n.negated = .ok other ∧
        ∀ v, other.accepts c.schema v = (inner.accepts c.schema v).map not)
    {spec : Spec} (h : c.compileCriterion entity x = .ok spec) :
    ∃ other, c.compileCriterion entity x.negated = .ok other ∧
      ∀ v, other.accepts c.schema v = (spec.accepts c.schema v).map not := by
  rcases (compileCriterion_eq_ok_iff htype).mp h with ⟨path, a, hfield, hne, ha, h⟩
  rw [hop, if_pos rfl, hnested] at h
  rcases compileQuantifier_eq_ok_iff.mp h with ⟨element, inner, helement, hinner, rfl⟩
  rw [Option.map_some, Option.some.injEq] at hinner
  -- Behind "none" stands the same criterion as before.
  have hbehind : ∃ m other, x.negated.nested? = some m ∧
      c.compileCriterion element m = .ok other ∧
      (x.op.negatesNested = true →
        ∀ v, other.accepts c.schema v = (inner.accepts c.schema v).map not) ∧
      (x.op.negatesNested = false → other = inner) := by
    rw [x.nested?_negated, hnested]
    cases hnegates : x.op.negatesNested with
    | true =>
        rcases hn hinner with ⟨other, hother, hopposite⟩
        exact ⟨n.negated, other, rfl, hother, fun _ => hopposite,
          fun h => absurd h.symm Bool.false_ne_true⟩
    | false => exact ⟨n, inner, rfl, hinner, fun h => absurd h Bool.false_ne_true, fun _ => rfl⟩
  rcases hbehind with ⟨m, other, hm, hother, hopposite, hsame⟩
  refine ⟨quantify a x.op.negated other, ?_, accepts_quantify_negated hop hopposite hsame⟩
  rw [compileCriterion_eq_ok_iff (x.type_negated.trans htype), x.field_negated, x.op_negated]
  refine ⟨path, a, hfield, hne, ha, ?_⟩
  rw [Operator.isQuantifier_negated hop, if_pos rfl]
  refine compileQuantifier_eq_ok_iff.mpr ⟨element, other, helement, ?_, rfl⟩
  rw [hm, Option.map_some, hother]

/-- If a criterion made of quantifiers and a test compiles, so does the negated one,
    and on every candidate one of them gives the opposite verdict of the other or
    both fail alike. So where every test answers, exactly one of them accepts. -/
theorem compile_negated (hc : c.operators = .standard) (entity : TypeExpr) {x : Criterion}
    (hx : x.IsTree) {spec : Spec} (h : c.compileCriterion entity x = .ok spec) :
    ∃ other, c.compileCriterion entity x.negated = .ok other ∧ ∀ v,
      other.accepts c.schema v = (spec.accepts c.schema v).map not ∧
      (spec.Answers c.schema v →
        ∃ b, spec.accepts c.schema v = .ok b ∧ other.accepts c.schema v = .ok !b) := by
  have hverdicts : ∃ other, c.compileCriterion entity x.negated = .ok other ∧
      ∀ v, other.accepts c.schema v = (spec.accepts c.schema v).map not := by
    -- What is behind a quantifier is compiled for the type of the elements.
    induction hx generalizing entity spec with
    | test htype hop => exact compile_negated_test hc htype hop h
    | quantifier htype hop hnested _ ih =>
        exact compile_negated_quantifier htype hop hnested (ih _) h
  rcases hverdicts with ⟨other, hother, hopposite⟩
  refine ⟨other, hother, fun v => ⟨hopposite v, fun hanswers => ?_⟩⟩
  rcases Spec.exists_accepts_of_answers c.schema spec v hanswers with ⟨b, hb⟩
  refine ⟨b, hb, ?_⟩
  rw [hopposite, hb]
  rfl

/-- The sample schema. -/
def ofSample : Context :=
  { schema := Catalog.schema, now := ⟨.first, .ofMicros 0, some .utc⟩ }

/-- No child has only children with a rank. -/
def noneOnlyRanked : Criterion where
  field := some "children"
  op := .none
  operand := .nested {
    field := some "children"
    op := .all
    filters := [{ field := some "rank", op := .isNotNull }] }

/-- A node with a child that has nowhere to keep children. -/
def grandchildless : Value :=
  let child : Value := .entity "Node" .record [("name", .text "child"), ("children", .null)] []
  .entity "Node" .record [("name", .text "parent"), ("children", .list [child])] []

/-- Where children are missing all of them have a rank, so the criterion rejects the
    node, and the negated one accepts it. -/
theorem compile_negated_noneOnlyRanked : ∃ spec other,
    ofSample.compileCriterion (Catalog.entityNamed "Node") noneOnlyRanked = .ok spec ∧
    ofSample.compileCriterion (Catalog.entityNamed "Node") noneOnlyRanked.negated = .ok other ∧
    spec.accepts ofSample.schema grandchildless = .ok false ∧
    other.accepts ofSample.schema grandchildless = .ok true := by
  have htree : noneOnlyRanked.IsTree :=
    .quantifier rfl rfl rfl (.quantifier rfl rfl rfl (.test rfl (by decide)))
  have hverdict : (do
      let spec ← ofSample.compileCriterion (Catalog.entityNamed "Node") noneOnlyRanked
      spec.accepts ofSample.schema grandchildless) = .ok false := rfl
  rcases bind_eq_ok_iff.mp hverdict with ⟨spec, hspec, hrejects⟩
  rcases compile_negated rfl (Catalog.entityNamed "Node") htree hspec with ⟨other, hother, h⟩
  refine ⟨spec, other, hspec, hother, hrejects, ?_⟩
  rw [(h grandchildless).1, hrejects]
  rfl

end Context

end Criteria
