import Criteria.Proofs.Compile.Composite
import Criteria.Proofs.Compile.Merged
import Criteria.Proofs.Spec.Expression

/-!
# Expressions of Criteria

The expressions that criteria stand for, and that compiling them does not show how the
specifications were put together.

Compiling combines specifications in many places: a field that may be null gets a test
in front, a range has two bounds, trees of named specifications have groups, quantifiers
ask for something of the elements, and criteria are cut into runs. In each of these
places what is combined may be a combination itself, among other things because what is
registered under a name may be one. `Context.Expresses` says which expression a
criterion stands for, with every combination where compiling makes it. The expression
of a criterion makes the specification that the criterion is compiled to, so that all
there is to know about expressions is known about it: it is flat, and it is evaluated
as if it were not.

What a maker makes is code of someone else. `Registry.MakesBuilt` asks that it was put
together by the same means.

## Main definitions

* `SpecExpr.IsFilter`: Tests, combined once, with a test for null in front or without.
* `SpecExpr.quantify`: What a quantifier asks of a collection.
* `Spec.IsBuilt`, `Registry.MakesBuilt`: Specifications that are made by expressions.
* `Context.ExpressesNode`, `Context.Expresses`, `Context.ExpressesRun`: The expressions
  of trees, criteria and runs.
* `SpecExpr.FlattensTo`: A flat specification with the verdicts of an expression.

## Theorems

* `Criterion.nestedInduction`: Induction on what quantifiers ask for.
* `Context.isFilter_compileCustom`, `Context.isFilter_compileComparison`: What custom
  filters and comparisons are compiled to.
* `Context.exists_expressesNode`, `Context.exists_expresses`: Every criterion that
  compiles has an expression.
* `combinations_flatten`: Expressions, bracketings and criteria.
-/

namespace Criteria

section Induction

variable {x n : Criterion}

theorem Criterion.sizeOf_nested? (h : x.nested? = some n) : sizeOf n < sizeOf x := by
  cases x with
  | mk field op operand logic filters =>
      cases operand with
      | nested m =>
          have hm : m = n := Option.some.inj h
          rw [hm, mk.sizeOf_spec, Operand.nested.sizeOf_spec]
          omega
      | literal v =>
          -- Where the operand is no criterion, the first of the further ones is asked.
          have hmem : n ∈ filters := List.mem_of_mem_head? h
          have hlt := List.sizeOf_lt_of_mem hmem
          rw [mk.sizeOf_spec]
          omega

/-- What holds of a criterion if it holds of the one that it asks of the elements of a
    collection holds of all criteria. -/
theorem Criterion.nestedInduction {P : Criterion → Prop}
    (h : ∀ x, (∀ n, x.nested? = some n → P n) → P x) (x : Criterion) : P x :=
  h x fun n _ => nestedInduction h n
termination_by sizeOf x
decreasing_by exact Criterion.sizeOf_nested? ‹_›

end Induction

namespace SpecExpr

/-- Tests of fields, combined at most once, with a test for null in front or without. -/
inductive IsFilter : SpecExpr → Prop
  | test (l : Leaf) : IsFilter (.leaf l)
  | all (ls : List Leaf) : IsFilter (.allOf (ls.map .leaf))
  | any (ls : List Leaf) : IsFilter (.oneOf (ls.map .leaf))
  | guarded {t : FieldTest} (ht : t.op = .isNotNull) {e : SpecExpr} (h : IsFilter e) :
      IsFilter (.both (.leaf (.field t)) e)

/-- What a quantifier asks of a collection. -/
def quantify (a : Accessor) (op : Operator) (inner : SpecExpr) : SpecExpr :=
  match op with
  | .all => .quantified a .every inner
  | .none => .negated (.quantified a .some inner)
  | _ => .quantified a .some inner

theorem buildAll_map_leaf (ls : List Leaf) :
    buildAll (ls.map .leaf) = .ok (ls.map Leaf.spec) := by
  rw [buildAll_eq_ok_iff, List.forall₂_map_left_iff, List.forall₂_map_right_iff, List.forall₂_same]
  exact fun l _ => rfl

theorem build_quantify {e : SpecExpr} {x : Spec} (h : e.build = .ok x) (a : Accessor)
    (op : Operator) : (quantify a op e).build = .ok (Context.quantify a op x) := by
  have hquantified (q : Quantifier) : (quantified a q e).build = .ok (.quantified a q x) := by
    rw [build, h]
    rfl
  cases op with
  | all => exact hquantified .every
  | none =>
      show (quantified a .some e).negated.build = _
      rw [build, hquantified]
      rfl
  | _ => exact hquantified .some

end SpecExpr

namespace Spec

/-- The specification is made by an expression. -/
def IsBuilt (x : Spec) : Prop :=
  ∃ e : SpecExpr, e.build = .ok x

/-- The specification is a single test. -/
def IsTest (x : Spec) : Prop :=
  ∃ l : Leaf, l.spec = x

/-- The specification is made by a filter. -/
def IsFilter (x : Spec) : Prop :=
  ∃ e : SpecExpr, e.IsFilter ∧ e.build = .ok x

variable {x : Spec} {xs : List Spec}

theorem exists_map_spec (h : ∀ x ∈ xs, x.IsTest) : ∃ ls : List Leaf, ls.map Leaf.spec = xs := by
  rcases exists_forall₂ h with ⟨ls, hls⟩
  refine ⟨ls, ?_⟩
  rw [← List.forall₂_eq_eq_eq, List.forall₂_map_left_iff]
  exact hls.flip

theorem IsTest.isFilter (h : x.IsTest) : x.IsFilter := by
  rcases h with ⟨l, rfl⟩
  exact ⟨.leaf l, .test l, rfl⟩

theorem isFilter_allOf (h : ∀ x ∈ xs, x.IsTest) : (allOf xs).IsFilter := by
  rcases exists_map_spec h with ⟨ls, rfl⟩
  refine ⟨_, .all ls, ?_⟩
  rw [SpecExpr.build, SpecExpr.buildAll_map_leaf]
  rfl

theorem isFilter_oneOf (h : ∀ x ∈ xs, x.IsTest) (hx : oneOf xs = .ok x) : x.IsFilter := by
  rcases exists_map_spec h with ⟨ls, rfl⟩
  refine ⟨_, .any ls, ?_⟩
  rw [SpecExpr.build, SpecExpr.buildAll_map_leaf]
  exact hx

theorem isFilter_membership (t : MembershipTest) : GivesOnly IsFilter (passing (membership t)) := by
  rw [membership]
  split
  · exact givesOnly_ok (IsTest.isFilter ⟨.member t, rfl⟩)
  · exact givesOnly_error _

end Spec

namespace Context

variable {c : Context} {entity : TypeExpr} {p : Parameters} {a : Accessor}

section Filters

theorem isTest_test (c : Context) (a : Accessor) (op : Operator) (operand : Value)
    (transform : Option Transform) : (c.test a op operand transform).IsTest :=
  ⟨.field ⟨a, op, operand, transform, c.operators⟩, rfl⟩

theorem isFilter_guarded {spec : Spec} (h : spec.IsFilter) : (c.guarded a spec).IsFilter := by
  rw [guarded]
  split
  · rcases h with ⟨e, he, hbuild⟩
    refine ⟨_, .guarded (t := ⟨a, .isNotNull, .null, none, c.operators⟩) rfl he, ?_⟩
    rw [SpecExpr.build, hbuild]
    rfl
  · exact h

/-- A test, with a test for null in front where it is needed. -/
theorem isFilter_guarded_test (c : Context) (a : Accessor) (op : Operator) (operand : Value)
    (transform : Option Transform) : (c.guarded a (c.test a op operand transform)).IsFilter :=
  isFilter_guarded (c.isTest_test a op operand transform).isFilter

theorem isFilter_fullTextSearch : GivesOnly Spec.IsFilter (c.fullTextSearch entity p) := by
  -- Here and below only what is combined counts, so the steps before may give anything.
  refine GivesOnly.after fun (term, rawFields) => ?_
  dsimp only
  split
  · exact givesOnly_error _
  · refine (GivesOnly.mapM (Q := Spec.IsTest) fun path _ => ?_).bind fun tests htests => ?_
    · exact GivesOnly.after fun a => givesOnly_ok (c.isTest_test ..)
    · exact GivesOnly.passing fun x hx => Spec.isFilter_oneOf htests hx

theorem isTest_startTest (inclusive : Bool) (raw : Value) :
    GivesOnly Spec.IsTest (c.startTest a inclusive raw) :=
  GivesOnly.after fun _ => givesOnly_ok (c.isTest_test ..)

theorem isTest_endTest (inclusive : Bool) (raw : Value) :
    GivesOnly Spec.IsTest (c.endTest a inclusive raw) := by
  refine GivesOnly.after fun bound => ?_
  split
  · dsimp only
    split
    · exact GivesOnly.after fun _ => givesOnly_ok (c.isTest_test ..)
    · exact givesOnly_ok (c.isTest_test ..)
  · exact givesOnly_ok (c.isTest_test ..)

theorem isTest_testIfGiven {v : Option Value} {f : Value → Except Fault Spec}
    (hf : ∀ x, GivesOnly Spec.IsTest (f x)) :
    GivesOnly (fun tests => ∀ s ∈ tests, s.IsTest) (testIfGiven v f) := by
  cases v with
  | none => exact givesOnly_ok (List.forall_mem_nil _)
  | some x => exact (hf x).map fun s hs => List.forall_mem_singleton.mpr hs

theorem isFilter_dateRange : GivesOnly Spec.IsFilter (c.dateRange entity p) := by
  refine GivesOnly.after fun a => ?_
  dsimp only
  split
  · exact givesOnly_error _
  · refine GivesOnly.after fun inclusive => ?_
    -- One bound may be missing, but each one that is there is a single test.
    refine (isTest_testIfGiven (isTest_startTest inclusive)).bind fun lower hlower => ?_
    refine (isTest_testIfGiven (isTest_endTest inclusive)).bind fun upper hupper => ?_
    refine givesOnly_ok (isFilter_guarded (Spec.isFilter_allOf ?_))
    exact List.forall_mem_append.mpr ⟨hlower, hupper⟩

theorem isFilter_dateRelative : GivesOnly Spec.IsFilter (c.dateRelative entity p) :=
  GivesOnly.after fun _ => GivesOnly.after fun _ =>
    givesOnly_ok (c.isFilter_guarded_test ..)

theorem isFilter_timeRelative : GivesOnly Spec.IsFilter (c.timeRelative entity p) :=
  GivesOnly.after fun _ => GivesOnly.after fun _ =>
    givesOnly_ok (c.isFilter_guarded_test ..)

/-- Two tests in front of each other, whichever way they are joined. -/
theorem isFilter_pair {x y : Spec} (hx : x.IsTest) (hy : y.IsTest) :
    (Spec.conj [x, y]).IsFilter ∧ (Spec.disj [x, y]).IsFilter := by
  have hboth : ∀ s ∈ [x, y], s.IsTest :=
    List.forall_mem_cons.mpr ⟨hx, List.forall_mem_singleton.mpr hy⟩
  exact ⟨Spec.isFilter_allOf hboth, Spec.isFilter_oneOf hboth rfl⟩

theorem isFilter_timeRange : GivesOnly Spec.IsFilter (c.timeRange entity p) := by
  refine GivesOnly.after fun a => GivesOnly.after fun (rawStart, rawEnd) => ?_
  refine GivesOnly.after fun first => GivesOnly.after fun last => ?_
  refine GivesOnly.after fun inclusive => ?_
  have htests := isFilter_pair
    (c.isTest_test a (boundOperators inclusive).1 (.clock first) (some .timeOfDay))
    (c.isTest_test a (boundOperators inclusive).2 (.clock last) (some .timeOfDay))
  dsimp only
  split
  · exact givesOnly_error _
  · exact givesOnly_ok (isFilter_guarded htests.2)
  · exact givesOnly_ok (isFilter_guarded htests.1)

theorem isFilter_numericRange : GivesOnly Spec.IsFilter (c.numericRange entity p) := by
  refine GivesOnly.after fun a => GivesOnly.after fun (rawMin, rawMax) => ?_
  refine GivesOnly.after fun low => GivesOnly.after fun high => ?_
  refine GivesOnly.after fun inclusive => givesOnly_ok (isFilter_guarded ?_)
  exact (isFilter_pair (c.isTest_test ..) (c.isTest_test ..)).1

theorem isFilter_nullTest (op : Operator) : GivesOnly Spec.IsFilter (nullTest op c entity p) :=
  GivesOnly.after fun _ => givesOnly_ok (c.isTest_test ..).isFilter

theorem isFilter_enumValues : GivesOnly Spec.IsFilter (c.enumValues entity p) := by
  refine GivesOnly.after fun a => ?_
  split
  · refine GivesOnly.after fun tokens => GivesOnly.after fun members => ?_
    exact Spec.isFilter_membership _
  · exact givesOnly_error _

theorem isFilter_textMembership (negated : Bool) :
    GivesOnly Spec.IsFilter (textMembership negated c entity p) :=
  GivesOnly.after fun _ => GivesOnly.after fun _ =>
    Spec.isFilter_membership _

theorem isFilter_numericMembership (negated : Bool) :
    GivesOnly Spec.IsFilter (numericMembership negated c entity p) :=
  GivesOnly.after fun _ => GivesOnly.after fun _ =>
    GivesOnly.after fun _ => Spec.isFilter_membership _

/-- Custom filters are compiled to filters. -/
theorem isFilter_compileCustom {type : CustomType} {parameters : List (String × Value)} :
    GivesOnly Spec.IsFilter (c.compileCustom entity type parameters) := by
  unfold compileCustom
  -- Every custom filter builds its specification from tests; three kinds are never compiled here.
  cases type with
  | fullTextSearch => exact isFilter_fullTextSearch
  | dateRange => exact isFilter_dateRange
  | dateRelative => exact isFilter_dateRelative
  | timeRange => exact isFilter_timeRange
  | timeRelative => exact isFilter_timeRelative
  | numericRange => exact isFilter_numericRange
  | isNull => exact isFilter_nullTest .isNull
  | isNotNull => exact isFilter_nullTest .isNotNull
  | enumValues => exact isFilter_enumValues
  | textIn => exact isFilter_textMembership false
  | textNotIn => exact isFilter_textMembership true
  | numericIn => exact isFilter_numericMembership false
  | numericNotIn => exact isFilter_numericMembership true
  | simple | named | composite => exact givesOnly_error _

/-- Comparisons are compiled to filters. -/
theorem isFilter_compileComparison {op : Operator} {operand : Value} :
    GivesOnly Spec.IsFilter (c.compileComparison a op operand) := by
  have htest (op : Operator) (v : Value) (t : Option Transform) :
      GivesOnly (ε := Fault) Spec.IsFilter (.ok (c.test a op v t)) :=
    givesOnly_ok (c.isTest_test a op v t).isFilter
  unfold compileComparison
  split
  -- The order of the cases is that of the compiler: no value, a
  -- text, a comparison by order, equality.
  · exact htest _ _ _
  split
  · unfold compileText
    split
    · exact givesOnly_error _
    · exact GivesOnly.after fun _ => htest _ _ _
  · refine GivesOnly.after fun v => ?_
    split
    · unfold compileOrder
      split
      · exact givesOnly_error _
      split
      · exact givesOnly_ok (c.isFilter_guarded_test ..)
      · exact givesOnly_ok (c.isFilter_guarded_test ..)
    · exact htest _ _ _

end Filters

end Context

section Registered

/-- Whatever is made under a registered name is made by an expression. -/
def Registry.MakesBuilt (r : Registry) : Prop :=
  ∀ entry ∈ r, ∀ arguments x, entry.maker.make arguments = .ok (.spec x) → x.IsBuilt

/-- What a name stands for was made by what is registered. -/
theorem Registry.exists_make_of_resolve {r : Registry} {s : Schema} {name : String}
    {arguments : List Value} {entity : Option TypeExpr} {x : Spec}
    (h : r.resolve s name arguments entity = .ok x) :
    ∃ entry ∈ r, entry.maker.make arguments = .ok (.spec x) := by
  -- A resolution passes the lookup, the check of the type and the
  -- signature before anything is made.
  rcases bind_eq_ok_iff.mp h with ⟨entry, hget, h⟩
  have hmem : entry ∈ r := by
    rw [get] at hget
    split at hget
    · rename_i found hfound
      rw [← Except.ok.inj hget]
      exact List.mem_of_find?_eq_some hfound
    · cases hget
  refine ⟨entry, hmem, ?_⟩
  dsimp only at h
  split at h
  · cases h
  split at h
  · cases h
  rcases bind_eq_ok_iff.mp h with ⟨made, hmade, h⟩
  rw [mapError_eq_ok_iff] at hmade
  -- What is made counts only if it is a specification.
  cases made with
  | spec y => rw [hmade, Except.ok.inj h]
  | other type => cases h

end Registered

namespace Context

/-- The expression of a tree: the groups as they are drawn, and for each leaf one that
    makes what it stands for. -/
inductive ExpressesNode (c : Context) (entity : TypeExpr) : SpecNode → SpecExpr → Prop
  | leaf {name : String} {arguments : List Value} {x : Spec} {e : SpecExpr}
      (h : c.registry.resolve c.schema name arguments (some entity) = .ok x)
      (hbuild : e.build = .ok x) : ExpressesNode c entity (.leaf name arguments) e
  | all {nodes : List SpecNode} {es : List SpecExpr}
      (h : List.Forall₂ (ExpressesNode c entity) nodes es) :
      ExpressesNode c entity (.group .and nodes) (.allOf es)
  | any {nodes : List SpecNode} {es : List SpecExpr}
      (h : List.Forall₂ (ExpressesNode c entity) nodes es) :
      ExpressesNode c entity (.group .or nodes) (.oneOf es)

/-- The expression of a criterion: what its name stands for, its tree, the filter that
    it is, or a quantifier over the expression of what it asks of the elements. -/
inductive Expresses (c : Context) : TypeExpr → Criterion → SpecExpr → Prop
  | named {entity : TypeExpr} {x : Criterion} {name : String} {e : SpecExpr} {spec : Spec}
      (hkind : x.kind = .named) (hname : x.specification = some name)
      (h : c.registry.resolve c.schema name x.arguments (some entity) = .ok spec)
      (hbuild : e.build = .ok spec) : Expresses c entity x e
  | composite {entity : TypeExpr} {x : Criterion} {nodes : List SpecNode} {es : List SpecExpr}
      (hkind : x.kind = .composite) (hnodes : x.composite = some nodes)
      (h : List.Forall₂ (c.ExpressesNode entity) nodes es) : Expresses c entity x (.allOf es)
  | filter {entity : TypeExpr} {x : Criterion} {e : SpecExpr} {spec : Spec}
      (hkind : x.kind = .custom ∨ x.kind = .simple ∧ x.op.isQuantifier = false)
      (he : e.IsFilter) (h : c.compileCriterion entity x = .ok spec)
      (hbuild : e.build = .ok spec) : Expresses c entity x e
  | quantifier {entity : TypeExpr} {x : Criterion} {path : String} {a : Accessor}
      {element : TypeExpr} {n : Criterion} {e : SpecExpr} (hkind : x.kind = .simple)
      (hop : x.op.isQuantifier = true) (hfield : x.field = some path)
      (ha : c.resolve entity path = .ok a) (helement : a.element = some element)
      (hnested : x.nested? = some n) (h : Expresses c element n e) :
      Expresses c entity x (.quantify a x.op e)

/-- The expression of a run: one of its criteria. -/
def ExpressesRun (c : Context) (entity : TypeExpr) (run : List Criterion) (e : SpecExpr) : Prop :=
  ∃ es, List.Forall₂ (c.Expresses entity) run es ∧ e = .oneOf es

variable {c : Context} {entity : TypeExpr}

theorem exists_build_of_resolve (hc : c.registry.MakesBuilt) {name : String}
    {arguments : List Value} {x : Spec}
    (h : c.registry.resolve c.schema name arguments (some entity) = .ok x) : x.IsBuilt := by
  rcases Registry.exists_make_of_resolve h with ⟨entry, hentry, hmake⟩
  exact hc entry hentry arguments x hmake

mutual

/-- A tree that compiles has an expression. -/
theorem exists_expressesNode (hc : c.registry.MakesBuilt) : ∀ {n : SpecNode} {x : Spec},
    c.compileNode entity n = .ok x → ∃ e, c.ExpressesNode entity n e ∧ e.build = .ok x
  -- By recursion over the node; a group is expressed by the expressions of its nodes.
  | .leaf name arguments, x, h => by
      rcases exists_build_of_resolve hc h with ⟨e, he⟩
      exact ⟨e, .leaf h he, he⟩
  | .group logic [], x, h => by
      rw [compileNode] at h
      cases h
  -- An empty group is refused before, so the alternatives of this one are not empty.
  | .group logic (n :: ns), x, h => by
      rw [compileNode_group logic (List.cons_ne_nil n ns)] at h
      rcases bind_eq_ok_iff.mp h with ⟨specs, hspecs, h⟩
      rcases exists_expressesNodes hc hspecs with ⟨es, hes, hbuild⟩
      cases logic with
      | and =>
          refine ⟨.allOf es, .all hes, ?_⟩
          rw [SpecExpr.build, hbuild]
          exact congrArg Except.ok (Except.ok.inj h)
      | or =>
          refine ⟨.oneOf es, .any hes, ?_⟩
          rw [SpecExpr.build, hbuild]
          exact passing_eq_ok_iff.mp h

theorem exists_expressesNodes (hc : c.registry.MakesBuilt) :
    ∀ {ns : List SpecNode} {xs : List Spec}, c.compileNodes entity ns = .ok xs →
      ∃ es, List.Forall₂ (c.ExpressesNode entity) ns es ∧ SpecExpr.buildAll es = .ok xs
  | [], xs, h => ⟨[], .nil, congrArg Except.ok (Except.ok.inj h)⟩
  | n :: ns, xs, h => by
      rw [compileNodes] at h
      rcases bind_eq_ok_iff.mp h with ⟨x, hx, h⟩
      rcases bind_eq_ok_iff.mp h with ⟨rest, hrest, h⟩
      rcases exists_expressesNode hc hx with ⟨e, he, hbuild⟩
      rcases exists_expressesNodes hc hrest with ⟨es, hes, hbuilds⟩
      refine ⟨e :: es, .cons he hes, ?_⟩
      rw [SpecExpr.buildAll, hbuild, hbuilds]
      exact congrArg Except.ok (Except.ok.inj h)

end

/-- A criterion that compiles has an expression, which makes the specification that it
    is compiled to. -/
theorem exists_expresses (hc : c.registry.MakesBuilt) (x : Criterion) :
    ∀ {entity : TypeExpr} {spec : Spec}, c.compileCriterion entity x = .ok spec →
      ∃ e, c.Expresses entity x e ∧ e.build = .ok spec := by
  -- What a quantifier asks is about the elements, so the type of entity is not fixed.
  induction x using Criterion.nestedInduction with
  | h x ih =>
      intro entity spec h
      have hcompile := h
      rw [compileCriterion_eq] at h
      -- By the kind of the criterion, and for a simple one by whether it asks about elements.
      cases hkind : x.kind with
      | simple =>
          rcases (compileCriterion_eq_ok_iff (Criterion.type_of_kind_simple hkind)).mp hcompile with
            ⟨path, a, hfield, -, ha, hspec⟩
          cases hop : x.op.isQuantifier with
          | false =>
              rw [hop, if_neg Bool.false_ne_true] at hspec
              rcases isFilter_compileComparison spec hspec with ⟨e, he, hbuild⟩
              exact ⟨e, .filter (.inr ⟨hkind, hop⟩) he hcompile hbuild, hbuild⟩
          | true =>
              rw [hop, if_pos rfl] at hspec
              rcases compileQuantifier_eq_ok_iff.mp hspec with
                ⟨element, inner, helement, hinner, rfl⟩
              rcases Option.map_eq_some_iff.mp hinner with ⟨n, hn, hncompile⟩
              -- The nested criterion is expressed by the induction, for the type of the elements.
              rcases ih n hn hncompile with ⟨e, he, hbuild⟩
              exact ⟨_, .quantifier hkind hop hfield ha helement hn he,
                SpecExpr.build_quantify hbuild a x.op⟩
      | named =>
          rw [hkind] at h
          dsimp only at h
          cases hname : x.specification with
          | none => rw [hname] at h; cases h
          | some name =>
              -- Without a name nothing compiles, and with one the compiler asks the registry.
              have hresolve :
                  c.registry.resolve c.schema name x.arguments (some entity) = .ok spec := by
                rw [hname, compileNamed.eq_def] at h
                split at h
                · cases h
                · cases h
                · rename_i other _ hother
                  rw [Option.some.inj hother]
                  exact h
              rcases exists_build_of_resolve hc hresolve with ⟨e, he⟩
              exact ⟨e, .named hkind hname hresolve he, he⟩
      | composite =>
          rw [hkind] at h
          dsimp only at h
          rw [compileComposite.eq_def] at h
          split at h
          · cases h
          · cases h
          · rename_i nodes _ hnodes
            rcases map_eq_ok_iff.mp h with ⟨specs, hspecs, rfl⟩
            rcases exists_expressesNodes hc hspecs with ⟨es, hes, hbuild⟩
            refine ⟨.allOf es, .composite hkind hnodes hes, ?_⟩
            rw [SpecExpr.build, hbuild]
            rfl
      | custom =>
          rw [hkind] at h
          rcases isFilter_compileCustom spec h with ⟨e, he, hbuild⟩
          exact ⟨e, .filter (.inl hkind) he hcompile hbuild, hbuild⟩

/-- A run that compiles has an expression. -/
theorem exists_expressesRun (hc : c.registry.MakesBuilt) {run : List Criterion} {x : Spec}
    (h : c.IsRunSpec entity run x) : ∃ e, c.ExpressesRun entity run e ∧ e.build = .ok x := by
  rcases h with ⟨own, hown, hone⟩
  rcases exists_forall₂_between hown fun y _ s hs => exists_expresses hc y hs with
    ⟨es, hes, hbuild⟩
  refine ⟨.oneOf es, ⟨es, hes, rfl⟩, ?_⟩
  rw [SpecExpr.build, SpecExpr.buildAll_eq_ok_iff.mpr hbuild]
  exact hone

end Context

namespace SpecExpr

/-- The specification is flat, and on every candidate it has the verdict of the
    expression as it is written, or fails as it fails. -/
structure FlattensTo (e : SpecExpr) (x : Spec) : Prop where
  isFlat : x.IsFlat
  accepts_eq : ∀ s v, x.accepts s v = e.accepts s v

theorem flattensTo_of_build {e : SpecExpr} {x : Spec} (h : e.build = .ok x) : e.FlattensTo x :=
  ⟨isFlat_of_build h, fun s => accepts_build s h⟩

/-- Unless alternatives are missing an expression makes a specification, and this is
    flat. -/
theorem exists_flattensTo {e : SpecExpr} (h : e.lacksAlternatives = false) :
    ∃ x, e.build = .ok x ∧ e.FlattensTo x := by
  have hnone : failure? e.build = none := by rw [failure?_build, if_neg (by rw [h]; exact nofun)]
  rcases failure?_eq_none_iff.mp hnone with ⟨x, hx⟩
  exact ⟨x, hx, flattensTo_of_build hx⟩

end SpecExpr

/-- Specifications are flattened, which does not show. An expression makes one unless it
    asks for one of no alternatives, and what it makes is flat, with the verdicts and the
    errors of the expression. Any two ways of joining the same row of operands by "and",
    or by "or", have equal reports.
    And if what is registered and the further specifications are made by expressions,
    then so are the specifications that criteria are compiled to, one for each run. -/
theorem combinations_flatten :
    (∀ e : SpecExpr, (e.lacksAlternatives = true → e.build = .error .emptyAlternatives) ∧
      (e.lacksAlternatives = false → ∃ x, e.build = .ok x ∧ e.FlattensTo x)) ∧
    (∀ b b' : Bracketing, b.operands = b'.operands →
      b.conjoin.report = b'.conjoin.report ∧ b.disjoin.report = b'.disjoin.report) ∧
    ∀ (c : Context) (entity : TypeExpr) (criteria : List Criterion) (further specs : List Spec),
      c.registry.MakesBuilt → (∀ x ∈ further, x.IsBuilt) →
      c.compile entity criteria further = .ok specs →
      ∃ es others, List.Forall₂ (c.ExpressesRun entity) (cut criteria) es ∧
        List.Forall₂ (fun e x => e.build = .ok x) others further ∧
        List.Forall₂ SpecExpr.FlattensTo (es ++ others) specs := by
  refine ⟨fun e => ⟨fun h => ?_, SpecExpr.exists_flattensTo⟩, fun b b' h => ?_, ?_⟩
  -- An expression fails only where it offers no alternatives.
  · rw [← failure?_eq_some_iff, SpecExpr.failure?_build, if_pos h]
  -- Both ways to combine depend on the operands alone, whatever the brackets.
  · have hconj : b.conjoin = b'.conjoin := by
      rw [b.conjoin_eq_allOf, b'.conjoin_eq_allOf, h]
    have hdisj : b.disjoin = b'.disjoin := by
      have hone := b.oneOf_operands
      rw [h, b'.oneOf_operands] at hone
      exact (Except.ok.inj hone).symm
    exact ⟨by rw [hconj], by rw [hdisj]⟩
  · intro c entity criteria further specs hc hfurther h
    rcases map_eq_ok_iff.mp h with ⟨own, hown, rfl⟩
    -- Each run has its own expression, and the further specifications have theirs.
    rcases exists_forall₂_between (Context.of_compileRuns_eq_ok hown).2
      fun run _ x hx => Context.exists_expressesRun hc hx with ⟨es, hes, hbuild⟩
    rcases exists_forall₂ hfurther with ⟨others, hothers⟩
    refine ⟨es, others, hes, hothers.flip, ?_⟩
    exact List.rel_append (hbuild.imp fun _ _ => SpecExpr.flattensTo_of_build)
      (hothers.flip.imp fun _ _ => SpecExpr.flattensTo_of_build)

/-- A test of an age. -/
def ageTest (op : Operator) (n : Int) : Leaf :=
  .field ⟨⟨.any, "age", ["age"], .any, .any, true, none⟩, op, .int n, none, .standard⟩

/-- Of working age: 18 and more, and under 65. -/
def workingAge : SpecExpr :=
  .both (.leaf (ageTest .greaterOrEqual 18)) (.leaf (ageTest .less 65))

/-- A name stands for working age. -/
def ofWorkers : Context :=
  { schema := ⟨[], [], .first⟩
    registry := [⟨"working", ⟨none, fun _ => .ok (.spec (.conj
      [(ageTest .greaterOrEqual 18).spec, (ageTest .less 65).spec]))⟩, none, none⟩]
    now := ⟨.first, .ofMicros 0, some .utc⟩ }

theorem makesBuilt_ofWorkers : ofWorkers.registry.MakesBuilt := by
  refine List.forall_mem_singleton.mpr fun arguments x hx => ⟨workingAge, ?_⟩
  cases hx
  rfl

/-- Of working age twice over. -/
def workingTwice : Criterion where
  type := .composite
  composite := some [.leaf "working" [], .group .and [.leaf "working" [], .leaf "working" []]]

/-- Three conjunctions are made one, in whatever order, and so are those of a tree, whose
    specification has six members. -/
theorem combinations_flatten_working :
    (∃ x, workingAge.build = .ok x ∧ workingAge.FlattensTo x ∧
      (Bracketing.two (.two (.one x) (.one x)) (.one x)).conjoin.report =
        (Bracketing.two (.one x) (.two (.one x) (.one x))).conjoin.report) ∧
    (SpecExpr.both workingAge (.oneOf [])).build = .error .emptyAlternatives ∧
    ∃ specs, ofWorkers.compile .any [workingTwice] [.always] = .ok specs ∧
      (specs.map fun x => x.conjuncts.length) = [6, 1] ∧ ∀ x ∈ specs, x.IsFlat := by
  -- The parts of the theorem are used one after another on the same expression.
  rcases (combinations_flatten.1 workingAge).2 rfl with ⟨x, hbuild, hflat⟩
  have hreports := combinations_flatten.2.1 (.two (.two (.one x) (.one x)) (.one x))
    (.two (.one x) (.two (.one x) (.one x))) rfl
  refine ⟨⟨x, hbuild, hflat, hreports.1⟩, (combinations_flatten.1 _).1 rfl, _, rfl, rfl, ?_⟩
  rcases combinations_flatten.2.2 ofWorkers .any [workingTwice] [.always] _ makesBuilt_ofWorkers
    (List.forall_mem_singleton.mpr ⟨.leaf .always, rfl⟩) rfl with ⟨es, others, -, -, hflattens⟩
  intro x hx
  rcases forall₂_exists_left hflattens hx with ⟨e, -, he⟩
  exact he.isFlat

end Criteria
