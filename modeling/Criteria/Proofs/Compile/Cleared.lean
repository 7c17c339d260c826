import Criteria.Proofs.Compile.Negation

/-!
# Specifications of Queries Without a Field

When a query that compiles still does after everything about a field is gone.

Clearing a field drops whole criteria, and of the criteria that stay it drops
further criteria, one level deep. Dropping whole criteria is harmless: a list
compiles exactly when each of its criteria does, in whatever runs they end up.
Dropping further criteria is harmless as well, unless one of them says what a
quantifier asks of the elements of a collection. That is the first of them, where
the operand is no criterion itself.

There clearing promotes the next further criterion, which until then was never
looked at, or leaves the quantifier with nothing to ask. So the cleared query
compiles if and only if wherever the first further criterion of a quantifier goes,
another one takes its place and compiles for the elements.

## Main definitions

* `Criterion.LosesNested`: Clearing a field takes what a quantifier asks of the
  elements.
* `Context.CompilesBehind`: A criterion compiles for the elements of a collection.

## Theorems

* `Context.exists_compile_iff`: Criteria compile if each of them does.
* `Context.compileCriterion_withoutField`: What a criterion does not lose changes
  nothing.
* `Context.exists_compile_clearField_iff`: When a cleared query compiles.
* `Context.clearField_leaves_nothing_asked`: It need not.
-/

namespace Criteria

namespace Criterion

/-- Clearing a field takes the criterion that a quantifier asks of the elements. -/
def LosesNested (x : Criterion) (field : String) : Prop :=
  x.type = .simple ∧ x.op.isQuantifier = true ∧ (∃ v, x.operand = .literal v) ∧
    ∃ n ∈ x.filters.head?, n.references field = true

end Criterion

namespace Context

variable {c : Context} {entity : TypeExpr} {field : String}

/-- A criterion compiles for the elements of the collection another one is about. -/
def CompilesBehind (c : Context) (entity : TypeExpr) (x n : Criterion) : Prop :=
  ∃ path a element spec, x.field = some path ∧ c.resolve entity path = .ok a ∧
    a.element = some element ∧ c.compileCriterion element n = .ok spec

/-- Criteria compile if and only if each of them does. -/
theorem exists_compile_iff {xs : List Criterion} {further : List Spec} :
    (∃ specs, c.compile entity xs further = .ok specs) ↔
      ∀ x ∈ xs, ∃ own, c.compileCriterion entity x = .ok own := by
  constructor
  · rintro ⟨specs, h⟩ x hx
    rcases map_eq_ok_iff.mp h with ⟨rs, hrs, -⟩
    rcases bind_eq_ok_iff.mp hrs with ⟨owns, howns, -⟩
    rcases forall₂_exists_right (mapM_eq_ok_iff.mp howns) hx with ⟨own, -, hown⟩
    exact ⟨own, hown⟩
  · intro h
    rcases compileRuns_eq_ok h with ⟨rs, hrs, -⟩
    exact ⟨rs ++ further, map_eq_ok_iff.mpr ⟨rs, hrs, rfl⟩⟩

section Without

@[simp] theorem type_withoutField (field : String) (x : Criterion) :
    (Query.withoutField field x).type = x.type := rfl

@[simp] theorem kind_withoutField (field : String) (x : Criterion) :
    (Query.withoutField field x).kind = x.kind := rfl

@[simp] theorem op_withoutField (field : String) (x : Criterion) :
    (Query.withoutField field x).op = x.op := rfl

variable {x : Criterion}

/-- Without its further criteria about a field a criterion asks the same of the
    elements, unless it loses what it asks of them. -/
theorem nested?_withoutField (htype : x.type = .simple) (hop : x.op.isQuantifier = true)
    (h : ¬ x.LosesNested field) : (Query.withoutField field x).nested? = x.nested? := by
  unfold Criterion.nested? Query.withoutField
  dsimp only
  -- A literal operand leaves the first further criterion to be asked, and this one stays.
  cases hoperand : x.operand with
  | nested n => rfl
  | literal v =>
      dsimp only
      cases hfilters : x.filters with
      | nil => rfl
      | cons n ns =>
          have hn : n.references field ≠ true := by
            intro hn
            exact h ⟨htype, hop, ⟨v, hoperand⟩, n, by rw [hfilters]; rfl, hn⟩
          rw [List.filter_cons_of_pos (by simp only [hn, Bool.not_false])]
          rfl

/-- What a criterion does not lose changes nothing. -/
theorem compileCriterion_withoutField (h : ¬ x.LosesNested field) {spec : Spec} :
    c.compileCriterion entity (Query.withoutField field x) = .ok spec ↔
      c.compileCriterion entity x = .ok spec := by
  by_cases htype : x.type = .simple
  · rw [compileCriterion_eq_ok_iff htype,
      compileCriterion_eq_ok_iff ((type_withoutField field x).trans htype)]
    -- Field and path are untouched, so only the nested criterion is in question.
    refine exists_congr fun path => exists_congr fun a => ?_
    by_cases hop : x.op.isQuantifier = true
    · rw [nested?_withoutField htype hop h]
      rfl
    · rw [op_withoutField, if_neg hop, if_neg hop]
      rfl
  · -- Only simple criteria look at further ones.
    rw [compileCriterion_eq, compileCriterion_eq, kind_withoutField]
    cases hkind : x.kind with
    | simple => exact absurd (Criterion.type_of_kind_simple hkind) htype
    | _ => rfl

/-- A quantifier that loses what it asks of the elements compiles if the next
    further criterion does. -/
theorem exists_compileCriterion_withoutField_iff (h : x.LosesNested field)
    (hx : ∃ own, c.compileCriterion entity x = .ok own) :
    (∃ own, c.compileCriterion entity (Query.withoutField field x) = .ok own) ↔
      ∃ next ∈ (x.filters.filter fun n => !n.references field).head?,
        c.CompilesBehind entity x next := by
  rcases h with ⟨htype, hop, ⟨v, hoperand⟩, -⟩
  have hnested : (Query.withoutField field x).nested? =
      (x.filters.filter fun n => !n.references field).head? := by
    unfold Criterion.nested? Query.withoutField
    dsimp only
    rw [hoperand]
  -- What is asked of the elements afterwards is the next criterion that stays.
  constructor
  · rintro ⟨own, hown⟩
    rcases (compileCriterion_eq_ok_iff ((type_withoutField field x).trans htype)).mp hown with
      ⟨path, a, hfield, -, ha, hown⟩
    rw [op_withoutField, if_pos hop, hnested] at hown
    rcases compileQuantifier_eq_ok_iff.mp hown with ⟨element, spec, helement, hspec, -⟩
    rcases Option.map_eq_some_iff.mp hspec with ⟨next, hnext, hspec⟩
    exact ⟨next, hnext, path, a, element, spec, hfield, ha, helement, hspec⟩
  · rintro ⟨next, hnext, path, a, element, spec, hfield, ha, helement, hspec⟩
    -- The path is no empty text, since the criterion compiled before.
    rcases hx with ⟨own, hown⟩
    rcases (compileCriterion_eq_ok_iff htype).mp hown with ⟨path', -, hfield', hne, -, -⟩
    have hpath : path' = path := Option.some.inj (hfield'.symm.trans hfield)
    rw [hpath] at hne
    refine ⟨quantify a x.op spec, ?_⟩
    rw [compileCriterion_eq_ok_iff ((type_withoutField field x).trans htype)]
    refine ⟨path, a, hfield, hne, ha, ?_⟩
    rw [op_withoutField, if_pos hop, hnested]
    refine compileQuantifier_eq_ok_iff.mpr ⟨element, spec, helement, ?_, rfl⟩
    rw [Option.mem_def.mp hnext, Option.map_some, hspec]

end Without

/-- A query that compiles does so without everything about a field if and only if
    each quantifier that loses what it asks of the elements has a further criterion
    left, and the first one left compiles for the elements. -/
theorem exists_compile_clearField_iff (c : Context) (entity : TypeExpr) (q : Query)
    (field : String) {further specs : List Spec}
    (h : c.compile entity q.filters further = .ok specs) :
    (∃ rest, c.compile entity (q.clearField field).filters further = .ok rest) ↔
      ∀ x ∈ q.filters, x.references field = false → x.LosesNested field →
        ∃ next ∈ (x.filters.filter fun n => !n.references field).head?,
          c.CompilesBehind entity x next := by
  have hown := exists_compile_iff.mp ⟨specs, h⟩
  -- Only criteria that stay are asked about, and most of them compile as before.
  rw [exists_compile_iff]
  simp only [Query.clearField, List.forall_mem_map, List.mem_filter, Bool.not_eq_true', and_imp]
  refine forall₃_congr fun x hx _ => ?_
  by_cases hloses : x.LosesNested field
  · rw [exists_compileCriterion_withoutField_iff hloses (hown x hx), forall_prop_of_true hloses]
  · have hsame : ∃ own, c.compileCriterion entity (Query.withoutField field x) = .ok own := by
      rcases hown x hx with ⟨own, hown⟩
      exact ⟨own, (compileCriterion_withoutField hloses).mpr hown⟩
    exact iff_of_true hsame fun h => absurd h hloses

/-- People with an address in a city; what is asked of addresses beside that is not
    looked at. -/
def inBerlin (others : List Criterion) : Query where
  filters := [
    { field := some "addresses"
      op := .any
      filters := { field := some "city", operand := .literal (.text "Berlin") } :: others }]

/-- Without the city the street is asked for. -/
theorem compile_clearField_mainStreet : ∃ rest,
    ofSample.compile (Catalog.entityNamed "Person")
      ((inBerlin [{ field := some "street", operand := .literal (.text "Main") }]).clearField
        "city").filters [] = .ok rest := by
  refine (exists_compile_clearField_iff ofSample (Catalog.entityNamed "Person") _ "city" rfl).mpr ?_
  intro x hx _ _
  rw [List.mem_singleton.mp hx]
  exact ⟨_, rfl, _, _, _, _, rfl, rfl, rfl, rfl⟩

/-- Clearing a field can spoil a query: nothing is left to ask of the addresses. -/
theorem clearField_leaves_nothing_asked :
    ¬ ∀ (c : Context) (entity : TypeExpr) (q : Query) (field : String) (specs : List Spec),
      c.compile entity q.filters [] = .ok specs →
        ∃ rest, c.compile entity (q.clearField field).filters [] = .ok rest := by
  intro h
  rcases h ofSample (Catalog.entityNamed "Person") (inBerlin []) "city" _ rfl with ⟨rest, hrest⟩
  cases hrest

end Context

end Criteria
