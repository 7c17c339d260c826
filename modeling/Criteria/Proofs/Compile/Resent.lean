import Criteria.Proofs.Compile.Runs
import Criteria.Proofs.Query.Resent
import Criteria.Proofs.Result.Paging

/-!
# Specifications of Queries Sent Once More

What a query that was sent selects, compared to the query that arrives.

Only a criterion nested under a quantifier without a field of its own arrives as
something else, namely as a table that says nothing to a quantifier. What the
quantifier asks of the elements is then the first of its further criteria, if it
has any. Where the nested criterion is a simple one this goes unnoticed as long as
there are none: a simple criterion without a field does not compile, and neither
does a quantifier that asks for nothing. Any other nested criterion is lost.

## Main definitions

* `Criterion.KeepsNested`, `Query.KeepsNested`: No nested criterion is lost.

## Theorems

* `Context.compileCriterion_eq`: A criterion compiles as its kind says.
* `Context.compileCriterion_resent`, `Context.compile_map_resent`: Criteria that
  arrive compile to the same specifications.
* `Query.compile_resent`: The query that arrives compiles to the same
  specifications.
-/

namespace Criteria

namespace Criterion

/-- No nested criterion is lost: where it has no field, it is simple and the only
    one there is. -/
def KeepsNested (x : Criterion) : Prop :=
  ∀ d ∈ x.walk, d.kind = .simple → d.op.isQuantifier = true → ∀ n, d.operand = .nested n →
    n.field ≠ none ∨ n.kind = .simple ∧ d.filters = []

end Criterion

namespace Context

variable {c : Context} {entity : TypeExpr}

section Compile

/-- A criterion compiles as its kind says. -/
theorem compileCriterion_eq (c : Context) (entity : TypeExpr) (x : Criterion) :
    c.compileCriterion entity x =
      match x.kind with
      | .simple => c.compileSimple entity x.field x.op (literalOf x.operand) fun element =>
          x.nested?.map (c.compileCriterion element)
      | .named => c.compileNamed entity x.specification x.arguments
      | .composite => c.compileComposite entity x.composite
      | .custom => c.compileCustom entity x.type x.parameters := by
  cases x with
  | mk field op operand logic filters type parameters specification arguments composite =>
      -- The criterion asked of the elements is the operand, or else the first of the filters.
      have hinner (element : TypeExpr) :
          ((compileOperand c element operand).orElse fun _ => compileFirst c element filters) =
            (Criterion.nested? ⟨field, op, operand, logic, filters, type, parameters, specification,
              arguments, composite⟩).map (c.compileCriterion element) := by
        cases operand with
        | nested n => rfl
        | literal v => cases filters <;> rfl
      rw [compileCriterion, funext hinner]
      rfl

theorem compileQuantifier_eq_ok_iff {a : Accessor} {op : Operator}
    {inner : TypeExpr → Option (Except Fault Spec)} {s : Spec} :
    compileQuantifier a op inner = .ok s ↔
      ∃ element spec, a.element = some element ∧ inner element = some (.ok spec) ∧
        quantify a op spec = s := by
  rw [compileQuantifier]
  -- Without an element type, or without a criterion, nothing is compiled.
  cases a.element with
  | none => simp only [failWith, reduceCtorEq, false_and, exists_const]
  | some element =>
      dsimp only
      cases hinner : inner element with
      | none => simp [defective, failWith, hinner]
      | some spec => simp [map_eq_ok_iff, hinner]

-- A quantifier does not look at a literal operand, and nothing else asks for the
-- elements.
theorem compileSimple_congr {field : Option String} {op : Operator} {v w : Value}
    {inner other : TypeExpr → Option (Except Fault Spec)} {s : Spec}
    (hoperand : op.isQuantifier = false → v = w)
    (hinner : op.isQuantifier = true → ∀ element spec,
      inner element = some (.ok spec) ↔ other element = some (.ok spec)) :
    c.compileSimple entity field op v inner = .ok s ↔
      c.compileSimple entity field op w other = .ok s := by
  unfold compileSimple
  split
  · rfl
  · rfl
  -- The field is resolved alike, so only what is done with the accessor is in question.
  · rw [bind_eq_ok_iff, bind_eq_ok_iff]
    refine exists_congr fun a => and_congr_right fun _ => ?_
    cases hop : op.isQuantifier with
    | true => simp only [if_true, compileQuantifier_eq_ok_iff, hinner hop]
    | false => rw [hoperand hop]; simp only [Bool.false_eq_true, if_false]

end Compile

section Resent

variable {x : Criterion} {spec : Spec}

-- Apart from the operand and the further criteria the criterion arrives as it was.
theorem compileCriterion_resent_of_nested?
    (hoperand : x.op.isQuantifier = false →
      literalOf (Criterion.resentOperand x.operand) = literalOf x.operand)
    (hnested : x.kind = .simple → x.op.isQuantifier = true → ∀ element inner,
      x.resent.nested?.map (c.compileCriterion element) = some (.ok inner) ↔
        x.nested?.map (c.compileCriterion element) = some (.ok inner)) :
    c.compileCriterion entity x.resent = .ok spec ↔ c.compileCriterion entity x = .ok spec := by
  have hkind : x.resent.kind = x.kind := by rw [Criterion.resent_eq]; rfl
  rw [compileCriterion_eq, compileCriterion_eq, hkind]
  cases hk : x.kind with
  | simple =>
      -- What a simple criterion is compiled from besides its operand is sent as it is.
      have hsame : x.resent.field = x.field ∧ x.resent.op = x.op ∧
          x.resent.operand = Criterion.resentOperand x.operand := by
        rw [Criterion.resent_eq]
        exact ⟨rfl, rfl, rfl⟩
      dsimp only
      rw [hsame.1, hsame.2.1, hsame.2.2]
      exact compileSimple_congr hoperand (hnested hk)
  | _ => rw [Criterion.resent_eq]

/-- The criterion that arrives compiles to the same specification, if no nested
    criterion is lost. -/
theorem compileCriterion_resent (h : x.IsRead) (hkeeps : x.KeepsNested) :
    c.compileCriterion entity x.resent = .ok spec ↔ c.compileCriterion entity x = .ok spec := by
  -- Induction on the criterion, with one case for each kind of operand.
  induction h generalizing entity spec with
  | @literal x v hoperand _ _ _ _ ih =>
      have hsame : Criterion.resentOperand x.operand = .literal v := by rw [hoperand]; rfl
      refine compileCriterion_resent_of_nested? (fun _ => by rw [hsame, hoperand]) ?_
      -- What is asked of the elements is the first further criterion.
      intro _ _ element inner
      have hfirst : x.resent.nested? = x.filters.head?.map Criterion.resent := by
        rw [Criterion.resent_eq, Criterion.nested?, hsame, List.head?_map]
      have hfirst' : x.nested? = x.filters.head? := by rw [Criterion.nested?, hoperand]
      rw [hfirst, hfirst']
      cases hfilters : x.filters with
      | nil => rfl
      | cons f fs =>
          have hf : f ∈ x.filters := hfilters ▸ List.mem_cons_self
          simp only [List.head?_cons, Option.map_some, Option.some.injEq]
          exact ih f hf fun d hd => hkeeps d (Criterion.mem_walk_of_filter hf hd)
  | @nested x n hoperand hop _ _ _ ihn _ =>
      refine compileCriterion_resent_of_nested? (fun hno => absurd hno (by rw [hop]; decide)) ?_
      intro hsimple _ element inner
      have hnested : x.nested? = some n := by rw [Criterion.nested?, hoperand]
      rw [hnested, Option.map_some, Option.some.injEq]
      -- A nested criterion arrives when it has a field; otherwise it
      -- was no criterion that compiles.
      cases hfield : n.field with
      | some field =>
          have harrives : x.resent.nested? = some n.resent := by
            rw [Criterion.resent_eq, Criterion.nested?, hoperand, Criterion.resentOperand, hfield]
            rfl
          rw [harrives, Option.map_some, Option.some.injEq]
          exact ihn fun d hd => hkeeps d (Criterion.mem_walk_of_nested hoperand hd)
      | none =>
          -- Neither is anything left nor did the simple criterion compile.
          rcases hkeeps x (Criterion.mem_walk_self x) hsimple hop n hoperand with
            hsome | ⟨hn, hnone⟩
          · exact absurd hfield hsome
          have harrives : x.resent.nested? = none := by
            rw [Criterion.resent_eq, Criterion.nested?, hoperand, Criterion.resentOperand, hfield,
              hnone]
            rfl
          rw [harrives, compileCriterion_eq, hn, hfield]
          simp [compileSimple, defective, failWith]

/-- Criteria that arrive compile to the same specifications. -/
theorem compile_map_resent {xs : List Criterion} {further specs : List Spec}
    (h : ∀ x ∈ xs, ∀ entity spec,
      c.compileCriterion entity x.resent = .ok spec ↔ c.compileCriterion entity x = .ok spec) :
    c.compile entity (xs.map Criterion.resent) further = .ok specs ↔
      c.compile entity xs further = .ok specs := by
  have hlogic : (xs.map Criterion.resent).map (·.logic) = xs.map (·.logic) := by
    rw [List.map_map]
    exact List.map_congr_left fun x _ => by rw [Function.comp_apply, Criterion.resent_eq]
  have hown (own : List Spec) :
      (xs.map Criterion.resent).mapM (c.compileCriterion entity) = .ok own ↔
      xs.mapM (c.compileCriterion entity) = .ok own := by
    rw [mapM_eq_ok_iff, mapM_eq_ok_iff, List.forall₂_map_left_iff]
    exact ⟨fun hrel => forall₂_imp_of_mem hrel fun x hx s _ => (h x hx entity s).mp,
      fun hrel => forall₂_imp_of_mem hrel fun x hx s _ => (h x hx entity s).mpr⟩
  simp only [compile, compileRuns, map_eq_ok_iff, bind_eq_ok_iff, hlogic, hown]

end Resent

end Context

namespace Query

/-- No nested criterion of the query is lost. -/
def KeepsNested (q : Query) : Prop :=
  ∀ x ∈ q.filters, x.KeepsNested

/-- A query that is read from a payload can be sent once more. What arrives
    compiles to the same specifications if no nested criterion is lost: wherever a
    quantifier asks for a criterion without a field, that one is simple and there
    are no further criteria. -/
theorem compile_resent {v : Value} {q : Query} (hv : v.IsJson)
    (h : (ofPayload v).result = .ok q) (hkeeps : q.KeepsNested) :
    ∃ w arrived, q.wire = .ok w ∧ (ofPayload w).result = .ok arrived ∧
      ∀ (c : Context) (entity : TypeExpr) (further specs : List Spec),
        c.compile entity arrived.filters further = .ok specs ↔
          c.compile entity q.filters further = .ok specs := by
  rcases ofPayload_resent hv h with ⟨w, hw, harrived⟩
  refine ⟨w, q.resent, hw, harrived, fun c entity further specs => ?_⟩
  refine Context.compile_map_resent fun x hx entity spec => ?_
  exact Context.compileCriterion_resent (isRead_of_ofPayload hv h x hx) (hkeeps x hx)

/-- Teams have members of any sort. -/
def ofTeams : Context :=
  { schema :=
      ⟨[], [⟨"Team", .record, none, [⟨"members", .named .list, none, true⟩], [], none⟩], .first⟩
    now := ⟨.first, .ofMicros 0, some .utc⟩ }

/-- Teams with a member in some city, and beside that a condition on names. The
    custom filter may or may not have a field of its own. -/
def inSomeCity (field : Value) : Value := .table [("filters", .list [.table [
  ("field", .text "members"),
  ("operator", .text "any"),
  ("value", .table [
    ("field", field),
    ("customType", .text "isnotnull"),
    ("customParameters", .table [("field", .text "city")])]),
  ("filters", .list [.table [("field", .text "name"), ("value", .text "Ada")]])]])]

/-- The query for teams with a member in some city. -/
def inSomeCityQuery (field : Option String) : Query where
  filters := [{
    field := some "members"
    op := .any
    operand := .nested {
      field := field
      type := .isNotNull
      parameters := [("field", .text "city")] }
    filters := [{ field := some "name", operand := .literal (.text "Ada") }] }]

theorem isJson_inSomeCity {field : Value} (h : field.IsJson) : (inSomeCity field).IsJson := by
  refine .table_of_forall (by simp) (.list_of_forall (.table_of_forall (by simp) ?_))
  refine ⟨.text _, .text _, ?_, .list_of_forall (.table_of_forall (by simp) ⟨.text _, .text _⟩)⟩
  exact .table_of_forall (by simp) ⟨h, .text _, .table_of_forall (by simp) (.text _)⟩

theorem keepsNested_inSomeCityQuery : (inSomeCityQuery (some "city")).KeepsNested := by
  intro x hx
  rw [List.mem_singleton.mp hx]
  intro d hd _ hop n hn
  -- Of the criteria in the query only the outermost one is a quantifier.
  rcases List.mem_cons.mp hd with rfl | hd
  · rw [← Operand.nested.inj hn]
    exact .inl (Option.some_ne_none "city")
  · rcases List.mem_cons.mp hd with rfl | hd
    · exact absurd hop Bool.false_ne_true
    · rw [List.mem_singleton.mp hd] at hop
      exact absurd hop Bool.false_ne_true

/-- A custom filter that names a field itself arrives. -/
theorem compile_resent_inSomeCity : ∃ w arrived,
    (inSomeCityQuery (some "city")).wire = .ok w ∧ (ofPayload w).result = .ok arrived ∧
      ∃ specs, ofTeams.compile (.named (.entity "Team")) arrived.filters [] = .ok specs := by
  rcases compile_resent (isJson_inSomeCity (.text "city")) rfl keepsNested_inSomeCityQuery with
    ⟨w, arrived, hw, harrived, hcompile⟩
  exact ⟨w, arrived, hw, harrived, _, (hcompile ofTeams _ [] _).mpr rfl⟩

/-- A team of one member, who is in a city and not named Ada. -/
def bobsTeam : Value :=
  let bob : Value := .entity "Member" .record [("name", .text "Bob"), ("city", .text "Rome")] []
  .entity "Team" .record [("members", .list [bob])] []

/-- A custom filter without a field is lost: its query compiles before and after it
    was sent, but what arrives asks for a name and no longer for a city. -/
theorem resent_selects_otherwise : ∃ w arrived specs others,
    (ofPayload (inSomeCity .null)).result = .ok (inSomeCityQuery none) ∧
      (inSomeCityQuery none).wire = .ok w ∧ (ofPayload w).result = .ok arrived ∧
      ofTeams.compile (.named (.entity "Team")) (inSomeCityQuery none).filters [] = .ok specs ∧
      ofTeams.compile (.named (.entity "Team")) arrived.filters [] = .ok others ∧
      Spec.acceptsAll ofTeams.schema specs bobsTeam = .ok true ∧
      Spec.acceptsAll ofTeams.schema others bobsTeam = .ok false := by
  rcases ofPayload_resent (isJson_inSomeCity .null) rfl with ⟨w, hw, harrived⟩
  exact ⟨w, _, _, _, rfl, hw, harrived, rfl, rfl, rfl, rfl⟩

end Query

end Criteria
