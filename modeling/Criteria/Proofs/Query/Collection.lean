import Criteria.Catalog.Candidates
import Criteria.Proofs.Compile.Partition
import Criteria.Proofs.Compile.Resent
import Criteria.Proofs.Query.Building

/-!
# Criteria about the Elements of a Collection

What becomes of the criteria that are built for the elements of a collection.

A builder keeps all of them, in one criterion with a quantifier. A quantifier asks one
thing of each element, though: the criterion that is its operand, or else the first of
its criteria. The builder gives no operand, so the first one that was added is asked,
and those behind it are carried along without effect.

The elements are asked in their order, and no further than is needed. So "every" is met
just when each element is accepted, whatever else may go wrong. That "some" is met takes
more than an element that is accepted: an element before it, on which the criterion has
no verdict, ends the search.

## Main definitions

* `Quantifier.Holds`: What a quantifier says about a row of values.

## Theorems

* `Quantifier.decide_eq_true_iff`: A quantifier decides what it says.
* `QueryBuilder.run_collection`: The criterion that is added for a collection.
* `QueryBuilder.verdict_collection`: Which candidates that criterion accepts.
* `QueryBuilder.not_verdict_collection_all`: It does not ask for all that was added.
-/

namespace Criteria

namespace Quantifier

/-- What a quantifier says about values: that one of them, or every one, has a property. -/
def Holds (q : Quantifier) (p : Value → Prop) (es : List Value) : Prop :=
  match q with
  | .some => ∃ e ∈ es, p e
  | .every => ∀ e ∈ es, p e

variable {accepts : Value → Except Fault Bool} {es : List Value}

/-- All values are asked until one is rejected. -/
theorem decide_every_eq_true_iff :
    Quantifier.every.decide accepts es = .ok true ↔ ∀ e ∈ es, accepts e = .ok true := by
  induction es with
  | nil => simp [decide]
  | cons e es ih =>
      rw [decide, bind_eq_ok_iff, List.forall_mem_cons, ← ih]
      constructor
      · rintro ⟨b, hb, h⟩
        cases b with
        | false => exact absurd (Except.ok.inj h) Bool.false_ne_true
        | true => exact ⟨hb, h⟩
      · rintro ⟨he, h⟩
        exact ⟨true, he, h⟩

/-- Values are asked until one is accepted, and each of them has to have a verdict. -/
theorem decide_some_eq_true_iff (h : ∀ e ∈ es, ∃ b, accepts e = .ok b) :
    Quantifier.some.decide accepts es = .ok true ↔ ∃ e ∈ es, accepts e = .ok true := by
  -- Induction on the elements, which are asked until one of them accepts.
  induction es with
  | nil => simp [decide]
  | cons e es ih =>
      rw [List.forall_mem_cons] at h
      rw [decide, bind_eq_ok_iff, List.exists_mem_cons_iff, ← ih h.2]
      constructor
      · rintro ⟨b, hb, hrest⟩
        cases b with
        | true => exact .inl hb
        | false => exact .inr hrest
      · intro hsome
        rcases h.1 with ⟨b, hb⟩
        cases b with
        | true => exact ⟨true, hb, rfl⟩
        | false =>
            refine ⟨false, hb, hsome.resolve_left fun he => ?_⟩
            rw [hb] at he
            exact Bool.false_ne_true (Except.ok.inj he)

/-- A quantifier decides what it says; "some" needs the verdicts on all values for it. -/
theorem decide_eq_true_iff {q : Quantifier}
    (h : q = .every ∨ ∀ e ∈ es, ∃ b, accepts e = .ok b) :
    q.decide accepts es = .ok true ↔ q.Holds (fun e => accepts e = .ok true) es := by
  cases q with
  | some => exact decide_some_eq_true_iff (h.resolve_left Quantifier.noConfusion)
  | every => exact decide_every_eq_true_iff

end Quantifier

namespace Context

variable {c : Context} {entity element : TypeExpr} {k p : Criterion} {a : Accessor} {path : String}
  {q : Quantifier}

/-- A quantifier compiles as the criterion does that it asks of the elements. -/
theorem compile_quantifier_iff (htype : k.type = .simple) (hfield : k.field = some path)
    (ha : c.resolve entity path = .ok a) (helement : a.element = some element)
    (hop : Spec.quantifierOf k.op = .ok q) (hnested : k.nested? = some p) {spec : Spec} :
    c.compileCriterion entity k = .ok spec ↔
      ∃ inner, c.compileCriterion element p = .ok inner ∧ spec = .quantified a q inner := by
  -- Both quantifiers are compiled by the same function, each to its own test.
  have hquantifier : k.op.isQuantifier = true ∧
      ∀ inner, quantify a k.op inner = .quantified a q inner := by
    unfold Spec.quantifierOf at hop
    split at hop
    · rename_i h
      rw [h, ← Except.ok.inj hop]
      exact ⟨rfl, fun _ => rfl⟩
    · rename_i h
      rw [h, ← Except.ok.inj hop]
      exact ⟨rfl, fun _ => rfl⟩
    · cases hop
  rw [compileCriterion_eq_ok_iff htype]
  constructor
  -- What was compiled was found under this path, with this element type.
  · rintro ⟨path', a', hfield', -, ha', h⟩
    have hpath : path' = path := Option.some.inj (hfield'.symm.trans hfield)
    rw [hpath, ha, Except.ok.injEq] at ha'
    rw [if_pos hquantifier.1, compileQuantifier_eq_ok_iff, ← ha', hnested] at h
    rcases h with ⟨element', inner, helement', hinner, rfl⟩
    have hsame : element' = element := Option.some.inj (helement'.symm.trans helement)
    rw [hsame] at hinner
    exact ⟨inner, Option.some.inj hinner, hquantifier.2 inner⟩
  · rintro ⟨inner, hinner, rfl⟩
    refine ⟨path, a, hfield, ne_empty_of_resolve ha, ha, ?_⟩
    rw [if_pos hquantifier.1, compileQuantifier_eq_ok_iff, hnested]
    exact ⟨element, inner, helement, congrArg some hinner, hquantifier.2 inner⟩

/-- A quantifier asks the elements of the candidate one after the other. -/
theorem verdict_quantifier (htype : k.type = .simple) (hfield : k.field = some path)
    (ha : c.resolve entity path = .ok a) (helement : a.element = some element)
    (hop : Spec.quantifierOf k.op = .ok q) (hnested : k.nested? = some p) {inner : Spec}
    (hinner : c.compileCriterion element p = .ok inner) {v : Value} {es : List Value}
    (hes : (do (← a.read c.schema v).elementsOrNone) = .ok es) :
    c.verdict entity k v = q.decide (c.verdict element p) es := by
  have hk : c.compileCriterion entity k = .ok (.quantified a q inner) :=
    (compile_quantifier_iff htype hfield ha helement hop hnested).mpr ⟨inner, hinner, rfl⟩
  have hverdict (k : Criterion) (entity : TypeExpr) (spec : Spec)
      (h : c.compileCriterion entity k = .ok spec) :
      c.verdict entity k = spec.accepts c.schema := by
    funext v
    rw [verdict, h]
    rfl
  rw [hverdict k entity _ hk, hverdict p element _ hinner, Spec.accepts, hes]
  rfl

end Context

namespace QueryBuilder

variable {c : Context} {s : Schema} {b start inner : QueryBuilder} {entity element : TypeExpr}
  {field : String} {op logic : Value} {steps : List BuildStep} {o : Operator} {l : Logic}
  {q : Quantifier} {a : Accessor} {p : Criterion} {ps : List Criterion}

/-- The criteria that are built for the elements of a collection are added as one, which
    keeps all of them in their order. -/
theorem run_collection (hstart : b.inside s field = .ok start)
    (hsteps : runAll s start steps = .ok inner) (hfilters : inner.query.filters = p :: ps)
    (ho : Operator.vocabulary.read op = .ok o) (hl : Logic.vocabulary.read logic = .ok l) :
    run s b (.collection field op steps logic) =
      (b.add { field := some field, op := o, filters := p :: ps, logic := l }, none) := by
  rw [run]
  refine keeping_eq_iff.mpr (bind_eq_ok_iff.mpr
    ⟨start, hstart, bind_eq_ok_iff.mpr ⟨inner, hsteps, ?_⟩⟩)
  rw [hfilters, addQuantified, List.isEmpty_cons, if_neg Bool.false_ne_true, ho, hl]
  rfl

/-- What is built for the elements of a collection. If the steps inside add criteria and
    none of them fails, one criterion is added to the query, which keeps all of them. It
    compiles if and only if the first of them does. Then it accepts a candidate if and
    only if the first of them accepts some element of the collection, or every one, as
    the quantifier says; the criteria behind the first do not enter into this. Where the
    first has no verdict on one of the elements, this is still so for "every", and "some"
    is decided by the elements in their order. -/
theorem verdict_collection (hstart : b.inside c.schema field = .ok start)
    (hsteps : runAll c.schema start steps = .ok inner) (hfilters : inner.query.filters = p :: ps)
    (ho : Operator.vocabulary.read op = .ok o) (hl : Logic.vocabulary.read logic = .ok l)
    (hq : Spec.quantifierOf o = .ok q) (ha : c.schema.resolve entity field = .ok a)
    (helement : a.element = some element) :
    ∃ k, run c.schema b (.collection field op steps logic) = (b.add k, none) ∧
      k.filters = p :: ps ∧
      ((∃ spec, c.compileCriterion entity k = .ok spec) ↔
        ∃ spec, c.compileCriterion element p = .ok spec) ∧
      (∀ v, c.schema.Suits v entity →
        ∃ es, (do (← a.read c.schema v).elementsOrNone) = .ok es) ∧
      ∀ spec, c.compileCriterion element p = .ok spec →
        ∀ v es, (do (← a.read c.schema v).elementsOrNone) = .ok es →
          c.verdict entity k v = q.decide (c.verdict element p) es ∧
          ((q = .every ∨ ∀ e ∈ es, ∃ b, c.verdict element p e = .ok b) →
            (c.verdict entity k v = .ok true ↔
              q.Holds (fun e => c.verdict element p e = .ok true) es)) := by
  have hresolve : c.resolve entity field = .ok a := mapError_eq_ok_iff.mpr ha
  -- The criterion that the builder adds, with its nested criteria as `filters`.
  let k : Criterion := { field := some field, op := o, filters := p :: ps, logic := l }
  have hcompile {spec : Spec} : c.compileCriterion entity k = .ok spec ↔
      ∃ inner, c.compileCriterion element p = .ok inner ∧ spec = .quantified a q inner :=
    Context.compile_quantifier_iff rfl rfl hresolve helement hq rfl
  refine ⟨k, run_collection hstart hsteps hfilters ho hl, rfl, ?_, fun v hv => ?_, ?_⟩
  · constructor
    · rintro ⟨spec, h⟩
      rcases hcompile.mp h with ⟨inner, hinner, -⟩
      exact ⟨inner, hinner⟩
    · rintro ⟨inner, hinner⟩
      exact ⟨_, hcompile.mpr ⟨inner, hinner, rfl⟩⟩
  · rcases Schema.exists_elements_of_resolve ha helement hv with ⟨x, es, hread, hes, -⟩
    rw [hread]
    exact ⟨es, hes⟩
  -- The verdict depends on the first nested criterion only.
  · intro spec hspec v es hes
    have hverdict : c.verdict entity k v = q.decide (c.verdict element p) es :=
      Context.verdict_quantifier rfl rfl hresolve helement hq rfl hspec hes
    refine ⟨hverdict, fun hall => ?_⟩
    rw [hverdict]
    exact Quantifier.decide_eq_true_iff hall

/-- A member is a text. -/
def asked (field text : String) : Criterion :=
  { field := some field, operand := .literal (.text text) }

/-- The builder of a query about people. -/
def ofPeople : QueryBuilder := { entity := some (Catalog.entityNamed "Person") }

/-- The builder of a query about addresses. -/
def ofAddresses : QueryBuilder := { entity := some (Catalog.entityNamed "Address") }

/-- Steps that ask for an address in Berlin, in a street that is in Paris. -/
def astray : List BuildStep :=
  [.filter "city" (.text "eq") (.literal (.text "Berlin")) (.text "and"),
    .filter "street" (.text "eq") (.literal (.text "Rue de Rivoli 5")) (.text "and")]

/-- The criteria that these steps add. -/
def strays : List Criterion :=
  [asked "city" "Berlin", asked "street" "Rue de Rivoli 5"]

/-- The path to the addresses of a person. -/
def toAddresses : Accessor where
  entity := Catalog.entityNamed "Person"
  path := "addresses"
  attributes := ["addresses"]
  declared := Catalog.listOf (Catalog.entityNamed "Address")
  valueType := Catalog.listOf (Catalog.entityNamed "Address")
  nullable := false
  element := some (Catalog.entityNamed "Address")

/-- The address of the first person in Berlin. -/
def inBerlin : Value := Catalog.addressAt "Unter den Linden 1" "Berlin" (some "10117")

/-- The address of the first person in Paris. -/
def inParis : Value := Catalog.addressAt "Rue de Rivoli 5" "Paris" none

theorem inside_ofPeople : ofPeople.inside Catalog.schema "addresses" = .ok ofAddresses := rfl

theorem runAll_astray : runAll Catalog.schema ofAddresses astray =
    .ok { ofAddresses with query := { filters := strays } } := rfl

theorem resolve_addresses :
    Catalog.schema.resolve (Catalog.entityNamed "Person") "addresses" = .ok toAddresses := rfl

theorem elements_alice :
    (do (← toAddresses.read Catalog.schema Catalog.alice).elementsOrNone) =
      .ok [inBerlin, inParis] := rfl

theorem verdict_inBerlin : Context.ofSample.verdict (Catalog.entityNamed "Address")
    (asked "city" "Berlin") inBerlin = .ok true :=
  toOption_eq_some_iff.mp (by decide +kernel)

theorem verdict_inParis : Context.ofSample.verdict (Catalog.entityNamed "Address")
    (asked "city" "Berlin") inParis = .ok false :=
  toOption_eq_some_iff.mp (by decide +kernel)

theorem verdict_elsewhere : Context.ofSample.verdict (Catalog.entityNamed "Address")
    (asked "street" "Rue de Rivoli 5") inBerlin = .ok false :=
  toOption_eq_some_iff.mp (by decide +kernel)

/-- An address in Berlin is enough, in whatever street it is. -/
theorem verdict_collection_astray : ∃ k,
    run Catalog.schema ofPeople (.collection "addresses" (.text "any") astray (.text "and")) =
      (ofPeople.add k, none) ∧
    k.filters = strays ∧
    Context.ofSample.verdict (Catalog.entityNamed "Person") k Catalog.alice = .ok true := by
  have hop : Operator.vocabulary.read (.text "any") = .ok .any := rfl
  have hlogic : Logic.vocabulary.read (.text "and") = .ok .and := rfl
  have hquantifier : Spec.quantifierOf .any = .ok .some := rfl
  -- One address is in Berlin and one is not, so the criterion has a verdict on both.
  have hall : ∀ e ∈ [inBerlin, inParis], ∃ b, Context.ofSample.verdict
      (Catalog.entityNamed "Address") (asked "city" "Berlin") e = .ok b :=
    List.forall_mem_cons.mpr
      ⟨⟨true, verdict_inBerlin⟩, List.forall_mem_singleton.mpr ⟨false, verdict_inParis⟩⟩
  have hcompiles : ∃ spec, Context.ofSample.compileCriterion (Catalog.entityNamed "Address")
      (asked "city" "Berlin") = .ok spec := ⟨_, rfl⟩
  rcases hcompiles with ⟨spec, hspec⟩
  rcases verdict_collection (c := Context.ofSample) inside_ofPeople runAll_astray rfl hop hlogic
    hquantifier resolve_addresses rfl with ⟨k, hrun, hfilters, -, -, hverdict⟩
  refine ⟨k, hrun, hfilters, ?_⟩
  rw [(hverdict spec hspec Catalog.alice [inBerlin, inParis] elements_alice).2 (.inr hall)]
  exact ⟨inBerlin, List.mem_cons_self, verdict_inBerlin⟩

/-- That an element has to meet all the criteria that were added is not the case, even if
    these are simple ones that are joined by "and". -/
theorem not_verdict_collection_all :
    ¬ ∀ (c : Context) (entity element : TypeExpr) (b start inner : QueryBuilder) (field : String)
      (op logic : Value) (steps : List BuildStep) (o : Operator) (q : Quantifier) (a : Accessor)
      (k : Criterion),
      b.inside c.schema field = .ok start → runAll c.schema start steps = .ok inner →
      inner.query.filters ≠ [] →
      (∀ p ∈ inner.query.filters, p.kind = .simple ∧ p.logic = .and) →
      Operator.vocabulary.read op = .ok o →
      Spec.quantifierOf o = .ok q → c.schema.resolve entity field = .ok a →
      a.element = some element →
      run c.schema b (.collection field op steps logic) = (b.add k, none) →
      ∀ v es, (do (← a.read c.schema v).elementsOrNone) = .ok es →
        c.verdict entity k v = .ok true →
          q.Holds (fun e => ∀ p ∈ inner.query.filters, c.verdict element p e = .ok true) es := by
  intro h
  let k : Criterion := { field := some "addresses", op := .any, filters := strays }
  have hrun : run Catalog.schema ofPeople
      (.collection "addresses" (.text "any") astray (.text "and")) = (ofPeople.add k, none) :=
    run_collection inside_ofPeople runAll_astray rfl rfl rfl
  have hsimple : ∀ p ∈ strays, p.kind = .simple ∧ p.logic = .and :=
    List.forall_mem_cons.mpr ⟨⟨rfl, rfl⟩, List.forall_mem_singleton.mpr ⟨rfl, rfl⟩⟩
  have haccepted : Context.ofSample.verdict (Catalog.entityNamed "Person") k Catalog.alice =
      .ok true := toOption_eq_some_iff.mp (by decide +kernel)
  -- The refuted statement would give one address that meets both nested criteria.
  rcases h Context.ofSample (Catalog.entityNamed "Person") (Catalog.entityNamed "Address")
    ofPeople ofAddresses _ "addresses" (.text "any") (.text "and") astray .any .some toAddresses k
    inside_ofPeople runAll_astray (List.cons_ne_nil _ _) hsimple rfl rfl resolve_addresses rfl hrun
    Catalog.alice [inBerlin, inParis] elements_alice haccepted with ⟨e, he, hall⟩
  have hcity := hall (asked "city" "Berlin") List.mem_cons_self
  have hstreet :=
    hall (asked "street" "Rue de Rivoli 5") (List.mem_cons_of_mem _ List.mem_cons_self)
  -- The address in Berlin is in another street, and the one in that street is in Paris.
  simp only [List.mem_cons, List.not_mem_nil, or_false] at he
  rcases he with rfl | rfl
  · rw [verdict_elsewhere] at hstreet
    exact Bool.false_ne_true (Except.ok.inj hstreet)
  · rw [verdict_inParis] at hcity
    exact Bool.false_ne_true (Except.ok.inj hcity)

end QueryBuilder

end Criteria
