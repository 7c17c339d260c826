import Criteria.Proofs.Query.Cleared
import Criteria.Proofs.Query.Fresh
import Criteria.Query.Change

/-!
# Updating Queries

What setting a filter does, and what is left of a query when a change fails.

Setting a filter is done in one of two ways: the first simple criterion on the field
and operator is changed in its place, or a new one is added at the end. Each way has
an equation of its own (`Query.setFilter_of_some`, `Query.setFilter_of_none`), and so
has each way to fail; everything else rests on these.

The two ways need not agree. A new criterion has its operand looked at, and has no
further criteria. A criterion that is changed takes its operand as it is and keeps the
further criteria it has, of which the first is asked of the elements where the operand
is no criterion. So an update is the same as a new criterion exactly where the operand
stands for itself and nothing is beside it.

The first way also replaces the operand before the logic is read. This is all that a
change that fails can leave behind (`Query.apply_of_fault`): whatever else is wrong is
found before anything is changed.

A criterion that has been added can be removed by its field and operator, but nothing
tells it from others about the field that have the operator, and every criterion has
one, whether or not it means anything there.

## Main definitions

* `Query.simpleOn?`: The criterion that is updated.
* `Criterion.TakesOperand`: A criterion with a new operand is like one made with it.
* `Change.remains`: What a change that fails leaves of a query.
* `Change.KeepsOperand`: Nothing would be left behind.

## Theorems

* `find?_updateFirst`, `updateFirst_updateFirst`, `updateFirst_eq_self_iff`: Changing the
  first of a kind.
* `Query.setFilter_of_error`, `Query.setFilter_of_some`, `Query.setFilter_of_some_of_error`,
  `Query.setFilter_of_none`: What setting a filter does.
* `Query.setFilter_agrees_iff`: When an update is the same as a new criterion.
* `Query.setFilter_leaves_table`: It need not be.
* `Query.apply_of_fault`: What a change that fails leaves of a query.
* `Query.apply_leaves_operand`: It need not be all of it.
* `Query.removeFilter_setFilter`: What is left when a new criterion is removed.
* `Query.removeFilter_takes_custom`: It need not be all there was.
-/

namespace Criteria

open Fitted

section First

variable {α : Type} {test : α → Bool} {f g : α → α} {as : List α}

/-- What is changed is still the first that passes, if it still passes. -/
theorem find?_updateFirst (hf : ∀ a, test a = true → test (f a) = true) :
    (updateFirst test f as).find? test = (as.find? test).map f := by
  induction as with
  | nil => rfl
  | cons a as ih =>
      rw [updateFirst, List.find?_cons]
      cases ha : test a with
      | true => rw [if_pos rfl, List.find?_cons_of_pos (hf a ha), Option.map_some]
      | false =>
          rw [if_neg Bool.false_ne_true,
            List.find?_cons_of_neg (by rw [ha]; exact Bool.false_ne_true), ih]

/-- The same one is changed twice. -/
theorem updateFirst_updateFirst (hf : ∀ a, test a = true → test (f a) = true) :
    updateFirst test g (updateFirst test f as) = updateFirst test (g ∘ f) as := by
  induction as with
  | nil => rfl
  | cons a as ih =>
      cases ha : test a with
      | true =>
          rw [updateFirst, if_pos ha, updateFirst, if_pos (hf a ha), updateFirst, if_pos ha]
          rfl
      | false =>
          have hne : ¬ test a = true := by rw [ha]; exact Bool.false_ne_true
          rw [updateFirst, if_neg hne, updateFirst, if_neg hne, updateFirst, if_neg hne, ih]

/-- Nothing is changed if what would be changed stays the same. -/
theorem updateFirst_eq_self_iff :
    updateFirst test f as = as ↔ ∀ a, as.find? test = some a → f a = a := by
  induction as with
  | nil => simp [updateFirst]
  | cons a as ih =>
      rw [updateFirst, List.find?_cons]
      cases ha : test a with
      | true =>
          rw [if_pos rfl]
          simp
      | false =>
          rw [if_neg Bool.false_ne_true, List.cons.injEq, ih]
          simp

end First

section Updating

variable {q : Query} {field : String} {op logic : Value} {operand : Operand Criterion}
  {o : Operator} {l : Logic} {c e : Criterion} {r : Refusal} {f g : Criterion → Criterion}

theorem Criterion.isSimpleOn_iff :
    c.isSimpleOn field o = true ↔ c.field = some field ∧ c.op = o ∧ c.type = .simple := by
  rw [isSimpleOn, Bool.and_eq_true, Bool.and_eq_true, beq_iff_eq, beq_iff_eq, beq_iff_eq, and_assoc]

theorem Criterion.isSimpleOn_of_simple (h : Criterion.simple field o operand l = .ok c) :
    c.isSimpleOn field o = true := by
  rw [eq_of_simple h]
  exact isSimpleOn_iff.mpr ⟨rfl, rfl, rfl⟩

namespace Query

/-- The first simple criterion on a field and an operator. -/
def simpleOn? (q : Query) (field : String) (op : Operator) : Option Criterion :=
  q.filters.find? (·.isSimpleOn field op)

theorem isSimpleOn_of_simpleOn? (h : q.simpleOn? field o = some e) : e.isSimpleOn field o = true :=
  List.find?_some (p := fun c : Criterion => c.isSimpleOn field o) h

theorem any_isSimpleOn : q.filters.any (·.isSimpleOn field o) = (q.simpleOn? field o).isSome := by
  rw [Bool.eq_iff_iff, simpleOn?, List.find?_isSome, List.any_eq_true]

theorem simpleOn?_changeFilter (he : q.simpleOn? field o = some e)
    (hf : ∀ c, c.isSimpleOn field o = true → (f c).isSimpleOn field o = true) :
    (q.changeFilter field o f).simpleOn? field o = some (f e) := by
  rw [simpleOn?] at he
  rw [simpleOn?, changeFilter, find?_updateFirst hf, he, Option.map_some]

theorem changeFilter_changeFilter
    (hf : ∀ c, c.isSimpleOn field o = true → (f c).isSimpleOn field o = true) :
    (q.changeFilter field o f).changeFilter field o g = q.changeFilter field o (g ∘ f) :=
  congrArg (fun cs => { q with filters := cs }) (updateFirst_updateFirst hf)

theorem simpleOn?_addFilter (h : q.simpleOn? field o = none) (hc : c.isSimpleOn field o = true) :
    (q.addFilter c).simpleOn? field o = some c := by
  rw [simpleOn?] at h
  rw [simpleOn?, addFilter, List.find?_append, h, Option.none_or,
    List.find?_cons_of_pos (p := fun c : Criterion => c.isSimpleOn field o) hc]

/-- An update whose operator is unknown. -/
theorem setFilter_of_error (hop : Operator.vocabulary.read op = .error r) :
    q.setFilter field op operand logic = (q, some (.refused r)) := by
  rw [setFilter, hop]

/-- An update of a criterion that is there. -/
theorem setFilter_of_some (hop : Operator.vocabulary.read op = .ok o)
    (he : q.simpleOn? field o = some e) (hlogic : Logic.vocabulary.read logic = .ok l) :
    q.setFilter field op operand logic =
      (q.changeFilter field o fun c => { c with operand := operand, logic := l }, none) := by
  rw [setFilter, hop, hlogic]
  dsimp only
  rw [if_pos (by rw [any_isSimpleOn, he, Option.isSome_some])]
  rw [changeFilter_changeFilter (f := fun c => { c with operand := operand }) fun _ hc => hc]
  rfl

/-- An update of a criterion that is there, whose logic is unknown. -/
theorem setFilter_of_some_of_error (hop : Operator.vocabulary.read op = .ok o)
    (he : q.simpleOn? field o = some e) (hlogic : Logic.vocabulary.read logic = .error r) :
    q.setFilter field op operand logic =
      (q.changeFilter field o fun c => { c with operand := operand }, some (.refused r)) := by
  rw [setFilter, hop, hlogic]
  dsimp only
  rw [if_pos (by rw [any_isSimpleOn, he, Option.isSome_some])]

/-- An update where there is no criterion to be updated. -/
theorem setFilter_of_none (hop : Operator.vocabulary.read op = .ok o)
    (hnone : q.simpleOn? field o = none) :
    q.setFilter field op operand logic = q.attempt (do
      let l ← passing (Logic.vocabulary.read logic)
      return q.addFilter (← Criterion.simple field o operand l)) := by
  rw [setFilter, hop]
  dsimp only
  rw [if_neg (by rw [any_isSimpleOn, hnone]; exact Bool.false_ne_true)]
  cases Logic.vocabulary.read logic with
  | error r => rfl
  | ok l =>
      dsimp only
      cases hc : Criterion.simple field o operand l with
      | error f => simp [passing, hc, bind, Except.bind, attempt]
      | ok c => simp [passing, hc, bind, Except.bind, attempt, pure, Except.pure]

/-- The same, where the logic is known. -/
theorem setFilter_of_none_of_read (hop : Operator.vocabulary.read op = .ok o)
    (hnone : q.simpleOn? field o = none) (hlogic : Logic.vocabulary.read logic = .ok l) :
    q.setFilter field op operand logic =
      q.attempt ((Criterion.simple field o operand l).map q.addFilter) := by
  rw [setFilter_of_none hop hnone, hlogic]
  show q.attempt (return q.addFilter (← Criterion.simple field o operand l)) = _
  cases Criterion.simple field o operand l with
  | error f => rfl
  | ok c => rfl

/-- An update that succeeds has read both words. -/
theorem exists_read_of_setFilter {q' : Query}
    (h : q.setFilter field op operand logic = (q', none)) :
    (∃ o, Operator.vocabulary.read op = .ok o) ∧ ∃ l, Logic.vocabulary.read logic = .ok l := by
  -- The operator is read first and the logic later, and each reading can end the change.
  cases hop : Operator.vocabulary.read op with
  | error r =>
      rw [setFilter_of_error hop] at h
      cases h
  | ok o =>
      refine ⟨⟨o, rfl⟩, ?_⟩
      cases hlogic : Logic.vocabulary.read logic with
      | ok l => exact ⟨l, rfl⟩
      | error r =>
          cases he : q.simpleOn? field o with
          | some e =>
              rw [setFilter_of_some_of_error hop he hlogic] at h
              cases h
          | none =>
              rw [setFilter_of_none hop he, hlogic] at h
              cases h

end Query

end Updating

section Agreement

variable {q : Query} {field : String} {op logic : Value} {operand : Operand Criterion}
  {o : Operator} {l : Logic} {c e : Criterion}

/-- A criterion that is given an operand is as if it had been made with it: the operand
    is a criterion, or stands for none and has none beside it. -/
def Criterion.TakesOperand (e : Criterion) : Operand Criterion → Prop
  | .nested _ => True
  | .literal v => e.filters = [] ∧ (e.op.isQuantifier && isCriterionTable v) = false

theorem Criterion.takesOperand_iff (hc : Criterion.simple field o operand l = .ok c)
    (he : e.op = o) :
    e.TakesOperand operand ↔
      Criterion.nested? { e with operand := operand } = c.nested? ∧ operand = c.operand := by
  have hplain := operand_of_settleWith (simple_eq_ok_iff.mp hc)
  have hfilters : c.filters = [] := by rw [eq_of_simple hc]
  cases operand with
  | nested n =>
      -- A criterion is asked of the elements, whatever is beside it.
      have hoperand : c.operand = .nested n := hplain.mpr fun v hv => by cases hv
      simp [TakesOperand, nested?, hoperand]
  | literal v =>
      have hoperand : c.operand = .literal v ↔ (o.isQuantifier && isCriterionTable v) = false := by
        rw [hplain]
        exact ⟨fun h => h v rfl, fun h w hw => Operand.literal.inj hw ▸ h⟩
      rw [TakesOperand, he, ← hoperand, eq_comm (a := c.operand)]
      -- Both operands are no criteria, so it is the further criteria that are asked.
      refine and_congr_left fun hsame => ?_
      rw [nested?, nested?, ← hsame, hfilters]
      exact List.head?_eq_none_iff.symm

/-- Where the words have been read, only the operand of a criterion that is there can
    come out otherwise. -/
theorem Query.setFilter_agrees_of_read (hop : Operator.vocabulary.read op = .ok o)
    (hlogic : Logic.vocabulary.read logic = .ok l)
    (hc : Criterion.simple field o operand l = .ok c) :
    (∃ q' d, q.setFilter field op operand logic = (q', none) ∧ q'.simpleOn? field o = some d ∧
      d.nested? = c.nested? ∧ d.operand = c.operand ∧ d.logic = l) ↔
    ∀ e, q.simpleOn? field o = some e → e.TakesOperand operand := by
  -- The criterion is there and is changed, or it is added.
  cases he : q.simpleOn? field o with
  | some e =>
      -- The update finds the criterion that was there, now with the new operand and logic.
      have heop : e.op = o := (Criterion.isSimpleOn_iff.mp (isSimpleOn_of_simpleOn? he)).2.1
      have hfind :
          (q.changeFilter field o fun c => { c with operand := operand, logic := l }).simpleOn?
            field o = some { e with operand := operand, logic := l } :=
        simpleOn?_changeFilter he fun _ hc => hc
      rw [setFilter_of_some hop he hlogic]
      constructor
      · rintro ⟨q', d, heq, hd, hnested, hoperand, -⟩ e' he'
        cases heq
        cases he'
        cases hfind.symm.trans hd
        exact (Criterion.takesOperand_iff hc heop).mpr ⟨hnested, hoperand⟩
      · intro htakes
        rcases (Criterion.takesOperand_iff hc heop).mp (htakes e rfl) with ⟨hnested, hoperand⟩
        exact ⟨_, _, rfl, hfind, hnested, hoperand, rfl⟩
  | none =>
      have hadded := simpleOn?_addFilter he (Criterion.isSimpleOn_of_simple hc)
      rw [setFilter_of_none_of_read hop he hlogic, hc]
      constructor
      · intro _ e he'
        cases he'
      · intro _
        exact ⟨q.addFilter c, c, rfl, hadded, rfl, rfl, by rw [Criterion.eq_of_simple hc]⟩

/-- An update agrees with a new criterion exactly if both words are texts and the
    criterion that is updated, if there is one, takes the operand. -/
theorem Query.setFilter_agrees_iff (h : Criterion.fresh field op operand logic = fits c) :
    (∃ q' d, q.setFilter field op operand logic = (q', none) ∧
      q'.simpleOn? field c.op = some d ∧
      d.nested? = c.nested? ∧ d.operand = c.operand ∧ d.logic = c.logic) ↔
    op.text?.isSome ∧ logic.text?.isSome ∧
      ∀ e, q.simpleOn? field c.op = some e → e.TakesOperand operand := by
  -- A new criterion is one that is made of the words that a payload is read for.
  rcases Criterion.fresh_eq_fits_iff.mp h with ⟨o, l, ho, hl, hc⟩
  have hcop : c.op = o := by rw [Criterion.eq_of_simple hc]
  have hclogic : c.logic = l := by rw [Criterion.eq_of_simple hc]
  -- Read as words of a payload or as arguments of a call, the operator is the same.
  have hop {o' : Operator} : Operator.vocabulary.read op = .ok o' ↔ op.text?.isSome ∧ o' = o :=
    Vocabulary.read_eq_ok_iff_of_find? fun _ hs => find?_of_fitOperator hs ho
  have hlogic {l' : Logic} : Logic.vocabulary.read logic = .ok l' ↔ logic.text?.isSome ∧ l' = l :=
    Vocabulary.read_eq_ok_iff_of_find? fun _ hs => find?_of_fitLogic hs hl
  rw [hcop, hclogic]
  constructor
  · rintro ⟨q', d, heq, hd⟩
    rcases exists_read_of_setFilter heq with ⟨⟨o', ho'⟩, l', hl'⟩
    rcases hop.mp ho' with ⟨hoptext, rfl⟩
    rcases hlogic.mp hl' with ⟨hlogictext, rfl⟩
    exact ⟨hoptext, hlogictext, (setFilter_agrees_of_read ho' hl' hc).mp ⟨q', d, heq, hd⟩⟩
  · rintro ⟨hoptext, hlogictext, htakes⟩
    exact (setFilter_agrees_of_read (hop.mpr ⟨hoptext, rfl⟩) (hlogic.mpr ⟨hlogictext, rfl⟩) hc).mpr
      htakes

/-- What is asked of an address in Paris, in a payload. -/
def inParis : Value := .table [("field", .text "city"), ("value", .text "Paris")]

/-- A plain operand takes the place of another one. -/
theorem Query.setFilter_agrees_adults :
    ∃ q' d, adults.setFilter "age" (.text "gte") (.literal (.int 21)) (.text "or") = (q', none) ∧
      q'.simpleOn? "age" .greaterOrEqual = some d ∧ d.nested? = none ∧
      d.operand = .literal (.int 21) ∧ d.logic = .or := by
  have hfresh : Criterion.fresh "age" (.text "gte") (.literal (.int 21)) (.text "or") =
      fits { field := some "age", op := .greaterOrEqual, operand := .literal (.int 21),
             logic := .or } :=
    rfl
  refine (setFilter_agrees_iff hfresh).mpr ⟨rfl, rfl, fun e he => ?_⟩
  cases he
  exact ⟨rfl, rfl⟩

/-- Asking for Paris instead of Berlin leaves a table, and nothing is asked of the
    address any more. -/
theorem Query.setFilter_leaves_table :
    ¬ ∀ (q : Query) (field : String) (op : Value) (operand : Operand Criterion) (logic : Value)
      (c : Criterion), Criterion.fresh field op operand logic = fits c →
      ∃ q' d, q.setFilter field op operand logic = (q', none) ∧ q'.simpleOn? field c.op = some d ∧
        d.nested? = c.nested? ∧ d.operand = c.operand ∧ d.logic = c.logic := by
  intro hagrees
  have hfresh : Criterion.fresh "addresses" (.text "any") (.literal inParis) (.text "and") =
      fits { field := some "addresses", op := .any,
             operand := .nested { field := some "city", operand := .literal (.text "Paris") } } :=
    rfl
  rcases hagrees somewhereInBerlin _ _ _ _ _ hfresh with ⟨q', d, hq', hd, hnested, -⟩
  cases hq'
  cases hd
  cases hnested

end Agreement

section Failures

variable {q : Query} {field : String} {o : Operator} {f : Criterion → Criterion}

namespace Query

/-- Nothing changes if the criterion that is changed stays the same. -/
theorem changeFilter_eq_self_iff :
    q.changeFilter field o f = q ↔ ∀ e, q.simpleOn? field o = some e → f e = e := by
  rw [simpleOn?, ← updateFirst_eq_self_iff]
  constructor
  · exact fun h => congrArg Query.filters h
  · intro h
    rw [changeFilter, h]

/-- What fails as a whole leaves the query as it was. -/
theorem attempt_of_fault {x : Except Fault Query} {fault : Fault}
    (h : (q.attempt x).2 = some fault) : (q.attempt x).1 = q := by
  cases x with
  | ok q' => cases h
  | error e => rfl

end Query

/-- What a change that fails leaves of a query: all of it, but for the operand of the
    criterion that was to be updated. -/
def Change.remains (q : Query) : Change → Query
  | .setFilter field op operand _ =>
    match Operator.vocabulary.read op with
    | .ok o => q.changeFilter field o fun c => { c with operand := operand }
    | .error _ => q
  | _ => q

/-- The criterion that is to be updated, if there is one, has the operand already. -/
def Change.KeepsOperand (q : Query) : Change → Prop
  | .setFilter field op operand _ => ∀ o e, Operator.vocabulary.read op = .ok o →
    q.simpleOn? field o = some e → e.operand = operand
  | _ => True

theorem Change.remains_eq_self_iff {change : Change} :
    change.remains q = q ↔ change.KeepsOperand q := by
  -- Only setting a filter leaves anything behind when it fails.
  cases change with
  | setFilter field op operand logic =>
      rw [remains, KeepsOperand]
      cases Operator.vocabulary.read op with
      | error r => exact iff_of_true rfl fun o e ho => by cases ho
      | ok o =>
          dsimp only
          rw [Query.changeFilter_eq_self_iff]
          constructor
          · intro hsame o' e ho he
            cases ho
            exact (congrArg Criterion.operand (hsame e he)).symm
          · exact fun hkeeps e he => Criterion.with_operand (hkeeps o e rfl he)
  | _ => exact iff_of_true rfl trivial

namespace Query

/-- An update that fails has replaced the operand, if there is one to be replaced. -/
theorem setFilter_of_fault {op logic : Value} {operand : Operand Criterion} {fault : Fault}
    (h : (q.setFilter field op operand logic).2 = some fault) :
    (q.setFilter field op operand logic).1 =
      (Change.setFilter field op operand logic).remains q := by
  rw [Change.remains]
  cases hop : Operator.vocabulary.read op with
  | error r => rw [setFilter_of_error hop]
  | ok o =>
      dsimp only
      cases he : q.simpleOn? field o with
      | none =>
          -- Nothing was added, and there is no operand to be replaced either.
          rw [setFilter_of_none hop he] at h ⊢
          rw [attempt_of_fault h, changeFilter_eq_self_iff.mpr]
          intro e he'
          cases he.symm.trans he'
      | some e =>
          -- The operand was replaced before the logic was looked at.
          cases hlogic : Logic.vocabulary.read logic with
          | ok l =>
              rw [setFilter_of_some hop he hlogic] at h
              cases h
          | error r => rw [setFilter_of_some_of_error hop he hlogic]

/-- A change that fails leaves everything as it was, but for an operand that was to be
    updated. -/
theorem apply_of_fault {change : Change} {fault : Fault}
    (h : (q.apply change).2 = some fault) :
    (q.apply change).1 = change.remains q ∧
      ((q.apply change).1 = q ↔ change.KeepsOperand q) := by
  have hstate : (q.apply change).1 = change.remains q := by
    cases change with
    | setFilter field op operand logic => exact setFilter_of_fault h
    | removeFilter _ _ | setOrdering _ _ | setHierarchy _ _ | setPaging _ _ =>
        exact attempt_of_fault h
    | removeOrdering _ | addInclude _ | removeInclude _ | merge _ | clear | clearField _ => cases h
  exact ⟨hstate, hstate ▸ Change.remains_eq_self_iff⟩

/-- An unknown direction changes no ordering. -/
theorem apply_of_fault_adults :
    (adults.apply (.setOrdering "name" (.text "upwards"))).2 =
        some (.refused (.notWire "'upwards'" "OrderDirection")) ∧
      (adults.apply (.setOrdering "name" (.text "upwards"))).1 = adults := by
  have hfault : (adults.apply (.setOrdering "name" (.text "upwards"))).2 =
      some (.refused (.notWire "'upwards'" "OrderDirection")) := rfl
  exact ⟨hfault, (apply_of_fault hfault).2.mpr trivial⟩

/-- The logic is unknown, but the new operand is there. -/
theorem apply_leaves_operand :
    ¬ ∀ (q : Query) (change : Change) (fault : Fault),
      (q.apply change).2 = some fault → (q.apply change).1 = q := by
  intro hkept
  have hsame := hkept adults
    (.setFilter "age" (.text "gte") (.literal (.int 21)) (.text "xor")) _ rfl
  have hoperand : adults.simpleOn? "age" .greaterOrEqual =
      some { field := some "age", op := .greaterOrEqual, operand := .literal (.int 21) } := by
    rw [← hsame]
    rfl
  cases hoperand

end Query

end Failures

section Undoing

variable {q : Query} {field : String} {op logic : Value} {operand : Operand Criterion}
  {o : Operator} {l : Logic} {c : Criterion}

namespace Query

/-- A criterion that is added goes with the others on its field and operator. -/
theorem removeFilter_addFilter (h : c.isSimpleOn field o = true) :
    (q.addFilter c).removeFilter field (some o) = q.removeFilter field (some o) := by
  rcases Criterion.isSimpleOn_iff.mp h with ⟨hfield, hop, -⟩
  have hdropped : (!(c.references field && (some o).all (c.op == ·))) = false := by
    simp [Criterion.references, hfield, hop]
  rw [removeFilter, removeFilter, addFilter]
  dsimp only
  rw [List.filter_append, List.filter_singleton, hdropped, cond_false, List.append_nil]

theorem removeFilter_eq_self_iff :
    q.removeFilter field (some o) = q ↔ ∀ c ∈ q.filters, c.op = o → c.references field = false := by
  have hfilters : q.removeFilter field (some o) = q ↔
      q.filters.filter (fun c => !(c.references field && (some o).all (c.op == ·))) =
        q.filters := by
    constructor
    · exact fun h => congrArg Query.filters h
    · intro h
      rw [removeFilter, h]
  rw [hfilters, List.filter_eq_self]
  refine forall₂_congr fun c _ => ?_
  cases c.references field <;> simp [Option.all]

/-- A criterion that has been added is removed again by its field and operator, with all
    others about the field that have the operator. -/
theorem removeFilter_setFilter (hop : Operator.vocabulary.read op = .ok o)
    (hlogic : Logic.vocabulary.read logic = .ok l) (hnone : q.simpleOn? field o = none) :
    ((q.apply (.setFilter field op operand logic)).2 = none ↔
        ∃ c, Criterion.simple field o operand l = .ok c) ∧
      (q.apply (.setFilter field op operand logic)).1.apply (.removeFilter field (some op)) =
        (q.removeFilter field (some o), none) ∧
      (q.removeFilter field (some o) = q ↔
        ∀ c ∈ q.filters, c.op = o → c.references field = false) := by
  -- The word of the operator is read again when the criterion is removed.
  have hremove (q' : Query) : q'.apply (.removeFilter field (some op)) =
      (q'.removeFilter field (some o), none) := by
    simp [apply, hop, passing, attempt, bind, Except.bind, pure, Except.pure]
  rw [apply, setFilter_of_none_of_read hop hnone hlogic, hremove]
  cases hc : Criterion.simple field o operand l with
  | error f =>
      -- Nothing has been added, so removing is all there is.
      refine ⟨⟨fun h => ?_, ?_⟩, rfl, removeFilter_eq_self_iff⟩
      · cases h
      · rintro ⟨c, hc⟩
        cases hc
  | ok c =>
      refine ⟨iff_of_true rfl ⟨c, rfl⟩, ?_, removeFilter_eq_self_iff⟩
      exact congrArg (·, none) (removeFilter_addFilter (Criterion.isSimpleOn_of_simple hc))

/-- What is added about the email to a query about other things is removed again. -/
theorem removeFilter_setFilter_adults :
    (adults.apply
      (.setFilter "email" (.text "eq") (.literal (.text "ada")) (.text "and"))).2 = none ∧
      (adults.apply
        (.setFilter "email" (.text "eq") (.literal (.text "ada")) (.text "and"))).1.apply
        (.removeFilter "email" (some (.text "eq"))) = (adults, none) := by
  have hundone := @removeFilter_setFilter adults "email" (.text "eq") (.text "and")
    (.literal (.text "ada")) .equal .and rfl rfl rfl
  refine ⟨hundone.1.mpr ⟨_, Criterion.simple_of_plain rfl⟩, ?_⟩
  rw [hundone.2.1, hundone.2.2.mpr (by decide)]

/-- What is added about the status takes the custom filter on it along. -/
theorem removeFilter_takes_custom :
    ¬ ∀ (q : Query) (field : String) (op : Value) (operand : Operand Criterion) (logic : Value)
      (o : Operator) (l : Logic), Operator.vocabulary.read op = .ok o →
      Logic.vocabulary.read logic = .ok l → q.simpleOn? field o = none →
      ((q.apply (.setFilter field op operand logic)).1.apply
        (.removeFilter field (some op))).1.filters = q.filters := by
  intro hundone
  have hsame :=
    hundone adults "status" (.text "eq") (.literal (.text "x")) (.text "and") .equal .and
    rfl rfl rfl
  have hlength := congrArg List.length hsame
  revert hlength
  decide

end Query

end Undoing

end Criteria
