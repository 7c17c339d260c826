import Criteria.Proofs.Outcome
import Criteria.Spec.Basic

/-!
# Verdicts of Combined Specifications

What a combination of specifications says about a candidate, in terms of what
its members say.

A verdict is a step that may fail: reading a field or comparing two values can
raise an error, and a combination stops at the first member that decides it, so
an error behind that member never arises. The statements here come in two
kinds. Where a combination does give a verdict, the verdict is the expected
truth value of its members' verdicts, with no condition on the members that were
not looked at. That a combination gives a verdict at all follows from
`Answers`: every test in it answers when it is put to the candidate.

Combining flattens, so the members of a combination need not be the
specifications it was made of. `accepts_conj` and `accepts_disj` say that this
does not show: the combination asks what it was made of, one after the other,
errors included.

## Main definitions

* `Spec.Answers`: Every test in a specification answers on a candidate.

## Theorems

* `Spec.exists_accepts_of_answers`: Where every test answers there is a verdict.
* `Spec.acceptsAll_eq_true_iff`: All specifications accept exactly when each
  does.
* `Spec.exists_of_acceptsAny`, `Spec.forall_of_acceptsAny`: What a verdict on
  alternatives says about each.
* `Spec.exists_verdict`, `Spec.exists_verdict_any`: The verdict of specifications that
  each give one.
* `Spec.accepts_conj`, `Spec.accepts_allOf`, `Spec.accepts_disj`, `Spec.accepts_oneOf`:
  Flattening keeps the verdict.
-/

namespace Criteria

namespace Spec

mutual

/-- Every test in the specification answers when it is put to the candidate; the
    tests under a quantifier are put to the elements of the collection. -/
def Answers (s : Schema) : Spec → Value → Prop
  | always, _ => True
  | field t, v => ∃ b, t.accepts s v = .ok b
  | member t, v => ∃ b, t.accepts s v = .ok b
  | named t, v => ∃ b, t.test v = .ok b
  | quantified a _ inner, v =>
    ∃ es, (do (← a.read s v).elementsOrNone) = .ok es ∧ ∀ e ∈ es, Answers s inner e
  | all items, v => AnswersAll s items v
  | any items, v => AnswersAll s items v
  | not item, v => Answers s item v
termination_by structural spec => spec

/-- Every test in the specifications answers when it is put to the candidate. -/
def AnswersAll (s : Schema) : List Spec → Value → Prop
  | [], _ => True
  | item :: items, v => Answers s item v ∧ AnswersAll s items v
termination_by structural items => items

end

variable {s : Schema} {v : Value}

/-- A row of verdicts that are there gives a verdict for a quantifier. -/
theorem exists_decide (q : Quantifier) {f : Value → Except Fault Bool} {es : List Value}
    (h : ∀ e ∈ es, ∃ b, f e = .ok b) : ∃ b, q.decide f es = .ok b := by
  induction es with
  | nil => exact ⟨_, rfl⟩
  | cons e es ih =>
      rcases h e List.mem_cons_self with ⟨b, hb⟩
      rcases ih fun x hx => h x (List.mem_cons_of_mem e hx) with ⟨rest, hrest⟩
      rw [Quantifier.decide, hb]
      cases q <;> cases b
      · exact ⟨rest, hrest⟩
      · exact ⟨true, rfl⟩
      · exact ⟨false, rfl⟩
      · exact ⟨rest, hrest⟩

/-- All specifications together give a verdict where each of them does. -/
theorem exists_acceptsAll {items : List Spec} (h : ∀ x ∈ items, ∃ b, accepts s x v = .ok b) :
    ∃ b, acceptsAll s items v = .ok b := by
  induction items with
  | nil => exact ⟨true, rfl⟩
  | cons x items ih =>
      rcases h x List.mem_cons_self with ⟨b, hb⟩
      rcases ih fun y hy => h y (List.mem_cons_of_mem x hy) with ⟨rest, hrest⟩
      rw [acceptsAll, hb]
      cases b
      · exact ⟨false, rfl⟩
      · exact ⟨rest, hrest⟩

/-- Alternatives give a verdict where each of them does. -/
theorem exists_acceptsAny {items : List Spec} (h : ∀ x ∈ items, ∃ b, accepts s x v = .ok b) :
    ∃ b, acceptsAny s items v = .ok b := by
  induction items with
  | nil => exact ⟨false, rfl⟩
  | cons x items ih =>
      rcases h x List.mem_cons_self with ⟨b, hb⟩
      rcases ih fun y hy => h y (List.mem_cons_of_mem x hy) with ⟨rest, hrest⟩
      rw [acceptsAny, hb]
      cases b
      · exact ⟨rest, hrest⟩
      · exact ⟨true, rfl⟩

mutual

/-- Where every test answers there is a verdict. -/
theorem exists_accepts_of_answers (s : Schema) : ∀ (x : Spec) (v : Value),
    Answers s x v → ∃ b, accepts s x v = .ok b
  | always, _, _ => ⟨true, rfl⟩
  | field _, _, h => h
  | member _, v, ⟨b, hb⟩ => ⟨b, by rw [accepts, hb]; rfl⟩
  | named t, v, ⟨b, hb⟩ => ⟨b, by rw [accepts, hb]; rfl⟩
  | quantified a q inner, v, ⟨es, hes, h⟩ => by
      rcases exists_decide q fun e he => exists_accepts_of_answers s inner e (h e he) with ⟨b, hb⟩
      exact ⟨b, by rw [accepts, hes]; exact hb⟩
  | all items, v, h => exists_acceptsAll (forall_exists_of_answersAll s items v h)
  | any items, v, h => exists_acceptsAny (forall_exists_of_answersAll s items v h)
  | not item, v, h => by
      rcases exists_accepts_of_answers s item v h with ⟨b, hb⟩
      exact ⟨!b, by rw [accepts, hb]; rfl⟩

/-- Where every test answers each of the specifications gives a verdict. -/
theorem forall_exists_of_answersAll (s : Schema) : ∀ (items : List Spec) (v : Value),
    AnswersAll s items v → ∀ x ∈ items, ∃ b, accepts s x v = .ok b
  | [], _, _ => fun _ hx => absurd hx List.not_mem_nil
  | x :: items, v, ⟨hx, h⟩ => List.forall_mem_cons.mpr
      ⟨exists_accepts_of_answers s x v hx, forall_exists_of_answersAll s items v h⟩

end

/-- All specifications accept a candidate exactly when each of them does. -/
theorem acceptsAll_eq_true_iff {items : List Spec} :
    acceptsAll s items v = .ok true ↔ ∀ x ∈ items, accepts s x v = .ok true := by
  induction items with
  | nil => simp only [acceptsAll, List.not_mem_nil, false_implies, implies_true]
  | cons x items ih =>
      rw [acceptsAll, bind_eq_ok_iff, List.forall_mem_cons, ← ih]
      constructor
      · rintro ⟨b, hb, h⟩
        cases b with
        | false => exact absurd (Except.ok.inj h) Bool.false_ne_true
        | true => exact ⟨hb, h⟩
      · rintro ⟨hx, h⟩
        exact ⟨true, hx, h⟩

/-- A refusal of all together is the refusal of one of them. -/
theorem exists_of_acceptsAll_eq_false {items : List Spec}
    (h : acceptsAll s items v = .ok false) : ∃ x ∈ items, accepts s x v = .ok false := by
  induction items with
  | nil => exact absurd (Except.ok.inj h) Bool.noConfusion
  | cons x items ih =>
      rw [acceptsAll, bind_eq_ok_iff] at h
      rcases h with ⟨b, hb, h⟩
      cases b with
      | false => exact ⟨x, List.mem_cons_self, hb⟩
      | true =>
          rcases ih h with ⟨y, hy, hval⟩
          exact ⟨y, List.mem_cons_of_mem x hy, hval⟩

/-- Specifications are asked one after the other, so the later ones only where the
    earlier ones accept. -/
theorem acceptsAll_append (xs ys : List Spec) :
    acceptsAll s (xs ++ ys) v =
      (do if ← acceptsAll s xs v then acceptsAll s ys v else return false) := by
  induction xs with
  | nil => rfl
  | cons x xs ih =>
      rw [List.cons_append, acceptsAll, acceptsAll, ih]
      cases accepts s x v with
      | error f => rfl
      | ok b => cases b <;> rfl

/-- A single specification says what it says alone. -/
theorem acceptsAll_singleton (x : Spec) : acceptsAll s [x] v = accepts s x v := by
  rw [acceptsAll, acceptsAll]
  cases accepts s x v with
  | error f => rfl
  | ok b => cases b <;> rfl

/-- Where each specification of a row has a verdict, all together say whether all accept. -/
theorem acceptsAll_map {α : Type} {f : α → Spec} {p : α → Bool} {items : List α}
    (h : ∀ x ∈ items, accepts s (f x) v = .ok (p x)) :
    acceptsAll s (items.map f) v = .ok (items.all p) := by
  induction items with
  | nil => rfl
  | cons x items ih =>
      rw [List.map_cons, acceptsAll, h x List.mem_cons_self,
        ih fun y hy => h y (List.mem_cons_of_mem x hy), List.all_cons]
      cases p x <;> rfl

/-- The members of a specification say what it says itself. -/
theorem acceptsAll_conjuncts (x : Spec) : acceptsAll s x.conjuncts v = accepts s x v := by
  cases x with
  | all items => rfl
  | _ => exact acceptsAll_singleton _

/-- A conjunction says what its members say, however it is flattened. -/
theorem accepts_conj (items : List Spec) : accepts s (conj items) v = acceptsAll s items v := by
  rw [conj, accepts]
  induction items with
  | nil => rfl
  | cons x items ih =>
      rw [List.flatMap_cons, acceptsAll_append, acceptsAll_conjuncts, acceptsAll, ih]

/-- One specification made of several says what all of them say. -/
theorem accepts_allOf (items : List Spec) : accepts s (allOf items) v = acceptsAll s items v := by
  match items with
  | [] => rfl
  | [x] => exact (acceptsAll_singleton x).symm
  | x :: y :: rest => exact accepts_conj (x :: y :: rest)

/-- Alternatives that accept a candidate have a member that does. -/
theorem exists_of_acceptsAny {items : List Spec} (h : acceptsAny s items v = .ok true) :
    ∃ x ∈ items, accepts s x v = .ok true := by
  induction items with
  | nil => exact absurd (Except.ok.inj h) Bool.false_ne_true
  | cons x items ih =>
      rw [acceptsAny, bind_eq_ok_iff] at h
      rcases h with ⟨b, hb, h⟩
      cases b with
      | true => exact ⟨x, List.mem_cons_self, hb⟩
      | false =>
          rcases ih h with ⟨y, hy, hval⟩
          exact ⟨y, List.mem_cons_of_mem x hy, hval⟩

/-- Alternatives that refuse a candidate were all looked at, and refuse it. -/
theorem forall_of_acceptsAny {items : List Spec} (h : acceptsAny s items v = .ok false) :
    ∀ x ∈ items, accepts s x v = .ok false := by
  induction items with
  | nil => exact fun x hx => absurd hx List.not_mem_nil
  | cons x items ih =>
      rw [acceptsAny, bind_eq_ok_iff] at h
      rcases h with ⟨b, hb, h⟩
      cases b with
      | true => exact absurd (Except.ok.inj h) Bool.noConfusion
      | false => exact List.forall_mem_cons.mpr ⟨hb, ih h⟩

/-- Specifications that each give a verdict give one together, which is that all of
    them accept. -/
theorem exists_verdict {items : List Spec} (h : ∀ x ∈ items, ∃ b, accepts s x v = .ok b) :
    ∃ b, acceptsAll s items v = .ok b ∧ (b = true ↔ ∀ x ∈ items, accepts s x v = .ok true) := by
  rcases exists_acceptsAll h with ⟨b, hb⟩
  exact ⟨b, hb, by rw [← acceptsAll_eq_true_iff, hb, Except.ok.injEq]⟩

/-- Alternatives that each give a verdict give one together, which is that one of them
    accepts. -/
theorem exists_verdict_any {items : List Spec} (h : ∀ x ∈ items, ∃ b, accepts s x v = .ok b) :
    ∃ b, acceptsAny s items v = .ok b ∧ (b = true ↔ ∃ x ∈ items, accepts s x v = .ok true) := by
  rcases exists_acceptsAny h with ⟨b, hb⟩
  refine ⟨b, hb, ?_⟩
  cases b with
  | true => exact iff_of_true rfl (exists_of_acceptsAny hb)
  | false =>
      refine iff_of_false Bool.false_ne_true ?_
      rintro ⟨x, hx, hval⟩
      rw [forall_of_acceptsAny hb x hx] at hval
      exact Bool.false_ne_true (Except.ok.inj hval)

/-- Alternatives are asked one after the other, so the later ones only where the
    earlier ones refuse. -/
theorem acceptsAny_append (xs ys : List Spec) :
    acceptsAny s (xs ++ ys) v =
      (do if ← acceptsAny s xs v then return true else acceptsAny s ys v) := by
  induction xs with
  | nil => rfl
  | cons x xs ih =>
      rw [List.cons_append, acceptsAny, acceptsAny, ih]
      cases accepts s x v with
      | error f => rfl
      | ok b => cases b <;> rfl

/-- A single alternative says what it says alone. -/
theorem acceptsAny_singleton (x : Spec) : acceptsAny s [x] v = accepts s x v := by
  rw [acceptsAny, acceptsAny]
  cases accepts s x v with
  | error f => rfl
  | ok b => cases b <;> rfl

/-- The alternatives of a specification say what it says itself. -/
theorem acceptsAny_disjuncts (x : Spec) : acceptsAny s x.disjuncts v = accepts s x v := by
  cases x with
  | any items => rfl
  | _ => exact acceptsAny_singleton _

/-- A disjunction says what its alternatives say, however it is flattened. -/
theorem accepts_disj (items : List Spec) : accepts s (disj items) v = acceptsAny s items v := by
  rw [disj, accepts]
  induction items with
  | nil => rfl
  | cons x items ih =>
      rw [List.flatMap_cons, acceptsAny_append, acceptsAny_disjuncts, acceptsAny, ih]

/-- One specification made of alternatives says what they say. -/
theorem accepts_oneOf {items : List Spec} {x : Spec} (h : oneOf items = .ok x) :
    accepts s x v = acceptsAny s items v := by
  match items with
  | [] => simp only [oneOf, reduceCtorEq] at h
  | [y] => rw [← Except.ok.inj h, acceptsAny_singleton]
  | y :: z :: rest => rw [← Except.ok.inj h, accepts_disj]

end Spec

end Criteria
