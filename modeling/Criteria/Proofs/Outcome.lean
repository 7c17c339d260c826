import Criteria.Filter.Error
import Mathlib.Data.List.Forall2

/-!
# Outcomes of Steps

A step either succeeds with a result or fails, and steps in a row fail as soon
as one of them does. What a row of steps gives is stated here once, so that a
proof about a pipeline can take it apart step by step without opening the monad
it is written in.

`mapM` runs one step for each element of a list. It succeeds exactly when every
step does, and otherwise fails as the first failing step fails alone.

## Main definitions

* `failure?`: How a step fails, if it does.
* `FailsOnly`: A step fails in no other way than the given ones.
* `GivesOnly`: A step gives no other results than the given ones.

## Theorems

* `bind_eq_ok_iff`: Two steps succeed when the first does and the second does on
  its result.
* `map_eq_ok_iff`: A changed result comes from a result.
* `mapError_eq_ok_iff`: A changed error changes no result.
* `toOption_eq_some_iff`: The result of a step without its failures.
* `mapM_eq_ok_iff`: A row of steps succeeds when every one does.
* `mapM_eq_error`: A row of steps fails as the first failing step does.
* `exists_mapM_eq_ok`: Steps that all succeed give a row of results.
* `mapM_eq_ok_map`: The same, where the results are known.
* `forall₂_exists_right`, `forall₂_exists_left`: Partners in lists that are
  related place by place.
* `forall₂_imp_of_mem`: Lists that are related place by place in another way.
* `exists_forall₂`: Partners for all of a list make such lists.
* `forall₂_append_left`: Partners of two lists, one behind the other.
* `exists_forall₂_between`: A list between two that are related place by place.
* `passing_eq_ok_iff`, `unworded_eq_ok_iff`: Passing a refusal on changes no
  result.
* `expected_eq_ok_iff`: A step that fails in one way only.
* `failure?_one`, `failure?_both`, `failure?_bind_of_ok`: How steps in a row fail.
* `FailsOnly.bind`, `FailsOnly.mapM`: Steps in a row fail in no other way than each
  of them.
* `GivesOnly.bind`, `GivesOnly.after`, `GivesOnly.mapM`: Two steps give what the second
  one gives, and a row of steps what each of them gives.
-/

namespace Criteria

variable {ε α β γ : Type}

theorem error_ne_ok {e : ε} {a : α} : (Except.error e : Except ε α) ≠ .ok a := by
  intro h
  cases h

theorem bind_eq_ok_iff {x : Except ε α} {f : α → Except ε β} {b : β} :
    x >>= f = .ok b ↔ ∃ a, x = .ok a ∧ f a = .ok b := by
  cases x with
  | ok a => simp only [bind, Except.bind, Except.ok.injEq, exists_eq_left']
  | error e => simp only [bind, Except.bind, reduceCtorEq, false_and, exists_false]

theorem map_eq_ok_iff {x : Except ε α} {f : α → β} {b : β} :
    x.map f = .ok b ↔ ∃ a, x = .ok a ∧ f a = b := by
  cases x with
  | ok a => simp only [Except.map, Except.ok.injEq, exists_eq_left']
  | error e => simp only [Except.map, reduceCtorEq, false_and, exists_false]

theorem mapError_eq_ok_iff {δ : Type} {x : Except ε α} {f : ε → δ} {a : α} :
    x.mapError f = .ok a ↔ x = .ok a := by
  cases x with
  | ok b => simp only [Except.mapError, Except.ok.injEq]
  | error e => simp only [Except.mapError, reduceCtorEq]

/-- Results of steps can be looked at where their failures cannot be compared. -/
theorem toOption_eq_some_iff {x : Except ε α} {a : α} : x.toOption = some a ↔ x = .ok a := by
  cases x with
  | ok b => simp only [Except.toOption, Option.some.injEq, Except.ok.injEq]
  | error e => simp only [Except.toOption, reduceCtorEq]

/-- A row of steps succeeds exactly when every step does, each with its own
    result. -/
theorem mapM_eq_ok_iff {f : α → Except ε β} {as : List α} {bs : List β} :
    as.mapM f = .ok bs ↔ List.Forall₂ (fun a b => f a = .ok b) as bs := by
  -- By the list, and on each step by whether the head has an outcome.
  induction as generalizing bs with
  | nil =>
      rw [List.mapM_nil, List.forall₂_nil_left_iff]
      exact ⟨fun h => (Except.ok.inj h).symm, fun h => by rw [h]; rfl⟩
  | cons a as ih =>
      rw [List.mapM_cons, bind_eq_ok_iff]
      constructor
      · rintro ⟨b, hb, h⟩
        rcases bind_eq_ok_iff.mp h with ⟨rest, hrest, h⟩
        rw [← Except.ok.inj h]
        exact .cons hb (ih.mp hrest)
      · intro h
        cases h with
        | cons hb hrest =>
            exact ⟨_, hb, bind_eq_ok_iff.mpr ⟨_, ih.mpr hrest, rfl⟩⟩

/-- A row of steps fails as its first failing step does alone. -/
theorem mapM_eq_error {f : α → Except ε β} {before after : List α} {a : α} {e : ε}
    (hbefore : ∀ x ∈ before, ∃ b, f x = .ok b) (ha : f a = .error e) :
    (before ++ a :: after).mapM f = .error e := by
  induction before with
  | nil => rw [List.nil_append, List.mapM_cons, ha]; rfl
  | cons x before ih =>
      rcases hbefore x List.mem_cons_self with ⟨b, hb⟩
      have hrest := ih fun y hy => hbefore y (List.mem_cons_of_mem x hy)
      rw [List.cons_append, List.mapM_cons, hb, hrest]
      rfl

/-- Elements of lists that are related place by place may be related otherwise. -/
theorem forall₂_imp_of_mem {R S : α → β → Prop} {as : List α} {bs : List β}
    (h : List.Forall₂ R as bs) (himp : ∀ a ∈ as, ∀ b ∈ bs, R a b → S a b) :
    List.Forall₂ S as bs := by
  induction h with
  | nil => exact .nil
  | cons hab _ ih =>
      refine .cons (himp _ List.mem_cons_self _ List.mem_cons_self hab) (ih ?_)
      exact fun x hx y hy => himp x (List.mem_cons_of_mem _ hx) y (List.mem_cons_of_mem _ hy)

/-- Partners for all of a list make a list that is related to it. -/
theorem exists_forall₂ {R : α → β → Prop} {as : List α} (h : ∀ a ∈ as, ∃ b, R a b) :
    ∃ bs, List.Forall₂ R as bs := by
  induction as with
  | nil => exact ⟨[], .nil⟩
  | cons a as ih =>
      rcases h a List.mem_cons_self with ⟨b, hb⟩
      rcases ih fun x hx => h x (List.mem_cons_of_mem a hx) with ⟨bs, hbs⟩
      exact ⟨b :: bs, .cons hb hbs⟩

theorem exists_mapM_eq_ok {f : α → Except ε β} {as : List α}
    (h : ∀ a ∈ as, ∃ b, f a = .ok b) : ∃ bs, as.mapM f = .ok bs := by
  rcases exists_forall₂ h with ⟨bs, hbs⟩
  exact ⟨bs, mapM_eq_ok_iff.mpr hbs⟩

/-- Steps that all succeed with known results give the row of these. -/
theorem mapM_eq_ok_map {f : α → Except ε β} {g : α → β} {as : List α}
    (h : ∀ a ∈ as, f a = .ok (g a)) : as.mapM f = .ok (as.map g) := by
  induction as with
  | nil => rfl
  | cons a as ih =>
      rw [List.mapM_cons, h a List.mem_cons_self, ih fun x hx => h x (List.mem_cons_of_mem a hx)]
      rfl

/-- What is on the left of two lists related place by place has a partner. -/
theorem forall₂_exists_right {R : α → β → Prop} {as : List α} {bs : List β}
    (h : List.Forall₂ R as bs) {a : α} (ha : a ∈ as) : ∃ b ∈ bs, R a b := by
  induction h with
  | nil => exact absurd ha List.not_mem_nil
  | @cons x y xs ys hxy _ ih =>
      rcases List.mem_cons.mp ha with rfl | ha
      · exact ⟨y, List.mem_cons_self, hxy⟩
      · rcases ih ha with ⟨b, hb, hab⟩
        exact ⟨b, List.mem_cons_of_mem y hb, hab⟩

/-- What is on the right of two lists related place by place has a partner. -/
theorem forall₂_exists_left {R : α → β → Prop} {as : List α} {bs : List β}
    (h : List.Forall₂ R as bs) {b : β} (hb : b ∈ bs) : ∃ a ∈ as, R a b :=
  forall₂_exists_right (R := fun b a => R a b) h.flip hb

/-- Of two lists one has an element with a property if the other one has, where elements
    at the same place agree on it. -/
theorem forall₂_exists_iff {P : α → Prop} {Q : β → Prop} {as : List α} {bs : List β}
    (h : List.Forall₂ (fun a b => P a ↔ Q b) as bs) : (∃ a ∈ as, P a) ↔ ∃ b ∈ bs, Q b := by
  constructor
  · rintro ⟨a, ha, hP⟩
    rcases forall₂_exists_right h ha with ⟨b, hb, hiff⟩
    exact ⟨b, hb, hiff.mp hP⟩
  · rintro ⟨b, hb, hQ⟩
    rcases forall₂_exists_left h hb with ⟨a, ha, hiff⟩
    exact ⟨a, ha, hiff.mpr hQ⟩

theorem forall₂_forall_iff {P : α → Prop} {Q : β → Prop} {as : List α} {bs : List β}
    (h : List.Forall₂ (fun a b => P a ↔ Q b) as bs) : (∀ a ∈ as, P a) ↔ ∀ b ∈ bs, Q b := by
  constructor
  · intro hP b hb
    rcases forall₂_exists_left h hb with ⟨a, ha, hiff⟩
    exact hiff.mp (hP a ha)
  · intro hQ a ha
    rcases forall₂_exists_right h ha with ⟨b, hb, hiff⟩
    exact hiff.mpr (hQ b hb)

/-- What is related to a list and another one behind it falls into two parts. -/
theorem forall₂_append_left {R : α → β → Prop} {as more : List α} {bs : List β}
    (h : List.Forall₂ R (as ++ more) bs) :
    ∃ us vs, bs = us ++ vs ∧ List.Forall₂ R as us ∧ List.Forall₂ R more vs := by
  induction as generalizing bs with
  | nil => exact ⟨[], bs, rfl, .nil, h⟩
  | cons a as ih =>
      cases h with
      | cons hab hrest =>
          rcases ih hrest with ⟨us, vs, rfl, hus, hvs⟩
          exact ⟨_ :: us, vs, rfl, .cons hab hus, hvs⟩

/-- Between lists that are related place by place stands a third one, if between their
    elements there is one. -/
theorem exists_forall₂_between {R : α → β → Prop} {S : α → γ → Prop} {T : γ → β → Prop}
    {as : List α} {bs : List β} (h : List.Forall₂ R as bs)
    (hbetween : ∀ a ∈ as, ∀ b, R a b → ∃ c, S a c ∧ T c b) :
    ∃ cs, List.Forall₂ S as cs ∧ List.Forall₂ T cs bs := by
  induction h with
  | nil => exact ⟨[], .nil, .nil⟩
  | @cons a b as bs hab _ ih =>
      rcases hbetween a List.mem_cons_self b hab with ⟨c, hac, hcb⟩
      rcases ih fun x hx => hbetween x (List.mem_cons_of_mem a hx) with ⟨cs, hcs, hcs'⟩
      exact ⟨c :: cs, .cons hac hcs, .cons hcb hcs'⟩

theorem passing_eq_ok_iff {x : Except Refusal α} {a : α} : passing x = .ok a ↔ x = .ok a := by
  cases x with
  | ok b => simp only [passing, Except.ok.injEq]
  | error r => simp only [passing, reduceCtorEq]

theorem expected_eq_ok_iff {r : Refusal} {o : Option α} {a : α} :
    expected r o = .ok a ↔ o = some a := by
  cases o with
  | some b => simp only [expected, Except.ok.injEq, Option.some.injEq]
  | none => simp only [expected, reduceCtorEq]

theorem unworded_eq_ok_iff {x : Except Failure α} {a : α} : unworded x = .ok a ↔ x = .ok a := by
  cases x with
  | ok b => simp only [unworded, Except.ok.injEq]
  | error f => simp only [unworded, refuse, reduceCtorEq]

section Failures

/-- How a step fails, if it does. -/
def failure? : Except ε α → Option ε
  | .ok _ => none
  | .error e => some e

theorem failure?_eq_some_iff {x : Except ε α} {e : ε} : failure? x = some e ↔ x = .error e := by
  cases x with
  | ok a => simp only [failure?, reduceCtorEq]
  | error f => simp only [failure?, Option.some.injEq, Except.error.injEq]

theorem failure?_eq_none_iff {x : Except ε α} : failure? x = none ↔ ∃ a, x = .ok a := by
  cases x with
  | ok a => exact iff_of_true rfl ⟨a, rfl⟩
  | error e => simp only [failure?, reduceCtorEq, exists_false]

/-- A result is changed if the step does not fail. -/
theorem failure?_one {x : Except ε α} (f : α → β) : failure? (do return f (← x)) = failure? x := by
  cases x <;> rfl

/-- Two results are put together if neither step fails. -/
theorem failure?_both {x : Except ε α} {y : Except ε β} (f : α → β → γ) :
    failure? (do return f (← x) (← y)) = (failure? x).or (failure? y) := by
  cases x with
  | error e => rfl
  | ok a => cases y <;> rfl

/-- What cannot fail does not add a failure. -/
theorem failure?_bind_of_ok {x : Except ε α} {f : α → Except ε β}
    (h : ∀ a, x = .ok a → ∃ b, f a = .ok b) : failure? (x >>= f) = failure? x := by
  cases hx : x with
  | error e => rfl
  | ok a =>
      rcases h a hx with ⟨b, hb⟩
      show failure? (f a) = none
      rw [hb]
      rfl

end Failures

section Failing

/-- A step fails in no other way than the given ones. -/
def FailsOnly (P : ε → Prop) (x : Except ε α) : Prop :=
  ∀ e, x = .error e → P e

variable {δ : Type} {P : ε → Prop} {Q : δ → Prop}

theorem failsOnly_ok (a : α) : FailsOnly P (.ok a) :=
  fun _ h => by cases h

theorem failsOnly_error {e : ε} (h : P e) : FailsOnly (α := α) P (.error e) :=
  fun _ he => Except.error.inj he ▸ h

theorem FailsOnly.mono {R : ε → Prop} {x : Except ε α} (hx : FailsOnly P x)
    (hPR : ∀ e, P e → R e) : FailsOnly R x :=
  fun e he => hPR e (hx e he)

theorem FailsOnly.bind {x : Except ε α} {f : α → Except ε β} (hx : FailsOnly P x)
    (hf : ∀ a, x = .ok a → FailsOnly P (f a)) : FailsOnly P (x >>= f) := by
  cases hcase : x with
  | ok a => exact hf a hcase
  | error e => exact failsOnly_error (hx e hcase)

theorem FailsOnly.map {x : Except ε α} {f : α → β} (hx : FailsOnly P x) :
    FailsOnly P (x.map f) := by
  cases hcase : x with
  | ok a => exact failsOnly_ok (f a)
  | error e => exact failsOnly_error (hx e hcase)

theorem FailsOnly.mapError {x : Except ε α} {f : ε → δ} (hx : FailsOnly P x)
    (hf : ∀ e, P e → Q (f e)) : FailsOnly Q (x.mapError f) := by
  cases hcase : x with
  | ok a => exact failsOnly_ok a
  | error e => exact failsOnly_error (hf e (hx e hcase))

/-- A row of steps fails in no other way than its steps. -/
theorem FailsOnly.mapM {f : α → Except ε β} {as : List α} (h : ∀ a ∈ as, FailsOnly P (f a)) :
    FailsOnly P (as.mapM f) := by
  induction as with
  | nil => exact failsOnly_ok []
  | cons a as ih =>
      rw [List.mapM_cons]
      refine (h a List.mem_cons_self).bind fun b _ => ?_
      refine (ih fun x hx => h x (List.mem_cons_of_mem a hx)).bind fun bs _ => ?_
      exact failsOnly_ok (b :: bs)

theorem failsOnly_expected {P : Refusal → Prop} {r : Refusal} (h : P r) (o : Option α) :
    FailsOnly P (expected r o) := by
  cases o with
  | some a => exact failsOnly_ok a
  | none => exact failsOnly_error h

theorem FailsOnly.unworded {P : Failure → Prop} {Q : Refusal → Prop} {x : Except Failure α}
    (h : FailsOnly P x) (hPQ : ∀ f, P f → Q (.failed f)) : FailsOnly Q (unworded x) := by
  cases hcase : x with
  | ok a => exact failsOnly_ok a
  | error f => exact failsOnly_error (hPQ f (h f hcase))

theorem FailsOnly.passing {P : Refusal → Prop} {Q : Fault → Prop} {x : Except Refusal α}
    (h : FailsOnly P x) (hPQ : ∀ r, P r → Q (.refused r)) : FailsOnly Q (passing x) := by
  cases hcase : x with
  | ok a => exact failsOnly_ok a
  | error r => exact failsOnly_error (hPQ r (h r hcase))

end Failing

section Giving

/-- A step gives no other results than the given ones. -/
def GivesOnly (P : α → Prop) (x : Except ε α) : Prop :=
  ∀ a, x = .ok a → P a

variable {P : α → Prop} {Q : β → Prop}

theorem givesOnly_ok {a : α} (h : P a) : GivesOnly P (Except.ok a : Except ε α) :=
  fun _ ha => Except.ok.inj ha ▸ h

theorem givesOnly_error (e : ε) : GivesOnly P (.error e) :=
  fun _ ha => by cases ha

theorem GivesOnly.bind {x : Except ε α} {f : α → Except ε β} (hx : GivesOnly P x)
    (hf : ∀ a, P a → GivesOnly Q (f a)) : GivesOnly Q (x >>= f) := by
  cases hcase : x with
  | ok a => exact hf a (hx a hcase)
  | error e => exact givesOnly_error e

theorem GivesOnly.map {x : Except ε α} {f : α → β} (hx : GivesOnly P x)
    (hf : ∀ a, P a → Q (f a)) : GivesOnly Q (x.map f) := by
  cases hcase : x with
  | ok a => exact givesOnly_ok (hf a (hx a hcase))
  | error e => exact givesOnly_error e

/-- A step may give anything. -/
theorem givesOnly_true (x : Except ε α) : GivesOnly (fun _ => True) x :=
  fun _ _ => trivial

/-- Two steps give what the second one gives, if this does not depend on the first. -/
theorem GivesOnly.after {x : Except ε α} {f : α → Except ε β} (hf : ∀ a, GivesOnly Q (f a)) :
    GivesOnly Q (x >>= f) :=
  (givesOnly_true x).bind fun a _ => hf a

/-- A row of steps gives a row of what its steps give. -/
theorem GivesOnly.mapM {f : α → Except ε β} {as : List α} (h : ∀ a ∈ as, GivesOnly Q (f a)) :
    GivesOnly (fun bs => ∀ b ∈ bs, Q b) (as.mapM f) := by
  intro bs hbs b hb
  rcases forall₂_exists_left (mapM_eq_ok_iff.mp hbs) hb with ⟨a, ha, hab⟩
  exact h a ha b hab

theorem GivesOnly.mapError {δ : Type} {x : Except ε α} (hx : GivesOnly P x) (f : ε → δ) :
    GivesOnly P (x.mapError f) := by
  cases hcase : x with
  | ok a => exact givesOnly_ok (hx a hcase)
  | error e => exact givesOnly_error (f e)

theorem GivesOnly.passing {x : Except Refusal α} (hx : GivesOnly P x) :
    GivesOnly P (passing x) :=
  fun a ha => hx a (passing_eq_ok_iff.mp ha)

theorem GivesOnly.unworded {x : Except Failure α} (hx : GivesOnly P x) :
    GivesOnly P (unworded x) :=
  fun a ha => hx a (unworded_eq_ok_iff.mp ha)

end Giving

end Criteria
