import Criteria.Proofs.Spec.Verdict

/-!
# Expressions

Specifications as they are written down, before combining them flattens them.

An expression keeps every combination that was made, also where a conjunction stands
in a conjunction, and it is evaluated as it stands: from left to right, and no further
than is needed. Building it makes the specification, one combination after the other.
Each of these looks at the members it is given and no deeper, so that nothing is left
to splice in is a fact about all combinations that have been made before. `IsFlat` is
the invariant that carries it: a combination of flat specifications is flat, since
what a flat conjunction is made of holds no conjunctions.

That flattening cannot be seen in a verdict is the other half. The members that are
spliced in are asked in the place of the combination they came from, and decide as it
did, with the same errors.

Two members are combined at a time where specifications are written with operators, so
several members are combined in some order. `Bracketing` is such an order, and all that
is left of it is the row of its operands.

## Main definitions

* `Leaf`: A specification that is no combination.
* `SpecExpr`: An expression.
* `SpecExpr.build`: The specification that an expression makes.
* `SpecExpr.accepts`: The verdict of an expression as it is written.
* `SpecExpr.lacksAlternatives`: An expression that makes nothing.
* `Spec.IsFlat`: No combination stands directly in one of its own kind.
* `Bracketing`: A way of combining a row of operands two at a time.

## Theorems

* `Spec.isFlat_conj`, `Spec.isFlat_disj`: Combining keeps specifications flat.
* `SpecExpr.failure?_build`: What keeps an expression from making a specification.
* `SpecExpr.isFlat_of_build`: What an expression makes is flat.
* `SpecExpr.accepts_build`: It has the verdicts of the expression, and its errors.
* `Bracketing.conjoin_eq_allOf`, `Bracketing.oneOf_operands`: Only the operands matter.
-/

namespace Criteria

/-- A specification that is no combination. -/
inductive Leaf where
  | always
  | field (t : FieldTest)
  | member (t : MembershipTest)
  | named (t : NamedTest)

/-- The specification that a leaf is. -/
def Leaf.spec : Leaf → Spec
  | always => .always
  | field t => .field t
  | member t => .member t
  | named t => .named t

namespace Leaf

variable (l : Leaf)

theorem conjuncts_spec : l.spec.conjuncts = [l.spec] := by
  cases l <;> rfl

theorem disjuncts_spec : l.spec.disjuncts = [l.spec] := by
  cases l <;> rfl

theorem spec_ne_all (items : List Spec) : l.spec ≠ .all items := by
  cases l <;> exact Spec.noConfusion

theorem spec_ne_any (items : List Spec) : l.spec ≠ .any items := by
  cases l <;> exact Spec.noConfusion

end Leaf

/-- Specifications as they are written down. -/
inductive SpecExpr where
  | leaf (l : Leaf)
  /-- Two that are joined by "and", or merged. -/
  | both (left right : SpecExpr)
  /-- Two that are joined by "or". -/
  | either (left right : SpecExpr)
  | negated (item : SpecExpr)
  | allOf (items : List SpecExpr)
  | oneOf (items : List SpecExpr)
  | quantified (accessor : Accessor) (q : Quantifier) (inner : SpecExpr)

namespace SpecExpr

mutual

/-- The specification that an expression makes. -/
def build : SpecExpr → Except Refusal Spec
  | leaf l => .ok l.spec
  | both left right => do return .conj [← build left, ← build right]
  | either left right => do return .disj [← build left, ← build right]
  | negated item => do return .not (← build item)
  | allOf items => do return .allOf (← buildAll items)
  | oneOf items => do Spec.oneOf (← buildAll items)
  | quantified a q inner => do return .quantified a q (← build inner)
termination_by structural e => e

/-- The specifications that expressions make. -/
def buildAll : List SpecExpr → Except Refusal (List Spec)
  | [] => .ok []
  | e :: es => do return (← build e) :: (← buildAll es)
termination_by structural es => es

end

mutual

/-- The verdict on a candidate, of the expression as it is written. -/
def accepts (s : Schema) : SpecExpr → Value → Except Fault Bool
  | leaf l, v => l.spec.accepts s v
  | both left right, v => do if ← accepts s left v then accepts s right v else return false
  | either left right, v => do if ← accepts s left v then return true else accepts s right v
  | negated item, v => do return !(← accepts s item v)
  | allOf items, v => acceptsAll s items v
  | oneOf items, v => acceptsAny s items v
  | quantified a q inner, v => do
    let elements ← passing (unworded (do (← a.read s v).elementsOrNone))
    q.decide (accepts s inner) elements
termination_by structural e => e

/-- Every expression accepts the candidate. -/
def acceptsAll (s : Schema) : List SpecExpr → Value → Except Fault Bool
  | [], _ => .ok true
  | e :: es, v => do if ← accepts s e v then acceptsAll s es v else return false
termination_by structural es => es

/-- Some expression accepts the candidate. -/
def acceptsAny (s : Schema) : List SpecExpr → Value → Except Fault Bool
  | [], _ => .ok false
  | e :: es, v => do if ← accepts s e v then return true else acceptsAny s es v
termination_by structural es => es

end

mutual

/-- Somewhere in the expression one of no alternatives is asked for. -/
def lacksAlternatives : SpecExpr → Bool
  | leaf _ => false
  | both left right => lacksAlternatives left || lacksAlternatives right
  | either left right => lacksAlternatives left || lacksAlternatives right
  | negated item => lacksAlternatives item
  | allOf items => anyLacks items
  | oneOf items => items.isEmpty || anyLacks items
  | quantified _ _ inner => lacksAlternatives inner
termination_by structural e => e

/-- Somewhere in the expressions one of no alternatives is asked for. -/
def anyLacks : List SpecExpr → Bool
  | [] => false
  | e :: es => lacksAlternatives e || anyLacks es
termination_by structural es => es

end

theorem if_or_if (a b : Bool) (r : Refusal) :
    (if a then some r else none).or (if b then some r else none) =
      if a || b then some r else none := by
  cases a <;> rfl

mutual

-- By recursion over the expression: a combination lacks alternatives where one of its
-- parts does.

/-- Only where alternatives are missing does an expression not make a specification. -/
theorem failure?_build : ∀ e : SpecExpr, failure? e.build =
    if e.lacksAlternatives then some .emptyAlternatives else none
  | leaf l => rfl
  | both left right => by
      rw [build, failure?_both, failure?_build left, failure?_build right, if_or_if,
        lacksAlternatives]
  | either left right => by
      rw [build, failure?_both, failure?_build left, failure?_build right, if_or_if,
        lacksAlternatives]
  | negated item => by
      rw [build, failure?_one, failure?_build item, lacksAlternatives]
  | allOf items => by
      rw [build, failure?_one, failure?_buildAll items, lacksAlternatives]
  | oneOf [] => rfl
  | oneOf (e :: es) => by
      rw [build, failure?_bind_of_ok, failure?_buildAll (e :: es), lacksAlternatives,
        List.isEmpty_cons, Bool.false_or]
      -- There is a specification for each item, so one at least.
      intro xs hxs
      rcases bind_eq_ok_iff.mp hxs with ⟨x, -, hxs⟩
      rcases bind_eq_ok_iff.mp hxs with ⟨rest, -, hxs⟩
      rw [← Except.ok.inj hxs]
      cases rest <;> exact ⟨_, rfl⟩
  | quantified a q inner => by
      rw [build, failure?_one, failure?_build inner, lacksAlternatives]

theorem failure?_buildAll : ∀ es : List SpecExpr, failure? (buildAll es) =
    if anyLacks es then some .emptyAlternatives else none
  | [] => rfl
  | e :: es => by
      rw [buildAll, failure?_both, failure?_build e, failure?_buildAll es, if_or_if, anyLacks]

end

theorem buildAll_eq_ok_iff {es : List SpecExpr} {xs : List Spec} :
    buildAll es = .ok xs ↔ List.Forall₂ (fun e x => build e = .ok x) es xs := by
  induction es generalizing xs with
  | nil =>
      rw [buildAll, List.forall₂_nil_left_iff, Except.ok.injEq]
      exact eq_comm
  | cons e es ih =>
      rw [buildAll, bind_eq_ok_iff, List.forall₂_cons_left_iff]
      constructor
      · rintro ⟨x, hx, h⟩
        rcases bind_eq_ok_iff.mp h with ⟨rest, hrest, hxs⟩
        exact ⟨x, rest, hx, ih.mp hrest, (Except.ok.inj hxs).symm⟩
      · rintro ⟨x, rest, hx, hrest, rfl⟩
        exact ⟨x, hx, bind_eq_ok_iff.mpr ⟨rest, ih.mpr hrest, rfl⟩⟩

end SpecExpr

namespace Spec

/-- No conjunction stands directly in a conjunction, and no disjunction directly in a
    disjunction, at any depth. -/
inductive IsFlat : Spec → Prop
  | leaf (l : Leaf) : IsFlat l.spec
  | quantified {a : Accessor} {q : Quantifier} {inner : Spec} (h : IsFlat inner) :
      IsFlat (.quantified a q inner)
  | not {item : Spec} (h : IsFlat item) : IsFlat (.not item)
  | all {items : List Spec} (h : ∀ x ∈ items, IsFlat x)
      (hkind : ∀ x ∈ items, ∀ inner, x ≠ .all inner) : IsFlat (.all items)
  | any {items : List Spec} (h : ∀ x ∈ items, IsFlat x)
      (hkind : ∀ x ∈ items, ∀ inner, x ≠ .any inner) : IsFlat (.any items)

variable {items : List Spec} {x : Spec}

/-- What a flat specification puts into a conjunction is flat and no conjunction. -/
theorem IsFlat.of_mem_conjuncts (h : x.IsFlat) {y : Spec} (hy : y ∈ x.conjuncts) :
    y.IsFlat ∧ ∀ inner, y ≠ .all inner := by
  cases h with
  -- Only here is anything taken apart, and it is known not to hold conjunctions.
  | all h hkind => exact ⟨h y hy, hkind y hy⟩
  | leaf l =>
      rw [l.conjuncts_spec, List.mem_singleton] at hy
      exact hy ▸ ⟨.leaf l, l.spec_ne_all⟩
  | quantified h => rw [List.mem_singleton.mp hy]; exact ⟨.quantified h, fun _ => Spec.noConfusion⟩
  | not h => rw [List.mem_singleton.mp hy]; exact ⟨.not h, fun _ => Spec.noConfusion⟩
  | any h hkind => rw [List.mem_singleton.mp hy]; exact ⟨.any h hkind, fun _ => Spec.noConfusion⟩

/-- What a flat specification puts into a disjunction is flat and no disjunction. -/
theorem IsFlat.of_mem_disjuncts (h : x.IsFlat) {y : Spec} (hy : y ∈ x.disjuncts) :
    y.IsFlat ∧ ∀ inner, y ≠ .any inner := by
  cases h with
  | any h hkind => exact ⟨h y hy, hkind y hy⟩
  | leaf l =>
      rw [l.disjuncts_spec, List.mem_singleton] at hy
      exact hy ▸ ⟨.leaf l, l.spec_ne_any⟩
  | quantified h => rw [List.mem_singleton.mp hy]; exact ⟨.quantified h, fun _ => Spec.noConfusion⟩
  | not h => rw [List.mem_singleton.mp hy]; exact ⟨.not h, fun _ => Spec.noConfusion⟩
  | all h hkind => rw [List.mem_singleton.mp hy]; exact ⟨.all h hkind, fun _ => Spec.noConfusion⟩

/-- The conjunction of flat specifications is flat. -/
theorem isFlat_conj (h : ∀ x ∈ items, IsFlat x) : (conj items).IsFlat := by
  have hmembers : ∀ y ∈ items.flatMap conjuncts, y.IsFlat ∧ ∀ inner, y ≠ .all inner := by
    intro y hy
    rcases List.mem_flatMap.mp hy with ⟨x, hx, hy⟩
    exact (h x hx).of_mem_conjuncts hy
  exact .all (fun y hy => (hmembers y hy).1) fun y hy => (hmembers y hy).2

/-- The disjunction of flat specifications is flat. -/
theorem isFlat_disj (h : ∀ x ∈ items, IsFlat x) : (disj items).IsFlat := by
  have hmembers : ∀ y ∈ items.flatMap disjuncts, y.IsFlat ∧ ∀ inner, y ≠ .any inner := by
    intro y hy
    rcases List.mem_flatMap.mp hy with ⟨x, hx, hy⟩
    exact (h x hx).of_mem_disjuncts hy
  exact .any (fun y hy => (hmembers y hy).1) fun y hy => (hmembers y hy).2

/-- Two specifications and more are put into one conjunction. -/
theorem allOf_append {xs ys : List Spec} (hxs : xs ≠ []) (hys : ys ≠ []) :
    allOf (xs ++ ys) = conj (xs ++ ys) := by
  rcases xs with _ | ⟨x, _ | ⟨y, rest⟩⟩
  · exact absurd rfl hxs
  · rcases ys with _ | ⟨z, ys⟩
    · exact absurd rfl hys
    · rfl
  · rfl

/-- Two alternatives and more are put into one disjunction. -/
theorem oneOf_append {xs ys : List Spec} (hxs : xs ≠ []) (hys : ys ≠ []) :
    oneOf (xs ++ ys) = .ok (disj (xs ++ ys)) := by
  rcases xs with _ | ⟨x, _ | ⟨y, rest⟩⟩
  · exact absurd rfl hxs
  · rcases ys with _ | ⟨z, ys⟩
    · exact absurd rfl hys
    · rfl
  · rfl

theorem isFlat_allOf (h : ∀ x ∈ items, IsFlat x) : (allOf items).IsFlat := by
  match items with
  | [] => exact .leaf .always
  | [x] => exact h x List.mem_cons_self
  | x :: y :: rest => exact isFlat_conj h

theorem isFlat_oneOf (h : ∀ x ∈ items, IsFlat x) (hx : oneOf items = .ok x) : x.IsFlat := by
  match items with
  | [] => cases hx
  | [y] => exact Except.ok.inj hx ▸ h y List.mem_cons_self
  | y :: z :: rest => exact Except.ok.inj hx ▸ isFlat_disj h

end Spec

namespace SpecExpr

mutual

/-- What an expression makes is flat. -/
theorem isFlat_of_build : ∀ {e : SpecExpr} {x : Spec}, e.build = .ok x → x.IsFlat
  -- A combination flattens what it is made of, which is flat already.
  | leaf l, x, h => Except.ok.inj h ▸ .leaf l
  | both left right, x, h => by
      rcases bind_eq_ok_iff.mp h with ⟨y, hy, h⟩
      rcases bind_eq_ok_iff.mp h with ⟨z, hz, h⟩
      rw [← Except.ok.inj h]
      refine Spec.isFlat_conj (List.forall_mem_cons.mpr ⟨isFlat_of_build hy, ?_⟩)
      exact List.forall_mem_singleton.mpr (isFlat_of_build hz)
  | either left right, x, h => by
      rcases bind_eq_ok_iff.mp h with ⟨y, hy, h⟩
      rcases bind_eq_ok_iff.mp h with ⟨z, hz, h⟩
      rw [← Except.ok.inj h]
      refine Spec.isFlat_disj (List.forall_mem_cons.mpr ⟨isFlat_of_build hy, ?_⟩)
      exact List.forall_mem_singleton.mpr (isFlat_of_build hz)
  | negated item, x, h => by
      rcases bind_eq_ok_iff.mp h with ⟨y, hy, h⟩
      rw [← Except.ok.inj h]
      exact .not (isFlat_of_build hy)
  | allOf items, x, h => by
      rcases bind_eq_ok_iff.mp h with ⟨ys, hys, h⟩
      rw [← Except.ok.inj h]
      exact Spec.isFlat_allOf (isFlat_of_buildAll hys)
  | oneOf items, x, h => by
      rcases bind_eq_ok_iff.mp h with ⟨ys, hys, h⟩
      exact Spec.isFlat_oneOf (isFlat_of_buildAll hys) h
  | quantified a q inner, x, h => by
      rcases bind_eq_ok_iff.mp h with ⟨y, hy, h⟩
      rw [← Except.ok.inj h]
      exact .quantified (isFlat_of_build hy)

theorem isFlat_of_buildAll : ∀ {es : List SpecExpr} {xs : List Spec},
    buildAll es = .ok xs → ∀ x ∈ xs, x.IsFlat
  | [], xs, h => by
      rw [← Except.ok.inj h]
      exact fun x hx => absurd hx List.not_mem_nil
  | e :: es, xs, h => by
      rcases bind_eq_ok_iff.mp h with ⟨y, hy, h⟩
      rcases bind_eq_ok_iff.mp h with ⟨ys, hys, h⟩
      rw [← Except.ok.inj h]
      exact List.forall_mem_cons.mpr ⟨isFlat_of_build hy, isFlat_of_buildAll hys⟩

end

mutual

/-- What an expression makes has the verdicts of the expression, and fails as it
    fails. -/
theorem accepts_build (s : Schema) : ∀ {e : SpecExpr} {x : Spec}, e.build = .ok x →
    ∀ v, x.accepts s v = e.accepts s v
  -- Flattening does not change a verdict, so the two are compared part by part.
  | leaf l, x, h, v => by
      rw [← Except.ok.inj h, accepts]
  | both left right, x, h, v => by
      rcases bind_eq_ok_iff.mp h with ⟨y, hy, h⟩
      rcases bind_eq_ok_iff.mp h with ⟨z, hz, h⟩
      rw [← Except.ok.inj h, accepts, Spec.accepts_conj, Spec.acceptsAll, Spec.acceptsAll_singleton,
        accepts_build s hy, accepts_build s hz]
  | either left right, x, h, v => by
      rcases bind_eq_ok_iff.mp h with ⟨y, hy, h⟩
      rcases bind_eq_ok_iff.mp h with ⟨z, hz, h⟩
      rw [← Except.ok.inj h, accepts, Spec.accepts_disj, Spec.acceptsAny, Spec.acceptsAny_singleton,
        accepts_build s hy, accepts_build s hz]
  | negated item, x, h, v => by
      rcases bind_eq_ok_iff.mp h with ⟨y, hy, h⟩
      rw [← Except.ok.inj h, accepts, Spec.accepts, accepts_build s hy]
  | allOf items, x, h, v => by
      rcases bind_eq_ok_iff.mp h with ⟨ys, hys, h⟩
      rw [← Except.ok.inj h, accepts, Spec.accepts_allOf, (accepts_buildAll s hys v).1]
  | oneOf items, x, h, v => by
      rcases bind_eq_ok_iff.mp h with ⟨ys, hys, h⟩
      rw [accepts, Spec.accepts_oneOf h, (accepts_buildAll s hys v).2]
  | quantified a q inner, x, h, v => by
      rcases bind_eq_ok_iff.mp h with ⟨y, hy, h⟩
      -- The elements are asked, so the verdicts on the candidate are not enough.
      have hinner : y.accepts s = inner.accepts s := funext (accepts_build s hy)
      rw [← Except.ok.inj h, accepts, Spec.accepts, hinner]

theorem accepts_buildAll (s : Schema) : ∀ {es : List SpecExpr} {xs : List Spec},
    buildAll es = .ok xs → ∀ v, Spec.acceptsAll s xs v = acceptsAll s es v ∧
      Spec.acceptsAny s xs v = acceptsAny s es v
  | [], xs, h, v => by
      rw [← Except.ok.inj h]
      exact ⟨rfl, rfl⟩
  | e :: es, xs, h, v => by
      rcases bind_eq_ok_iff.mp h with ⟨y, hy, h⟩
      rcases bind_eq_ok_iff.mp h with ⟨ys, hys, h⟩
      have hrest := accepts_buildAll s hys v
      rw [← Except.ok.inj h, acceptsAll, acceptsAny, Spec.acceptsAll, Spec.acceptsAny,
        accepts_build s hy, hrest.1, hrest.2]
      exact ⟨rfl, rfl⟩

end

end SpecExpr

/-- A way of combining a row of operands two at a time. -/
inductive Bracketing where
  | one (operand : Spec)
  | two (left right : Bracketing)

namespace Bracketing

/-- The operands, from left to right. -/
def operands : Bracketing → List Spec
  | one x => [x]
  | two left right => left.operands ++ right.operands

/-- The operands joined by "and". -/
def conjoin : Bracketing → Spec
  | one x => x
  | two left right => .conj [left.conjoin, right.conjoin]

/-- The operands joined by "or". -/
def disjoin : Bracketing → Spec
  | one x => x
  | two left right => .disj [left.disjoin, right.disjoin]

theorem operands_ne_nil (b : Bracketing) : b.operands ≠ [] := by
  induction b with
  | one x => exact List.cons_ne_nil x []
  | two left right hleft _ => exact fun h => hleft (List.append_eq_nil_iff.mp h).1

/-- The members of the conjunction are those of the operands. -/
theorem conjuncts_conjoin (b : Bracketing) :
    b.conjoin.conjuncts = b.operands.flatMap Spec.conjuncts := by
  induction b with
  | one x => rw [conjoin, operands, List.flatMap_singleton]
  | two left right hleft hright =>
      rw [conjoin, Spec.conjuncts_conj, List.flatMap_cons, List.flatMap_singleton, hleft, hright,
        operands, List.flatMap_append]

/-- The members of the disjunction are those of the operands. -/
theorem disjuncts_disjoin (b : Bracketing) :
    b.disjoin.disjuncts = b.operands.flatMap Spec.disjuncts := by
  induction b with
  | one x => rw [disjoin, operands, List.flatMap_singleton]
  | two left right hleft hright =>
      rw [disjoin, Spec.disjuncts_disj, List.flatMap_cons, List.flatMap_singleton, hleft, hright,
        operands, List.flatMap_append]

/-- However operands are joined by "and", it is as if all were taken at once. -/
theorem conjoin_eq_allOf (b : Bracketing) : b.conjoin = .allOf b.operands := by
  cases b with
  | one x => rfl
  | two left right =>
      -- There are two operands at least, so that none stands for itself.
      have hmembers : (two left right).conjoin = .conj (two left right).operands :=
        congrArg Spec.all (conjuncts_conjoin (two left right))
      rw [hmembers, operands, Spec.allOf_append left.operands_ne_nil right.operands_ne_nil]

/-- However operands are joined by "or", it is as if all were taken at once. -/
theorem oneOf_operands (b : Bracketing) : Spec.oneOf b.operands = .ok b.disjoin := by
  cases b with
  | one x => rfl
  | two left right =>
      have hmembers : (two left right).disjoin = .disj (two left right).operands :=
        congrArg Spec.any (disjuncts_disjoin (two left right))
      rw [hmembers, operands, Spec.oneOf_append left.operands_ne_nil right.operands_ne_nil]

end Bracketing

end Criteria
