import Criteria.Schema.Path
import Criteria.Spec.Comparison
import Criteria.Spec.Transform

/-!
# Specifications

Conditions on one candidate: tests of a field, of membership and of a
collection's elements, named tests, and their combinations.

Combining specifications of one kind flattens them, so any way of bracketing a
conjunction gives the same specification, and a disjunction likewise. A
combination stops at the first member that decides it; errors of later members
do not arise then.

## Main definitions

* `Spec`: A specification.
* `Spec.conj`, `Spec.disj`: Conjunction and disjunction, flattened.
* `Spec.allOf`, `Spec.oneOf`: The same, where a single member stands for itself.
* `Spec.accepts`: The verdict on a candidate.
* `Spec.report`: The table that describes a specification.
-/

namespace Criteria

/-- A test of a field. -/
structure FieldTest where
  accessor : Accessor
  op : Operator
  operand : Value
  transform : Option Transform
  operators : OperatorTable

/-- A test whether a field, or an element of it, is one of some values. -/
structure MembershipTest where
  accessor : Accessor
  values : List Value
  negated : Bool
  transform : Option Transform

/-- A test under a name. -/
structure NamedTest where
  /-- The type of specification. -/
  type : String
  report : Value
  test : Value → Except Failure Bool

/-- The two quantifiers. -/
inductive Quantifier where
  | some | every
  deriving DecidableEq, Inhabited

/-- The operator that stands for a quantifier. -/
def Quantifier.op : Quantifier → Operator
  | .some => .any
  | .every => .all

/-- A specification. -/
inductive Spec where
  | always
  | field (t : FieldTest)
  | member (t : MembershipTest)
  | named (t : NamedTest)
  | quantified (accessor : Accessor) (q : Quantifier) (inner : Spec)
  | all (items : List Spec)
  | any (items : List Spec)
  | not (item : Spec)

instance : Inhabited Spec := ⟨.always⟩

namespace Spec

/-- The members of a conjunction; any other specification is its own member. -/
def conjuncts : Spec → List Spec
  | all items => items
  | s => [s]

/-- The members of a disjunction; any other specification is its own member. -/
def disjuncts : Spec → List Spec
  | any items => items
  | s => [s]

/-- The conjunction. -/
def conj (items : List Spec) : Spec :=
  all (items.flatMap conjuncts)

/-- The disjunction. -/
def disj (items : List Spec) : Spec :=
  any (items.flatMap disjuncts)

@[simp] theorem conjuncts_conj (items : List Spec) :
    (conj items).conjuncts = items.flatMap conjuncts := rfl

@[simp] theorem disjuncts_disj (items : List Spec) :
    (disj items).disjuncts = items.flatMap disjuncts := rfl

/-- All of the specifications; none at all is always met. -/
def allOf : List Spec → Spec
  | [] => always
  | [s] => s
  | items => conj items

/-- At least one of the specifications, of which there must be one. -/
def oneOf : List Spec → Except Refusal Spec
  | [] => .error .emptyAlternatives
  | [s] => .ok s
  | items => .ok (disj items)

/-- A test of the candidate alone, under a name and with the arguments it was
    made from. -/
def predicate (name : String) (arguments : List Value) (test : Value → Except Failure Bool) :
    Spec :=
  named ⟨"PredicateSpecification",
    Value.table [("op", .text "predicate"), ("name", .text name), ("args", .list arguments)], test⟩

/-- A membership test; its values have to be hashable. -/
def membership (t : MembershipTest) : Except Refusal Spec :=
  if Value.allHashable t.values then .ok (member t) else refuse .mismatch

/-- The quantifier that stands for an operator. -/
def quantifierOf (op : Operator) : Except Refusal Quantifier :=
  match op with
  | .any => .ok .some
  | .all => .ok .every
  | _ => .error (.quantifier op.wire)

end Spec

/-- The value a test looks at, after its transform. -/
def transformed (t : Option Transform) (v : Value) : Except Failure Value :=
  t.elim (.ok v) (·.apply v)

namespace FieldTest

/-- The verdict on a candidate. -/
def accepts (t : FieldTest) (s : Schema) (candidate : Value) : Except Fault Bool := do
  let v ← passing (unworded (do transformed t.transform (← t.accessor.read s candidate)))
  t.operators.evaluate t.op v t.operand

end FieldTest

namespace MembershipTest

/-- The value is one of the test's values. -/
def holds (t : MembershipTest) (v : Value) : Except Failure Bool := do
  let v ← transformed t.transform v
  if v.isHashable then return Value.contains t.values v else .error .mismatch

/-- One of the elements is one of the test's values. -/
def holdsAny (t : MembershipTest) : List Value → Except Failure Bool
  | [] => .ok false
  | v :: vs => do if ← t.holds v then return true else holdsAny t vs

/-- The verdict on a candidate. -/
def accepts (t : MembershipTest) (s : Schema) (candidate : Value) : Except Failure Bool := do
  let v ← t.accessor.read s candidate
  let found ←
    if t.accessor.isCollection then do t.holdsAny (← v.elementsOrNone)
    else if v.isNull then pure false
    else t.holds v
  return found != t.negated

end MembershipTest

/-- The verdict on the values one by one, until one of them decides: a quantifier
    over some is decided by a value accepted, one over every by a value
    rejected. -/
def Quantifier.decide (q : Quantifier) (accepts : Value → Except Fault Bool) :
    List Value → Except Fault Bool
  | [] => .ok (q == .every)
  | v :: vs => do
    match q, ← accepts v with
    | .some, true => return true
    | .every, false => return false
    | _, _ => Quantifier.decide q accepts vs

namespace Spec

mutual

/-- The verdict on a candidate. -/
def accepts (s : Schema) : Spec → Value → Except Fault Bool
  | always, _ => .ok true
  | field t, v => t.accepts s v
  | member t, v => passing (unworded (t.accepts s v))
  | named t, v => passing (unworded (t.test v))
  | quantified a q inner, v => do
    let elements ← passing (unworded (do (← a.read s v).elementsOrNone))
    q.decide (accepts s inner) elements
  | all items, v => acceptsAll s items v
  | any items, v => acceptsAny s items v
  | not item, v => do return !(← accepts s item v)
termination_by structural spec => spec

/-- Every specification accepts the candidate. -/
def acceptsAll (s : Schema) : List Spec → Value → Except Fault Bool
  | [], _ => .ok true
  | item :: items, v => do if ← accepts s item v then acceptsAll s items v else return false
termination_by structural items => items

/-- Some specification accepts the candidate. -/
def acceptsAny (s : Schema) : List Spec → Value → Except Fault Bool
  | [], _ => .ok false
  | item :: items, v => do if ← accepts s item v then return true else acceptsAny s items v
termination_by structural items => items

end

/-- The entry that reports a transform. -/
def transformEntry (t : Option Transform) : List (String × Value) :=
  t.toList.map fun t => ("transform", .text t.name)

/-- The table that reports a field test. -/
def fieldReport (t : FieldTest) : Value :=
  Value.table ([("op", .text t.op.wire), ("attr", .text t.accessor.path), ("val", t.operand)] ++
    transformEntry t.transform)

/-- The table that reports a membership test. -/
def memberReport (t : MembershipTest) : Value :=
  Value.table ([("op", .text (if t.negated then "not_in" else "in")),
    ("attr", .text t.accessor.path), ("val", .list t.values)] ++ transformEntry t.transform)

mutual

/-- The table that describes a specification. -/
def report : Spec → Value
  | always => Value.table [("op", .text "true")]
  | field t => fieldReport t
  | member t => memberReport t
  | named t => t.report
  | quantified a q inner =>
    Value.table [("op", .text q.op.wire), ("attr", .text a.path),
      ("conditions", .list [report inner])]
  | all items => Value.table [("op", .text "and"), ("conditions", .list (reports items))]
  | any items => Value.table [("op", .text "or"), ("conditions", .list (reports items))]
  | not item => Value.table [("op", .text "not"), ("conditions", .list [report item])]
termination_by structural spec => spec

/-- The tables that describe several specifications. -/
def reports : List Spec → List Value
  | [] => []
  | item :: items => report item :: reports items
termination_by structural items => items

end

/-- The type of a specification. -/
def typeName : Spec → String
  | always => "TrueSpecification"
  | field _ => "FieldSpecification"
  | member _ => "MembershipSpecification"
  | named t => t.type
  | quantified .. => "QuantifierSpecification"
  | all _ => "AndSpecification"
  | any _ => "OrSpecification"
  | not _ => "NotSpecification"

/-- Items between parentheses; a single one is followed by a comma. -/
def tupleText : List String → String
  | [x] => "(" ++ x ++ ",)"
  | xs => "(" ++ ", ".intercalate xs ++ ")"

mutual

/-- The literal of a specification. -/
def literal : Spec → String
  | field t =>
    Value.call "FieldSpecification"
      [Text.quoted t.accessor.path, Text.quoted t.op.wire, t.operand.literal]
  | all items => "AndSpecification" ++ tupleText (literals items)
  | any items => "OrSpecification" ++ tupleText (literals items)
  | not item => Value.call "NotSpecification" [literal item]
  | s => "<" ++ s.typeName ++ " object>"
termination_by structural spec => spec

/-- The literals of several specifications. -/
def literals : List Spec → List String
  | [] => []
  | item :: items => literal item :: literals items
termination_by structural items => items

end

end Spec

end Criteria
