import Criteria.Filter.Error
import Criteria.Value.Order
import Criteria.Value.Temporal

/-!
# Comparisons

How each operator compares the value of a field with an operand.

Comparisons by order and equality first bring dates and moments to one kind. A
null field passes no comparison by order and matches no text, not even under a
negated operator. Texts are compared in the displayed form of both sides.

A table assigns a comparison to each operator it knows. Assigning a comparison
to an operator again replaces the earlier one.

## Main definitions

* `Comparison`: How a field's value is compared with an operand.
* `OperatorTable`: The comparisons of operators.
* `OperatorTable.standard`: The comparisons of all operators with a value.
* `OperatorTable.evaluate`: The outcome of an operator.
-/

namespace Criteria

/-- How the value of a field is compared with an operand. -/
def Comparison : Type := Value → Value → Except Failure Bool

namespace Comparison

/-- Both are equal. -/
def equal : Comparison := fun field operand =>
  let (a, b) := Value.align field operand
  Value.equal? a b

/-- They differ. -/
def notEqual : Comparison := fun field operand =>
  (equal field operand).map not

/-- They stand in one of the accepted relations; null stands in none. -/
def related (accepted : Relation → Bool) : Comparison := fun field operand =>
  -- Equality is not guarded this way: null equals null.
  if field.isNull || operand.isNull then .ok false
  else
    let (a, b) := Value.align field operand
    (Value.relate a b).map accepted

/-- The first list stands somewhere in the second. -/
def occursIn (part : List Char) : List Char → Bool
  | [] => part.isEmpty
  | c :: cs => part.isPrefixOf (c :: cs) || occursIn part cs

/-- The displayed texts match; null matches nothing. -/
def textual (accepted : (operand field : List Char) → Bool) : Comparison := fun field operand =>
  if field.isNull then .ok false
  else do return accepted (← operand.write).toList (← field.write).toList

/-- Null or without content. -/
def isEmpty (v : Value) : Bool :=
  v.isNull || v.size? == some 0

/-- A test of the field alone. -/
def unary (test : Value → Bool) : Comparison := fun field _ => .ok (test field)

/-- The displayed texts are equal but for case. -/
def loose : Comparison := fun field operand =>
  do return Text.lower (← field.write) == Text.lower (← operand.write)

end Comparison

/-- The comparisons of operators. -/
abbrev OperatorTable : Type := List (Operator × Comparison)

namespace OperatorTable

/-- The table with a comparison assigned to an operator. -/
def assign : OperatorTable → Operator → Comparison → OperatorTable
  | [], op, c => [(op, c)]
  | (o, d) :: rest, op, c => if o = op then (o, c) :: rest else (o, d) :: assign rest op c

/-- The comparisons of all operators with a value. -/
def standard : OperatorTable :=
  [(.equal, Comparison.equal),
    (.notEqual, Comparison.notEqual),
    (.greater, Comparison.related fun r => r == .greater),
    (.less, Comparison.related fun r => r == .less),
    (.greaterOrEqual, Comparison.related fun r => r == .greater || r == .equal),
    (.lessOrEqual, Comparison.related fun r => r == .less || r == .equal),
    (.contains, Comparison.textual Comparison.occursIn),
    (.notContains, Comparison.textual fun part s => !Comparison.occursIn part s),
    (.startsWith, Comparison.textual fun part s => part.isPrefixOf s),
    (.notStartsWith, Comparison.textual fun part s => !part.isPrefixOf s),
    (.endsWith, Comparison.textual fun part s => part.isSuffixOf s),
    (.notEndsWith, Comparison.textual fun part s => !part.isSuffixOf s),
    (.isNull, Comparison.unary Value.isNull),
    (.isNotNull, Comparison.unary fun v => !v.isNull),
    (.isEmpty, Comparison.unary Comparison.isEmpty),
    (.isNotEmpty, Comparison.unary fun v => !Comparison.isEmpty v)]

/-- The error for an operator the table does not know. -/
def unknown (t : OperatorTable) (op : Operator) : FilterError :=
  .unknownOperator op.wire (FilterError.sortedNames (t.map fun e => e.1.wire))

/-- The outcome of an operator. -/
def evaluate (t : OperatorTable) (op : Operator) (field operand : Value) : Except Fault Bool :=
  match t.lookup op with
  | none => failWith (t.unknown op)
  | some c => passing (unworded (c field operand))

end OperatorTable

end Criteria
