import Criteria.Coercion.Basic
import Criteria.Registry.Basic

/-!
# What Criteria Are Compiled With

The types that paths are followed through, the registered specifications, the
comparisons of operators, the registered converters, and the time it is.

## Main definitions

* `Context`: What criteria are compiled with.
* `Context.test`: A test of a field.
* `Context.guarded`: A specification that null does not meet.
* `elementOrValue`: The type that single values of a field are of.
-/

namespace Criteria

/-- What criteria are compiled with. -/
structure Context where
  schema : Schema
  registry : Registry := []
  operators : OperatorTable := .standard
  coercer : Coercer := []
  /-- The time that relative dates and times start from. -/
  now : Moment
  /-- Searches in texts ignore case. -/
  ignoreCase : Bool := true

namespace Context

/-- A test of a field. -/
def test (c : Context) (a : Accessor) (op : Operator) (operand : Value)
    (transform : Option Transform) : Spec :=
  .field ⟨a, op, operand, transform, c.operators⟩

/-- The test that a field is not null. -/
def notNull (c : Context) (a : Accessor) : Spec :=
  c.test a .isNotNull .null none

/-- The specification; where the field may be null, the test that it is not goes
    first. -/
def guarded (c : Context) (a : Accessor) (spec : Spec) : Spec :=
  if a.nullable then .conj [c.notNull a, spec] else spec

/-- The accessor of a path. -/
def resolve (c : Context) (entity : TypeExpr) (path : String) : Except Fault Accessor :=
  (c.schema.resolve entity path).mapError Fault.filter

end Context

/-- The type that single values of a field are of: of a collection, its
    elements. -/
def elementOrValue (a : Accessor) : TypeExpr :=
  a.element.getD a.valueType

/-- The operators for the bounds of a range, from below and from above. -/
def boundOperators (inclusive : Bool) : Operator × Operator :=
  if inclusive then (.greaterOrEqual, .lessOrEqual) else (.greater, .less)

end Criteria
