import Criteria.Query.Merge
import Criteria.Query.Update

/-!
# Changing Queries

The changes that a caller can make to a query that is there already, one after
another. A change that fails leaves the query as it was, but for the operand of a
criterion whose new logic is unknown.

## Main definitions

* `Change`: A change of a query.
* `Query.apply`: The query after a change, and what went wrong.
* `Query.applyAll`: The query after changes, whether or not they failed.
-/

namespace Criteria

/-- A change of a query. -/
inductive Change where
  | setFilter (field : String) (op : Value) (operand : Operand Criterion) (logic : Value)
  | removeFilter (field : String) (op : Option Value)
  | setOrdering (field : String) (direction : Value)
  | removeOrdering (field : String)
  | addInclude (path : String)
  | removeInclude (path : String)
  | setHierarchy (path : Option String) (maxDepth : Int)
  | setPaging (page pageSize : Int)
  | merge (other : Query)
  | clear
  | clearField (field : String)
  deriving Inhabited

namespace Query

/-- The query after a change that fails as a whole or not at all. -/
def attempt (q : Query) : Except Fault Query → Query × Option Fault
  | .ok q => (q, none)
  | .error f => (q, some f)

/-- The query after a change, and what went wrong. -/
def apply (q : Query) : Change → Query × Option Fault
  | .setFilter field op operand logic => q.setFilter field op operand logic
  | .removeFilter field op => q.attempt do
    return q.removeFilter field (← op.mapM fun v => passing (Operator.vocabulary.read v))
  | .setOrdering field direction => q.attempt do
    return q.setOrdering field (← passing (Direction.vocabulary.read direction))
  | .removeOrdering field => (q.removeOrdering field, none)
  | .addInclude path => (q.addInclude path, none)
  | .removeInclude path => (q.removeInclude path, none)
  | .setHierarchy path maxDepth => q.attempt (passing (q.setHierarchy path maxDepth))
  | .setPaging page pageSize => q.attempt (passing (q.setPaging page pageSize))
  | .merge other => (q.merge other, none)
  | .clear => (q.clear, none)
  | .clearField field => (q.clearField field, none)

/-- The query after changes, whether or not they failed. -/
def applyAll (q : Query) (changes : List Change) : Query :=
  changes.foldl (fun q change => (q.apply change).1) q

end Query

end Criteria
