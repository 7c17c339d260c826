import Criteria.Query.Basic
import Criteria.Schema.Path

/-!
# Result Shapes

How the results of a query are returned: how many are skipped and taken, how they
are ordered, and what is loaded beside them. Paths are followed when a shape is
made, so a shape made from a query names existing members only.

Shapes can be merged. The first one decides what both decide, and what is listed
in both is listed once.

## Main definitions

* `SortKey`, `Include`, `Hierarchy`: The parts of a shape.
* `ResultShape`: A shape.
* `ResultShape.merge`: The merged shape.
* `ResultShape.ofQuery`: The shape of a query's results.

## Main results

* `uniqueBy_sublist`: Of the elements that share a key some are left out.
-/

namespace Criteria

/-- A field that results are ordered by. -/
structure SortKey where
  field : String
  direction : Direction := .ascending
  accessor : Option Accessor := none
  deriving Inhabited

/-- A path that is loaded beside the results. -/
structure Include where
  path : String
  accessor : Option Accessor := none
  deriving Inhabited

/-- A relation that is followed from result to result. -/
structure Hierarchy where
  path : String
  maxDepth : Int := standardDepth
  accessor : Option Accessor := none
  deriving Inhabited

/-- How results are returned. -/
structure ResultShape where
  skip : Option Int := none
  take : Option Int := none
  /-- The sort keys, most significant first. -/
  orders : List SortKey := []
  includes : List Include := []
  hierarchy : Option Hierarchy := none
  /-- Results are snapshots that are not written back. -/
  noTracking : Bool := true
  /-- Equal results are returned once. -/
  distinct : Bool := false
  deriving Inhabited

/-- The elements without those that share a key with an earlier one. -/
def uniqueBy {α : Type} (key : α → String) : List α → List α
  | [] => []
  | a :: as => a :: (uniqueBy key as).filter fun b => key b != key a

/-- Of the elements that share a key some are left out; the others stand as they
    did. -/
theorem uniqueBy_sublist {α : Type} (key : α → String) (as : List α) :
    (uniqueBy key as).Sublist as := by
  induction as with
  | nil => exact .slnil
  | cons a as ih => exact (List.filter_sublist.trans ih).cons_cons a

namespace SortKey

/-- Greater values come first. -/
def isDescending (k : SortKey) : Bool :=
  k.direction == .descending

/-- The table that describes a sort key. -/
def report (k : SortKey) : Value :=
  Value.table [("field", .text k.field), ("direction", .text k.direction.wire)]

/-- The sort key of an ordering. -/
def ofOrdering (s : Schema) (entity : TypeExpr) (o : OrderBy) : Except FilterError SortKey := do
  let a ← s.resolve entity o.field
  return ⟨a.path, o.direction, some a⟩

end SortKey

namespace Include

/-- The table that describes an included path. -/
def report (i : Include) : Value :=
  Value.table [("path", .text i.path)]

/-- An included path that has been followed. -/
def ofPath (s : Schema) (entity : TypeExpr) (path : String) : Except FilterError Include := do
  return ⟨path, some (← s.resolve entity path)⟩

/-- Included paths that have been followed, each once. -/
def ofPaths (s : Schema) (entity : TypeExpr) (paths : List String) :
    Except FilterError (List Include) :=
  (uniqueBy id paths).mapM (ofPath s entity)

end Include

namespace Hierarchy

/-- The table that describes a hierarchy. -/
def report (h : Hierarchy) : Value :=
  Value.table [("path", .text h.path), ("max_depth", .int h.maxDepth)]

/-- A hierarchy whose path has been followed, if there is a path. -/
def ofPath? (s : Schema) (entity : TypeExpr) (path : Option String) (maxDepth : Int) :
    Except FilterError (Option Hierarchy) :=
  match path with
  | none | some "" => .ok none
  | some path =>
    if maxDepth < 1 then .error (.schema (.depthTooLow maxDepth))
    else do return some ⟨path, maxDepth, some (← s.resolve entity path)⟩

end Hierarchy

namespace ResultShape

/-- The shape with another page. -/
def withPaging (r : ResultShape) (skip take : Option Int) : ResultShape :=
  { r with skip := skip.orElse fun _ => r.skip, take := take.orElse fun _ => r.take }

/-- The shape with other sort keys. -/
def withOrders (r : ResultShape) (orders : List SortKey) : ResultShape :=
  { r with orders := orders }

/-- The merged shape. -/
def merge (r other : ResultShape) : ResultShape where
  skip := r.skip.orElse fun _ => other.skip
  take := r.take.orElse fun _ => other.take
  orders := uniqueBy (·.field) (r.orders ++ other.orders)
  includes := uniqueBy (·.path) (r.includes ++ other.includes)
  hierarchy := r.hierarchy.orElse fun _ => other.hierarchy
  noTracking := r.noTracking && other.noTracking
  distinct := r.distinct || other.distinct

/-- An entry of a table, unless the list is empty. -/
def listEntry (name : String) (items : List Value) : List (String × Value) :=
  if items.isEmpty then [] else [(name, .list items)]

/-- The table that describes a shape; what is as in a new one is left out. -/
def report (r : ResultShape) : Value :=
  Value.table <|
    [("no_tracking", .bool r.noTracking)] ++
    (r.skip.map fun n => ("skip", Value.int n)).toList ++
    (r.take.map fun n => ("take", Value.int n)).toList ++
    listEntry "orders" (r.orders.map (·.report)) ++
    listEntry "includes" (r.includes.map (·.report)) ++
    (r.hierarchy.map fun h => ("hierarchy", h.report)).toList ++
    if r.distinct then [("distinct", .bool true)] else []

/-- A positive number, or the given one in its place. -/
def positiveOr (default n : Int) : Int :=
  if 0 < n then n else default

/-- The shape of a query's results. -/
def ofQuery (s : Schema) (entity : TypeExpr) (q : Query) : Except FilterError ResultShape := do
  let pageSize := positiveOr standardPageSize q.pageSize
  let orders ← q.orderings.mapM (SortKey.ofOrdering s entity)
  let includes ← Include.ofPaths s entity q.includes
  let hierarchy ← Hierarchy.ofPath? s entity q.hierarchy q.maxDepth
  return {
    skip := some (pageSize * (positiveOr firstPage q.page - 1))
    take := some pageSize
    orders := orders
    includes := includes
    hierarchy := hierarchy
    noTracking := q.noTracking }

end ResultShape

end Criteria
