import Criteria.Filter.Error
import Criteria.Query.Criterion

/-!
# Queries

A query says which entities are wanted and how they are returned: criteria,
orderings, a page, what is loaded beside the entities, and a relation that is
followed from entity to entity.

## Main definitions

* `OrderBy`: A field with a direction.
* `Query`: A query.
* `Query.allCriteria`: All criteria, nested ones included.
* `Query.criteriaOn`, `Query.criterionOn?`: The criteria about a field.
* `setDirection`: Orderings with the direction of a field set.
* `Query.clear`, `Query.clearField`: The query without anything, or without
  anything about a field.
-/

namespace Criteria

/-- A field with a direction. -/
structure OrderBy where
  field : String
  direction : Direction
  deriving DecidableEq, Inhabited

/-- The number of the first page. -/
def firstPage : Int := 1

/-- How many results a page has unless something else is asked for. -/
def standardPageSize : Int := 10

/-- How many levels of a hierarchy are followed unless something else is asked
    for. -/
def standardDepth : Int := 5

/-- A query. -/
structure Query where
  page : Int := firstPage
  pageSize : Int := standardPageSize
  /-- Results are snapshots that are not written back. -/
  noTracking : Bool := true
  /-- The query itself says whether results are tracked. -/
  trackingGiven : Bool := false
  orderings : List OrderBy := []
  filters : List Criterion := []
  /-- The paths that are loaded beside the entities. -/
  includes : List String := []
  /-- The relation that is followed from entity to entity. -/
  hierarchy : Option String := none
  maxDepth : Int := standardDepth

instance : Inhabited Query := ⟨{}⟩

/-- Orderings with the direction of a field set: its first ordering is changed,
    or one is added. -/
def setDirection (field : String) (direction : Direction) : List OrderBy → List OrderBy
  | [] => [⟨field, direction⟩]
  | o :: os =>
    if o.field = field then ⟨field, direction⟩ :: os else o :: setDirection field direction os

/-- Texts with one more, unless it is there already. -/
def addText (xs : List String) (x : String) : List String :=
  if xs.contains x then xs else xs ++ [x]

namespace Query

/-- All criteria, nested ones included. -/
def allCriteria (q : Query) : List Criterion :=
  Criterion.walkAll q.filters

/-- The criteria about a field, nested ones included. -/
def criteriaOn (q : Query) (field : String) : List Criterion :=
  q.allCriteria.filter (·.references field)

/-- The first criterion about a field, with a given operator if there is one. -/
def criterionOn? (q : Query) (field : String) (op : Option Operator) : Option Criterion :=
  (q.criteriaOn field).find? fun c => op.all (c.op == ·)

/-- The query asks for nothing beyond a page of everything. -/
def isEmpty (q : Query) : Bool :=
  q.filters.isEmpty && q.orderings.isEmpty && q.includes.isEmpty && (q.hierarchy.getD "").isEmpty

/-- The query orders by a field. -/
def ordersBy (q : Query) (field : String) : Bool :=
  q.orderings.any (·.field == field)

/-- The query with everything as in a new one. -/
def clear (_ : Query) : Query :=
  { trackingGiven := true }

/-- The criterion without the further criteria about a field. -/
def withoutField (field : String) (c : Criterion) : Criterion :=
  { c with filters := c.filters.filter fun n => !n.references field }

/-- The query without orderings, criteria, included paths and hierarchy of a
    field; of nested criteria only the further ones of a criterion are looked
    at. -/
def clearField (q : Query) (field : String) : Query :=
  let dropped := q.hierarchy == some field
  { q with
    orderings := q.orderings.filter (·.field != field)
    filters := (q.filters.filter fun c => !c.references field).map (withoutField field)
    includes := q.includes.filter (· != field)
    hierarchy := if dropped then none else q.hierarchy
    maxDepth := if dropped then standardDepth else q.maxDepth }

/-- The query without the top-level criteria about a field, or only those with a
    given operator. -/
def removeFilter (q : Query) (field : String) (op : Option Operator) : Query :=
  { q with filters := q.filters.filter fun c => !(c.references field && op.all (c.op == ·)) }

/-- The query with the direction of a field set. -/
def setOrdering (q : Query) (field : String) (direction : Direction) : Query :=
  { q with orderings := setDirection field direction q.orderings }

/-- The query without orderings by a field. -/
def removeOrdering (q : Query) (field : String) : Query :=
  { q with orderings := q.orderings.filter (·.field != field) }

/-- The query with one more included path. -/
def addInclude (q : Query) (path : String) : Query :=
  { q with includes := addText q.includes path }

/-- The query without an included path. -/
def removeInclude (q : Query) (path : String) : Query :=
  { q with includes := q.includes.filter (· != path) }

/-- The query with a hierarchy of at least one level. -/
def setHierarchy (q : Query) (path : Option String) (maxDepth : Int) : Except Refusal Query :=
  if maxDepth < 1 then .error .depthTooLow
  else .ok { q with hierarchy := path, maxDepth := maxDepth }

/-- The query for a page, counted from one. -/
def setPaging (q : Query) (page pageSize : Int) : Except Refusal Query :=
  if page < 1 then .error .pageTooLow
  else if pageSize < 1 then .error .pageSizeTooLow
  else .ok { q with page := page, pageSize := pageSize }

end Query

end Criteria
