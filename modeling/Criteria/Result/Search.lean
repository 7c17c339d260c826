import Criteria.Compile.Basic
import Criteria.Result.Sorting

/-!
# Searching a Collection

What a query finds in a collection: the entities that meet all specifications,
sorted, and of these a page. Entities may be anything with a view as a value.

## Main definitions

* `slice`: The part of a list between two places.
* `selectBy`: The entities that meet all specifications.
* `ResultShape.apply`: The entities found, as a shape returns them.
* `Context.findAll`, `Context.countAll`: What a query finds, and how much.
-/

namespace Criteria

variable {α : Type}

/-- The place in a list of a given length that a number stands for; negative
    numbers count from the end. -/
def placeIn (length : Nat) (i : Int) : Nat :=
  if i < 0 then (i + length).toNat else i.toNat

/-- The part of a list from one place up to another one, or to its end. -/
def slice (start : Int) (stop : Option Int) (xs : List α) : List α :=
  let upTo := stop.elim xs fun n => xs.take (placeIn xs.length n)
  upTo.drop (placeIn xs.length start)

/-- The entities that meet all specifications. -/
def selectBy (s : Schema) (view : α → Value) (specs : List Spec) :
    List α → Except Fault (List α)
  | [] => .ok []
  | a :: as => do
    let accepted ← Spec.acceptsAll s specs (view a)
    let rest ← selectBy s view specs as
    return if accepted then a :: rest else rest

namespace ResultShape

/-- The page of a list that the shape returns. -/
def page (r : ResultShape) (xs : List α) : List α :=
  let start := r.skip.getD 0
  slice start (r.take.map (start + ·)) xs

/-- The entities that meet all specifications, as the shape returns them. -/
def apply (r : ResultShape) (s : Schema) (view : α → Value) (specs : List Spec)
    (items : List α) : Except Fault (List α) := do
  let found ← selectBy s view specs items
  return r.page (← passing (unworded (sortBy s view r.orders found)))

end ResultShape

namespace Context

/-- The specifications of a query, if there is one, followed by further ones. -/
def compileQuery (c : Context) (entity : TypeExpr) (q : Option Query) (further : List Spec) :
    Except Fault (List Spec) :=
  c.compile entity ((q.map (·.filters)).getD []) further

/-- What a query finds; no query at all finds what a new one does. -/
def findAll (c : Context) (entity : TypeExpr) (view : α → Value) (items : List α)
    (q : Option Query) (further : List Spec) : Except Fault (List α) := do
  -- The criteria are looked at before orderings and inclusions.
  let specs ← c.compileQuery entity q further
  let shape ← (ResultShape.ofQuery c.schema entity (q.getD {})).mapError Fault.filter
  shape.apply c.schema view specs items

/-- How much a query finds, on all pages. -/
def countAll (c : Context) (entity : TypeExpr) (view : α → Value) (items : List α)
    (q : Option Query) (further : List Spec) : Except Fault Nat := do
  let specs ← c.compileQuery entity q further
  return (← selectBy c.schema view specs items).length

end Context

end Criteria
