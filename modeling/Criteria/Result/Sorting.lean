import Criteria.Result.Shape
import Criteria.Value.Order

/-!
# Sorting

Results are sorted by one key after the other, the least significant key first.
Each pass keeps the order of results that it does not tell apart, ascending or
descending, so in the end the first key on which two results differ decides, and
results that differ on none stand as they did. Null comes before every value where
a key ascends, and after it where the key descends.

The values of every key have to be comparable with one another, even where
another key decides.

## Main definitions

* `relateKeys`: How two values of a sort key stand to each other.
* `SortKey.valueOf`: The value of a sort key.
* `SortKey.relation`: How two values stand to each other along a key's direction.
* `sortPass`: The results sorted by one key.
* `sortBy`: The results sorted by all keys.
-/

namespace Criteria

/-- How two values of a sort key stand to each other. -/
def relateKeys (a b : Value) : Except Failure Relation :=
  match a.isNull, b.isNull with
  | true, true => .ok .equal
  | true, false => .ok .less
  | false, true => .ok .greater
  | false, false => do if ← Value.equal? a b then return .equal else Value.relate a b

/-- The value of a sort key, with a member of an enumeration replaced by its
    rank. -/
def SortKey.valueOf (k : SortKey) (s : Schema) (v : Value) : Except Failure Value :=
  match k.accessor with
  | some a => (a.read s v).map Value.ordinal
  | none => (s.readExisting v k.field).map Value.ordinal

/-- Every two of the values are comparable. -/
def checkComparable : List Value → Except Failure Unit
  | [] => .ok ()
  | a :: as => do
    as.forM fun b => discard (relateKeys a b)
    checkComparable as

/-- How two comparable values stand to each other. -/
def relation (a b : Value) : Relation :=
  (relateKeys a b).toOption.getD .unordered

/-- How two values of the key stand to each other along its direction. -/
def SortKey.relation (k : SortKey) (a b : Value) : Relation :=
  if k.isDescending then (Criteria.relation a b).flip else Criteria.relation a b

/-- The first of two values of the key may come before the second. -/
def SortKey.mayPrecede (k : SortKey) (a b : Value) : Bool :=
  k.relation a b != .greater

variable {α : Type}

/-- The results sorted by one key, if its values can be read and compared. -/
def sortPass (s : Schema) (view : α → Value) (k : SortKey) (items : List α) :
    Except Failure (List α) := do
  let keys ← items.mapM fun a => k.valueOf s (view a)
  checkComparable keys
  -- Merge sort keeps the order of results with equal keys.
  return ((keys.zip items).mergeSort fun a b => k.mayPrecede a.1 b.1).map Prod.snd

/-- The results sorted by all keys, of which the least significant one comes
    first. -/
def sortBy (s : Schema) (view : α → Value) : List SortKey → List α → Except Failure (List α)
  | [], items => .ok items
  | k :: ks, items => do sortPass s view k (← sortBy s view ks items)

end Criteria
