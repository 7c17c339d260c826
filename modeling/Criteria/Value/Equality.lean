import Criteria.Failure
import Criteria.Value.Basic

/-!
# Equality of Values

Numbers are equal by value, whatever their types; texts likewise, members that
stand for a text included. Collections of one shape are equal element by
element, sets and tables without regard to order. Two moments are equal when
they name one instant, and never when only one of them has an offset.

Equality is not reflexive: the undefined numbers differ from themselves, and
objects compared by identity are taken to be distinct.

## Main definitions

* `Value.equalScalar`: Equality of values that hold no others.
* `Value.equal`: Equality.
* `Value.contains`: Membership by equality.
* `Value.isHashable`: The value may be an element of a set or a key.
* `Value.dedupe`: The first of each group of equal values.
* `Value.lookup?`, `Value.setEntry`: The value under a key of a table, and the
  table with it set.
-/

namespace Criteria

namespace Value

/-- Equality of values that hold no others. -/
def equalScalar (a b : Value) : Bool :=
  match a.number?, b.number?, a.text?, b.text? with
  | some x, some y, _, _ => Decimal.compare? x y == some .eq
  | _, _, some s, some t => s == t
  | _, _, _, _ =>
    match a, b with
    | null, null => true
    | bytes x, bytes y => x == y
    | date x, date y => x == y
    | moment x, moment y => Moment.compare? x y == some .eq
    | clock x, clock y => ClockTime.compare? x y == some .eq
    | duration x, duration y => x == y
    | uuid x, uuid y => x == y
    | member x, member y => x.type == y.type && x.name == y.name
    | _, _ => false

mutual

/-- Equality. -/
def equal : Value → Value → Bool
  | list xs, list ys => equalAll xs ys
  | tuple xs, tuple ys => equalAll xs ys
  | set _ xs, set _ ys => xs.length == ys.length && within xs ys
  | dict es, dict fs => es.length == fs.length && entriesWithin es fs
  | entity t f fs _, entity u _ gs _ =>
    t == u && f != .object && fs.length == gs.length && fieldsWithin fs gs
  | a, b => equalScalar a b
termination_by structural a => a

/-- Equality of two lists, element by element. -/
def equalAll : List Value → List Value → Bool
  | [], [] => true
  | x :: xs, y :: ys => equal x y && equalAll xs ys
  | _, _ => false
termination_by structural xs => xs

/-- Every element of the first list equals one of the second. -/
def within : List Value → List Value → Bool
  | [], _ => true
  | x :: xs, ys => ys.any (fun y => equal x y) && within xs ys
termination_by structural xs => xs

/-- Every entry of the first table equals one of the second. -/
def entriesWithin : List (Value × Value) → List (Value × Value) → Bool
  | [], _ => true
  | e :: es, fs => fs.any (fun f => equalEntry e f) && entriesWithin es fs
termination_by structural es => es

/-- Equality of two entries, key and value. -/
def equalEntry : Value × Value → Value × Value → Bool
  | (k, v), f => equal k f.1 && equal v f.2
termination_by structural e => e

/-- Every field of the first list equals one of the second. -/
def fieldsWithin : List (String × Value) → List (String × Value) → Bool
  | [], _ => true
  | e :: es, fs => fs.any (fun f => equalField e f) && fieldsWithin es fs
termination_by structural es => es

/-- Equality of two fields, name and value. -/
def equalField : String × Value → String × Value → Bool
  | (k, v), f => k == f.1 && equal v f.2
termination_by structural e => e

end

/-- One of the values equals the given one. -/
def contains (xs : List Value) (v : Value) : Bool :=
  xs.any (equal v)

/-- A decimal that signals has no place in a comparison. -/
def signals : Value → Bool
  | decimal d => d.isSignaling
  | _ => false

/-- Moments have no place in a comparison where the offset of one is that of no
    clock. -/
def meets : Value → Value → Bool
  | moment x, moment y => x.meets y
  | _, _ => true

/-- Equality of two operands: a signalling decimal cannot even be compared with
    another number. -/
def equal? (a b : Value) : Except Failure Bool :=
  if (a.signals && b.number?.isSome) || (b.signals && a.number?.isSome) then
    .error .undefinedResult
  else if a.meets b then .ok (equal a b)
  else .error .unreadable

mutual

/-- The value may be an element of a set or a key of a table. -/
def isHashable : Value → Bool
  | list _ | dict _ => false
  | set frozen _ => frozen
  | tuple xs => allHashable xs
  | entity _ form _ _ => form == .object || form == .wrapper
  | decimal d => !d.isSignaling
  | _ => true
termination_by structural v => v

/-- Every value may be an element of a set. -/
def allHashable : List Value → Bool
  | [] => true
  | x :: xs => isHashable x && allHashable xs
termination_by structural xs => xs

end

/-- The values without those that equal an earlier one. -/
def dedupe (xs : List Value) : List Value :=
  xs.foldl (fun kept v => if contains kept v then kept else kept ++ [v]) []

/-- The value stored under a key of a table. -/
def lookup? (entries : List (Value × Value)) (key : Value) : Option Value :=
  (entries.find? fun e => equal key e.1).map Prod.snd

/-- The table with a value under a key. A key that is there stays as it is, and
    where it is. -/
def setEntry (key value : Value) : List (Value × Value) → List (Value × Value)
  | [] => [(key, value)]
  | e :: es => if equal key e.1 then (e.1, value) :: es else e :: setEntry key value es

end Value

end Criteria
