import Criteria.Value.Equality

/-!
# Order of Values

How two values stand to each other: numbers by value, texts by code points,
dates and times along the calendar, lists by the first elements that differ,
sets by inclusion. Values of unlike types cannot be compared at all, nor can a
moment with an offset and one without.

## Main definitions

* `Relation`: How two values stand to each other.
* `Value.relate`: The relation of two values.
-/

namespace Criteria

/-- How two values that can be compared stand to each other. -/
inductive Relation where
  | less | equal | greater | unordered
  deriving DecidableEq, Inhabited

namespace Relation

/-- The relation an order stands for. -/
def ofOrdering : Ordering → Relation
  | .lt => .less
  | .eq => .equal
  | .gt => .greater

/-- The relation the other way round. -/
def flip : Relation → Relation
  | less => greater
  | greater => less
  | r => r

end Relation

namespace Value

/-- The value is a decimal number. -/
def isDecimal : Value → Bool
  | decimal _ => true
  | _ => false

/-- The relation of two numbers. Where a decimal takes part, an undefined result
    is an error; among the others it is unordered. -/
def relateNumbers (exact : Bool) (x y : Decimal) : Except Failure Relation :=
  match Decimal.compare? x y with
  | some o => .ok (.ofOrdering o)
  | none => if exact then .error .undefinedResult else .ok .unordered

/-- The order of two texts by code points. -/
def compareTexts (s t : String) : Ordering :=
  if s < t then .lt else if s = t then .eq else .gt

/-- The order of two byte sequences. -/
def compareBytes : List UInt8 → List UInt8 → Ordering
  | [], [] => .eq
  | [], _ :: _ => .lt
  | _ :: _, [] => .gt
  | a :: as, b :: bs => if a < b then .lt else if b < a then .gt else compareBytes as bs

/-- The order of two values on one scale, or a mismatch when the scale does not
    order them. -/
def relation? : Option Ordering → Except Failure Relation
  | some o => .ok (.ofOrdering o)
  | none => .error .mismatch

/-- The relation of two values that hold no others. -/
def relateScalars (a b : Value) : Except Failure Relation :=
  -- Numbers of all kinds share a scale, and so do texts; other kinds do not mix.
  match a.number?, b.number?, a.text?, b.text? with
  | some x, some y, _, _ => relateNumbers (a.isDecimal || b.isDecimal) x y
  | _, _, some s, some t => .ok (.ofOrdering (compareTexts s t))
  | _, _, _, _ =>
    match a, b with
    | bytes x, bytes y => .ok (.ofOrdering (compareBytes x y))
    | date x, date y => .ok (.ofOrdering (compare x.ordinal y.ordinal))
    | moment x, moment y =>
      if x.meets y then relation? (Moment.compare? x y) else .error .unreadable
    | clock x, clock y => relation? (ClockTime.compare? x y)
    | duration x, duration y => .ok (.ofOrdering (compare x.micros y.micros))
    | uuid x, uuid y => .ok (.ofOrdering (compare x.value y.value))
    | _, _ => .error .mismatch

/-- The relation of two sets by inclusion. -/
def relateSets (xs ys : List Value) : Relation :=
  match within xs ys, within ys xs with
  | true, true => .equal
  | true, false => .less
  | false, true => .greater
  | false, false => .unordered

mutual

/-- The relation of two values. -/
def relate : Value → Value → Except Failure Relation
  | list xs, list ys => relateAll xs ys
  | tuple xs, tuple ys => relateAll xs ys
  | set _ xs, set _ ys => .ok (relateSets xs ys)
  | a, b => relateScalars a b
termination_by structural a => a

/-- The relation of two lists: that of the first elements that differ, else that
    of the lengths. -/
def relateAll : List Value → List Value → Except Failure Relation
  | [], [] => .ok .equal
  | [], _ :: _ => .ok .less
  | _ :: _, [] => .ok .greater
  | x :: xs, y :: ys => if equal x y then relateAll xs ys else relate x y
termination_by structural xs => xs

end

end Value

end Criteria
