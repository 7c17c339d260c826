import Criteria.Failure
import Criteria.Number.Reading
import Criteria.Value.Basic

/-!
# Whole Parts of Values

The whole number that a value stands for where a count is wanted: the number
itself with its fraction cut off, or the number that a text consists of.

## Main definitions

* `Value.whole`: The whole number a value stands for.
-/

namespace Criteria

namespace Value

/-- The whole part of a number. -/
def wholePart : Decimal → Except Failure Int
  | .undefined .. => .error .unreadable
  | d => d.truncate?.elim (.error .overflow) .ok

/-- The whole number that a text consists of. -/
def wholeOfDigits (s : String) : Except Failure Int :=
  (readBare? readInt? s).elim (.error .unreadable) .ok

/-- The whole number a value stands for. -/
def whole (v : Value) : Except Failure Int :=
  match v with
  | bytes bs => (textOfAscii? bs).elim (.error .unreadable) wholeOfDigits
  | uuid u => .ok u.value
  | v =>
    match v.number?, v.text? with
    | some d, _ => wholePart d
    | none, some s => wholeOfDigits s
    | none, none => .error .mismatch

end Value

end Criteria
