import Criteria.Number.Reading
import Criteria.Value.Temporal

/-!
# Transforms

What is done to the value of a field before it is compared.

## Main definitions

* `Transform`: A transform.
* `Transform.name`: The name it is reported under.
* `Transform.apply`: The transformed value.
-/

namespace Criteria

/-- What is done to the value of a field before it is compared. -/
inductive Transform where
  | ordinal | float | fold | timeOfDay | display | size
  deriving DecidableEq, Inhabited

namespace Transform

/-- The name a transform is reported under. -/
def name : Transform → String
  | ordinal => "ordinal"
  | float => "float"
  | fold => "casefold"
  | timeOfDay => "time_of_day"
  | display => "str"
  | size => "len"

/-- The transform with a name. -/
def ofName? (s : String) : Option Transform :=
  [ordinal, float, fold, timeOfDay, display, size].find? (·.name == s)

/-- The double a text stands for. -/
def readFloat (s : String) : Except Failure Binary64 :=
  (readBare? readBinary64? s).elim (.error .unreadable) .ok

/-- The double nearest to a number or to the number a text stands for. -/
def toFloat (v : Value) : Except Failure Binary64 :=
  match v with
  | .float x => .ok x
  | .decimal d => if d.isSignaling then .error .unreadable else .ok (Binary64.ofDecimal d)
  | .bytes bs => (textOfAscii? bs).elim (.error .unreadable) readFloat
  | v =>
    match v.number?, v.text? with
    | some (.finite negative n e), _ =>
      ((Decimal.finite negative n e).truncate?.bind Binary64.ofInt?).elim (.error .overflow) .ok
    | _, some s => readFloat s
    | _, _ => .error .mismatch

/-- The transformed value. -/
def apply : Transform → Value → Except Failure Value
  | ordinal, v => .ok v.ordinal
  | float, .null => .ok .null
  | float, v => (toFloat v).map .float
  | fold, .null => .ok .null
  | fold, v => v.write.map fun s => .text (Text.fold s)
  | timeOfDay, v => .ok v.timeOfDay
  | display, v => v.write.map .text
  | size, v => v.size?.elim (.error .mismatch) fun n => .ok (.int n)

end Transform

end Criteria
