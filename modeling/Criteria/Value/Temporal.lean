import Criteria.Calendar.Relative
import Criteria.Refusal
import Criteria.Value.Reading

/-!
# Comparing Dates and Times

Making two temporal values comparable, reducing them to a time of day, and
moving a moment by a number of units.

## Main definitions

* `Value.align`: Two values, brought to one kind of date or moment.
* `Value.timeOfDay`: The time of day of a temporal value.
* `CalendarUnit.read`: The unit a word stands for.
* `Moment.move`, `Value.shift`: The moment or date a number of units later.
-/

namespace Criteria

namespace Value

/-- A moment without an offset is one of universal time beside one that has an
    offset. -/
def alignMoments (a b : Moment) : Moment × Moment :=
  match a.offset, b.offset with
  | none, some _ => ({ a with offset := some .utc }, b)
  | some _, none => (a, { b with offset := some .utc })
  | _, _ => (a, b)

/-- Two values, brought to one kind: of a date and a moment the second follows
    the first, a date as the start of its day and a moment as its date. -/
def align (a b : Value) : Value × Value :=
  match a, b with
  | moment x, moment y =>
    let (x, y) := alignMoments x y
    (.moment x, .moment y)
  | moment x, date d => (a, .moment (.ofDate d x.offset))
  | date _, moment y => (a, .date y.date)
  | _, _ => (a, b)

/-- The time of day of a length of time, in whole seconds around the clock. -/
def durationClock (d : Duration) : TimeOfDay :=
  let seconds := (Binary64.ofRatio (d.micros < 0) d.micros.natAbs secondMicros).truncate?.getD 0
  TimeOfDay.ofMicros ((seconds % 86400).toNat * secondMicros)

/-- The time of day of a temporal value, without an offset; other values stay
    as they are. -/
def timeOfDay : Value → Value
  | moment m => clock ⟨m.time, none⟩
  | clock c => clock ⟨c.time, none⟩
  | duration d => clock ⟨durationClock d, none⟩
  | v => v

end Value

namespace CalendarUnit

/-- The units by their singular names. -/
def names : List (String × CalendarUnit) :=
  [("minute", minute), ("hour", hour), ("day", day), ("week", week), ("month", month),
    ("year", year)]

/-- A word without its final letters `s`. -/
def singular (word : String) : String :=
  String.ofList (Text.dropEndWhile (· == 's') word.toList)

/-- The unit a word stands for, in any case, singular or plural. -/
def read (word : String) : Except Refusal CalendarUnit :=
  expected (.calendarUnit (Text.quoted word))
    (names.lookup (singular (Text.lower (Text.trim word))))

end CalendarUnit

/-- The moment a number of units later. -/
def Moment.move (m : Moment) (word : String) (amount : Int) : Except Refusal Moment := do
  unworded (m.shift (← CalendarUnit.read word) amount)

/-- A number of units takes the start of a day to the start of a day. -/
def CalendarUnit.keepsMidnight (unit : CalendarUnit) (amount : Int) : Bool :=
  match unit.step amount with
  | .micros n => n % dayMicros == 0
  | .months _ => true

/-- The date or moment a number of units later. From a date, full days lead to a
    date again, and other lengths of time to a moment. -/
def Value.shift (v : Value) (word : String) (amount : Int) : Except Refusal Value := do
  let unit ← CalendarUnit.read word
  match v with
  | .moment m => return .moment (← unworded (m.shift unit amount))
  | .date d =>
    let m ← unworded ((Moment.ofDate d none).shift unit amount)
    return if unit.keepsMidnight amount then .date m.date else .moment m
  | _ => refuse .mismatch

end Criteria
