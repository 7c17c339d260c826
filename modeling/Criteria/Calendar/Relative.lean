import Criteria.Calendar.Moment
import Criteria.Failure
import Criteria.Number.Binary64

/-!
# Relative Moments

Moving a moment by calendar units, and instants counted from the epoch.

Minutes, hours, days and weeks are lengths of time. Months and years are steps of
the calendar: the day of the month is kept, or becomes the month's last day when
the month is too short; a year is twelve months.

Instants are counted in seconds, with a fraction, from the start of 1970 in
universal time. Numbers too large to be seconds are milliseconds.

## Main definitions

* `CalendarUnit`: The units a moment is moved by.
* `Moment.addMonths`: The moment a number of months later.
* `Moment.shift`: The moment a number of units later.
* `roundHalfEven`: A quotient rounded to the nearest integer.
* `Binary64.toMicros?`: A number of seconds in whole microseconds.
* `Moment.ofEpoch`: The instant at a number of seconds.
* `Duration.ofSeconds`: The length of a number of seconds.
-/

namespace Criteria

/-- A unit of the calendar or the clock. -/
inductive CalendarUnit where
  | minute | hour | day | week | month | year
  deriving DecidableEq, Inhabited

/-- The length of a unit of the clock, or the months of a unit of the
    calendar. -/
inductive Step where
  | micros (n : Int)
  | months (n : Int)

/-- How far a number of units is. -/
def CalendarUnit.step (amount : Int) : CalendarUnit → Step
  | .minute => .micros (amount * (60 * secondMicros))
  | .hour => .micros (amount * (3600 * secondMicros))
  | .day => .micros (amount * dayMicros)
  | .week => .micros (amount * (7 * dayMicros))
  | .month => .months amount
  | .year => .months (amount * 12)

namespace Moment

/-- Years beyond this bound are not even counted. -/
def maxCountedYear : Nat := 2147483647

/-- The moment a number of months later, on the same day of the month or the
    month's last day. -/
def addMonths (m : Moment) (months : Int) : Except Failure Moment :=
  let total : Int := m.date.year * 12 + (m.date.month - 1) + months
  let year := total / 12
  let month := (total % 12).toNat + 1
  let day := min m.date.day (daysInMonth year.toNat month)
  -- A year out of all bounds is told from one that only leaves the calendar.
  if maxCountedYear < year ∨ year < -(maxCountedYear : Int) - 1 then .error .overflow
  else if year < 1 then .error .unreadable
  else
    match Date.of? year.toNat month day with
    | some d => .ok { m with date := d }
    | none => .error .unreadable

/-- The moment a number of units later. -/
def shift (m : Moment) (unit : CalendarUnit) (amount : Int) : Except Failure Moment :=
  match unit.step amount with
  | .micros n =>
    match m.addMicros? n with
    | some r => .ok r
    | none => .error .overflow
  | .months n => m.addMonths n

end Moment

/-- A quotient rounded to the nearest integer, a half to the even one. -/
def roundHalfEven (num : Int) (den : Nat) : Int :=
  let n := Decimal.roundQuotient num.natAbs den
  if num < 0 then -(n : Int) else n

/-- A finite number of seconds in whole microseconds. The fraction of a second is
    scaled as a double before it is rounded. -/
def Binary64.toMicros? (x : Binary64) : Option Int :=
  x.toRatio?.map fun (num, den) =>
    let whole := num.tdiv den
    let fraction := Binary64.ofRatio (num < 0) ((num.tmod den).natAbs * secondMicros) den
    let (p, q) := fraction.toRatio?.getD (0, 1)
    whole * secondMicros + roundHalfEven p q

namespace Moment

/-- The day the epoch starts on. -/
def epochDay : Nat := 719163

/-- The first second no clock can hold. -/
def maxClock : Int := Nat.pow 2 63

/-- The last second whose year is counted. -/
def lastCountedSecond : Int := 67768036191676799

/-- The first second whose year is counted. -/
def firstCountedSecond : Int := -67768040609740800

/-- The instant at a number of seconds from the epoch. -/
def ofEpoch (seconds : Binary64) : Except Failure Moment :=
  match seconds.toMicros? with
  | none => .error (if seconds.isUndefined then .unreadable else .overflow)
  | some micros =>
    let whole := micros / secondMicros
    if maxClock ≤ whole ∨ whole < -maxClock then .error .overflow
    else if lastCountedSecond < whole ∨ whole < firstCountedSecond then .error .beyondClock
    else
      match ofWall? (epochDay * dayMicros + micros) (some .utc) with
      | some m => .ok m
      | none => .error .unreadable

/-- Numbers of this size and above count milliseconds. -/
def millisFrom : Binary64 := Binary64.ofNat 100000000000

/-- The number is too large to count seconds. -/
def isMillis (x : Binary64) : Bool :=
  let magnitude := match x with
    | .finite _ m e => .finite false m e
    | .infinite _ => .infinite false
    | .undefined => .undefined
  match Binary64.compare? magnitude millisFrom with
  | some .gt | some .eq => true
  | _ => false

/-- The instant at a number of seconds, or of milliseconds if the number is too
    large. -/
def ofEpochNumber (x : Binary64) : Except Failure Moment :=
  ofEpoch (if isMillis x then x.scale 1 1000 else x)

end Moment

/-- The length of a number of seconds. -/
def Duration.ofSeconds (seconds : Binary64) : Except Failure Duration :=
  match seconds.toMicros? with
  | none => .error (if seconds.isUndefined then .unreadable else .overflow)
  | some micros =>
    match Duration.of? micros with
    | some d => .ok d
    | none => .error .overflow

end Criteria
