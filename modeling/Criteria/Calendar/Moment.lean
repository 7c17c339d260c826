import Criteria.Calendar.TimeOfDay

/-!
# Moments and Durations

A moment is a date with a time of day, with or without an offset; a duration is
a signed number of microseconds.

A moment with an offset stands for an instant of universal time; two such moments
compare by their instants. A moment without one is a reading of some wall clock,
and two of those compare as they stand.

## Main definitions

* `Moment`: A date and time of day, with or without an offset.
* `Moment.wall`: Microseconds on the wall clock.
* `Moment.instant`: Microseconds of universal time.
* `Moment.addMicros?`: The moment a number of microseconds later.
* `Moment.compare?`: The order of two moments.
* `Moment.meets`: Two moments can be compared.
* `Duration`: A signed length of time.
* `Moment.text`, `Duration.text`: The written forms.
-/

namespace Criteria

/-- A date and a time of day, with or without an offset. -/
structure Moment where
  date : Date
  time : TimeOfDay
  offset : Option Offset
  deriving DecidableEq, Inhabited

namespace Moment

/-- Microseconds on the wall clock since the day before the calendar. -/
def wall (m : Moment) : Int :=
  m.date.ordinal * dayMicros + m.time.micros

/-- The distance of the clock from universal time; zero for an unknown one. -/
def offsetMicros (m : Moment) : Int :=
  (m.offset.map Offset.micros).getD 0

/-- Microseconds of universal time; an unknown offset counts as none. -/
def instant (m : Moment) : Int :=
  m.wall - m.offsetMicros

/-- The moment at the given microsecond of the wall clock, if it is within the
    calendar. -/
def ofWall? (n : Int) (offset : Option Offset) : Option Moment :=
  (Date.ofOrdinal? (n / dayMicros)).map fun d =>
    ⟨d, TimeOfDay.ofMicros (n % dayMicros).toNat, offset⟩

/-- The moment a number of microseconds later on the same clock. -/
def addMicros? (m : Moment) (micros : Int) : Option Moment :=
  ofWall? (m.wall + micros) m.offset

/-- The start of a day. -/
def ofDate (d : Date) (offset : Option Offset) : Moment :=
  ⟨d, .midnight, offset⟩

/-- The order of two moments; one with an offset and one without have none. -/
def compare? (a b : Moment) : Option Ordering :=
  match a.offset, b.offset with
  | none, none => some (compare a.wall b.wall)
  | some _, some _ => some (compare a.instant b.instant)
  | _, _ => none

/-- The offset, if there is one, is less than a day. -/
def isProper (m : Moment) : Bool :=
  m.offset.all Offset.isProper

/-- The two moments can be compared: they have the same offset, or offsets that
    universal time can be told by. -/
def meets (a b : Moment) : Bool :=
  a.offset == b.offset || (a.isProper && b.isProper)

/-- The written form with the given mark between date and time. -/
def textWith (mark : String) (m : Moment) : String :=
  m.date.text ++ mark ++ m.time.text ++ (m.offset.map Offset.text).getD ""

/-- The displayed form. -/
def text (m : Moment) : String :=
  m.textWith " "

end Moment

/-- A signed length of time. -/
structure Duration where
  micros : Int
  deriving DecidableEq, Inhabited

namespace Duration

/-- Durations stay below this number of days in either direction. -/
def maxDays : Nat := 999999999

/-- The duration of a number of microseconds, if it is not too long. -/
def of? (micros : Int) : Option Duration :=
  let days := micros / dayMicros
  if -(maxDays : Int) ≤ days ∧ days ≤ maxDays then some ⟨micros⟩ else none

/-- The full days, rounded down. -/
def days (d : Duration) : Int := d.micros / dayMicros

/-- What is left beside the full days. -/
def rest (d : Duration) : TimeOfDay := TimeOfDay.ofMicros (d.micros % dayMicros).toNat

/-- The displayed form: full days, if any, then hours, minutes and seconds. -/
def text (d : Duration) : String :=
  let t := d.rest
  let clock := toString t.hour ++ ":" ++ Date.padded 2 t.minute ++ ":" ++ Date.padded 2 t.second ++
    (if t.micro = 0 then "" else "." ++ Date.padded 6 t.micro)
  if d.days = 0 then clock
  else toString d.days ++ (if d.days.natAbs = 1 then " day, " else " days, ") ++ clock

/-- The form used on the wire: years of 365 days and days, then hours, minutes
    and seconds, all that are zero left out. -/
def wireText (d : Duration) : String :=
  let n := d.micros.natAbs
  let part (k : Nat) (unit : String) : String := if k = 0 then "" else toString k ++ unit
  let t := TimeOfDay.ofMicros n
  let days := n / dayMicros
  let fraction := fractionText t.micro
  let clock :=
    part t.hour "H" ++ part t.minute "M" ++
      if t.second = 0 ∧ t.micro = 0 then "" else toString t.second ++ fraction ++ "S"
  (if d.micros < 0 then "-" else "") ++ "P" ++ part (days / 365) "Y" ++ part (days % 365) "D" ++
    if n = 0 then "T0S" else if t.micros = 0 then "" else "T" ++ clock
where
  /-- The microseconds after a point, without trailing zeros. -/
  fractionText (micro : Nat) : String :=
    if micro = 0 then ""
    else "." ++ String.ofList
      (((Date.padded 6 micro).toList.reverse.dropWhile (· == '0')).reverse)

end Duration

end Criteria
