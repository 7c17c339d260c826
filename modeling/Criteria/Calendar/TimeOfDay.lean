import Criteria.Calendar.Date

/-!
# Times of Day

The time of day to the microsecond, the offset of a place's clock from universal
time, and the two together.

A time of day is the number of microseconds since midnight, below the length of
a day; hours, minutes and seconds are read off it. The offset of a clock is less
than a day in either direction, but a text may name any other.

## Main definitions

* `TimeOfDay`: A time of day.
* `TimeOfDay.of?`: The time with the given hour, minute, second and microsecond.
* `Offset`: The distance of a local clock from universal time.
* `ClockTime`: A time of day, with or without an offset.
* `TimeOfDay.text`, `Offset.text`, `ClockTime.text`: The written forms.
-/

namespace Criteria

/-- The microseconds of a second. -/
def secondMicros : Nat := 1000000

/-- The microseconds of a day. -/
def dayMicros : Nat := 86400000000

/-- A time of day, in microseconds since midnight. -/
structure TimeOfDay where
  micros : Nat
  lt_day : micros < dayMicros
  deriving DecidableEq

namespace TimeOfDay

/-- The start of the day. -/
def midnight : TimeOfDay := ⟨0, by decide⟩

instance : Inhabited TimeOfDay := ⟨midnight⟩

/-- The time at the given microsecond of the day, counted around the clock. -/
def ofMicros (n : Nat) : TimeOfDay :=
  ⟨n % dayMicros, Nat.mod_lt _ (by decide)⟩

/-- The time with the given parts, if each is within its range. -/
def of? (hour minute second micro : Nat) : Option TimeOfDay :=
  if h : hour < 24 ∧ minute < 60 ∧ second < 60 ∧ micro < 1000000 then
    some ⟨((hour * 60 + minute) * 60 + second) * secondMicros + micro, by
      obtain ⟨h1, h2, h3, h4⟩ := h
      simp only [dayMicros, secondMicros]
      omega⟩
  else none

/-- The full seconds since midnight. -/
def seconds (t : TimeOfDay) : Nat := t.micros / secondMicros

/-- The hour. -/
def hour (t : TimeOfDay) : Nat := t.seconds / 3600

/-- The minute of the hour. -/
def minute (t : TimeOfDay) : Nat := t.seconds / 60 % 60

/-- The second of the minute. -/
def second (t : TimeOfDay) : Nat := t.seconds % 60

/-- The microsecond of the second. -/
def micro (t : TimeOfDay) : Nat := t.micros % secondMicros

/-- The written form; microseconds only when there are some. -/
def text (t : TimeOfDay) : String :=
  let whole := Date.padded 2 t.hour ++ ":" ++ Date.padded 2 t.minute ++ ":" ++
    Date.padded 2 t.second
  if t.micro = 0 then whole else whole ++ "." ++ Date.padded 6 t.micro

end TimeOfDay

/-- How far a local clock is ahead of universal time. -/
structure Offset where
  micros : Int
  deriving DecidableEq

namespace Offset

/-- Universal time. -/
def utc : Offset := ⟨0⟩

/-- The offset is less than a day, as that of a clock has to be. -/
def isProper (o : Offset) : Bool := o.micros.natAbs < dayMicros

/-- The offset of a number of microseconds, if it is less than a day. -/
def of? (micros : Int) : Option Offset :=
  if micros.natAbs < dayMicros then some ⟨micros⟩ else none

/-- The written form: sign, hours and minutes; seconds only when there are
    some. -/
def text (o : Offset) : String :=
  let t := TimeOfDay.ofMicros o.micros.natAbs
  let hm := Date.padded 2 t.hour ++ ":" ++ Date.padded 2 t.minute
  let tail := if t.micro ≠ 0 then ":" ++ Date.padded 2 t.second ++ "." ++ Date.padded 6 t.micro
    else if t.second ≠ 0 then ":" ++ Date.padded 2 t.second
    else ""
  (if o.micros < 0 then "-" else "+") ++ hm ++ tail

end Offset

/-- A time of day on a clock of unknown or of known offset. -/
structure ClockTime where
  time : TimeOfDay
  offset : Option Offset
  deriving DecidableEq, Inhabited

namespace ClockTime

/-- The written form. -/
def text (c : ClockTime) : String :=
  c.time.text ++ (c.offset.map Offset.text).getD ""

/-- Whole seconds since midnight of universal time, below zero or above a day
    when the offset carries over; with the microsecond of the second. -/
def universal (c : ClockTime) : Int × Nat :=
  match c.offset with
  | none => (c.time.seconds, c.time.micro)
  | some o => (c.time.seconds - o.micros / secondMicros, c.time.micro)

/-- The order of two times of day; one with an offset and one without have
    none. -/
def compare? (a b : ClockTime) : Option Ordering :=
  match a.offset, b.offset with
  | none, none => some (compare a.time.micros b.time.micros)
  | some o, some p =>
    if o = p then some (compare a.time.micros b.time.micros)
    else
      match compare a.universal.1 b.universal.1 with
      | .eq => some (compare a.universal.2 b.universal.2)
      | r => some r
  | _, _ => none

end ClockTime

end Criteria
