import Criteria.Calendar.Moment

/-!
# Standard Date and Time Notation

Reading dates, times and moments in the numeric notation of the international
standard.

A date is a calendar date or a week date, each with hyphens or without. A time is
hours, then optionally minutes and seconds, with colons or without, then
optionally a fraction of which six digits count, then optionally an offset. A
moment is a date, one character of any kind, and a time.

Reading is lenient where a single character stands between a time and its offset:
whatever it is, it is passed over.

## Main definitions

* `takeNumber?`: A number of a fixed count of digits.
* `readDatePart?`: A date at the front of a list.
* `readClockPart?`: Hours, minutes, seconds and microseconds.
* `readIsoDate?`: The date a text stands for.
* `readIsoTime?`: The time of day a text stands for.
* `readIsoMoment?`: The moment a text stands for.
-/

namespace Criteria

namespace Iso

/-- The value of an ASCII digit. -/
def digit? (c : Char) : Option Nat :=
  if c.isDigit then some (c.toNat - '0'.toNat) else none

/-- A number of exactly `count` ASCII digits, continuing `acc`, and the rest. -/
def takeNumberFrom? : Nat → Nat → List Char → Option (Nat × List Char)
  | 0, acc, cs => some (acc, cs)
  | _ + 1, _, [] => none
  | count + 1, acc, c :: cs => do
    let d ← digit? c
    takeNumberFrom? count (10 * acc + d) cs

/-- A number of exactly `count` ASCII digits, and the rest. -/
def takeNumber? (count : Nat) (cs : List Char) : Option (Nat × List Char) :=
  takeNumberFrom? count 0 cs

/-- The list after a hyphen, if one is called for. -/
def skipHyphen? (wanted : Bool) (cs : List Char) : Option (List Char) :=
  if wanted then
    match cs with
    | '-' :: rest => some rest
    | _ => none
  else some cs

/-- The Monday of the first week of a year: the week with the year's first
    Thursday. -/
def firstMonday (year : Nat) : Int :=
  let newYear := Date.daysBeforeYear year + 1
  let weekday := Date.weekdayOf newYear
  if 3 < weekday then newYear - weekday + 7 else newYear - weekday

/-- The year has fifty-three weeks. -/
def hasLongWeeks (year : Nat) : Bool :=
  let weekday := Date.weekdayOf (Date.daysBeforeYear year + 1)
  weekday == 3 || (weekday == 2 && isLeapYear year)

/-- The date of a day of a week of a year. -/
def weekDate? (year week day : Nat) : Option Date :=
  if year = 0 ∨ week = 0 ∨ 53 < week ∨ (week = 53 ∧ !hasLongWeeks year) then none
  else if day = 0 ∨ 7 < day then none
  else Date.ofOrdinal? (firstMonday year + ((week - 1) * 7 + day - 1 : Nat))

/-- The date at the front of a list. -/
def readDatePart? (cs : List Char) : Option Date := do
  let (year, rest) ← takeNumber? 4 cs
  let hyphens := rest.head? == some '-'
  let rest := if hyphens then rest.drop 1 else rest
  match rest with
  | 'W' :: rest =>
    -- A week without a day stands for its Monday.
    let (week, rest) ← takeNumber? 2 rest
    if rest.isEmpty then weekDate? year week 1
    else
      let rest ← skipHyphen? hyphens rest
      let (day, _) ← takeNumber? 1 rest
      weekDate? year week day
  | _ =>
    let (month, rest) ← takeNumber? 2 rest
    let rest ← skipHyphen? hyphens rest
    let (day, _) ← takeNumber? 2 rest
    Date.of? year month day

/-- The length of a list of characters as stored. -/
def storedLength (cs : List Char) : Nat :=
  cs.foldl (fun n c => n + c.utf8Size) 0

/-- The date a list of characters stands for. -/
def readDateChars? (cs : List Char) : Option Date :=
  let n := storedLength cs
  if n = 7 ∨ n = 8 ∨ n = 10 then readDatePart? cs else none

/-- Hours, minutes, seconds and microseconds, and whether nothing was left
    over. -/
structure ClockPart where
  hour : Nat
  minute : Nat
  second : Nat
  micro : Nat
  clean : Bool

/-- The microseconds of a fraction, and whether only digits follow. -/
def readFraction? (cs : List Char) : Option (Nat × Bool) := do
  let count := min 6 cs.length
  let (n, rest) ← takeNumber? count cs
  return (n * Nat.pow 10 (6 - count), rest.all Char.isDigit)

/-- Reads `left` two-digit fields and then a fraction. The first field decides
    whether colons separate the fields; `done` holds the fields read so far, the
    latest first. -/
def readFields? : Nat → Option Bool → List Nat → List Char → Option (List Nat × Nat × Bool)
  | 0, _, done, cs => do
    let (micro, clean) ← readFraction? cs
    return (done.reverse, micro, clean)
  | left + 1, colons, done, cs => do
    let (n, rest) ← takeNumber? 2 cs
    let done := n :: done
    match rest with
    | [] => return (done.reverse, 0, true)
    | [c] => if c.toNat < 0x80 then return (done.reverse, 0, false) else none
    | c :: rest' =>
      -- The mark after the first field settles whether colons separate fields.
      let colons := colons.getD (c == ':')
      if colons && c == ':' then readFields? left (some colons) done rest'
      else if c == '.' || c == ',' then
        let (micro, clean) ← readFraction? rest'
        return (done.reverse, micro, clean)
      else if !colons then readFields? left (some colons) done rest
      else none

/-- Hours, then optionally minutes, seconds and a fraction. -/
def readClockPart? (cs : List Char) : Option ClockPart := do
  let (fields, micro, clean) ← readFields? 3 none [] cs
  return ⟨fields.getD 0 0, fields.getD 1 0, fields.getD 2 0, micro, clean⟩

/-- The character starts an offset. -/
def startsOffset (c : Char) : Bool :=
  c == '+' || c == '-' || c == 'Z'

/-- The offset a list of characters stands for. An offset of less than a second is
    universal time. -/
def readOffset? : List Char → Option Offset
  | 'Z' :: rest => if rest.isEmpty then some .utc else none
  | sign :: rest => do
    let p ← readClockPart? rest
    let seconds := (p.hour * 60 + p.minute) * 60 + p.second
    let micros := seconds * secondMicros + p.micro
    if !p.clean then none
    else if seconds = 0 then some .utc
    else Offset.of? (if sign == '-' then -(micros : Int) else micros)
  | [] => none

/-- A time of day with an optional offset. -/
def readClockChars? (cs : List Char) : Option ClockTime := do
  let p ← readClockPart? (cs.takeWhile fun c => !startsOffset c)
  match cs.dropWhile fun c => !startsOffset c with
  | [] =>
    if p.clean then
      let t ← TimeOfDay.of? p.hour p.minute p.second p.micro
      return ⟨t, none⟩
    else none
  | zone =>
    let offset ← readOffset? zone
    let t ← TimeOfDay.of? p.hour p.minute p.second p.micro
    return ⟨t, some offset⟩

/-- The length of the date at the front of a moment. A week date with hyphens
    may or may not have a day; a digit after the second hyphen's neighbour means
    that it starts a time. -/
def dateLength (cs : List Char) : Nat :=
  let at? (i : Nat) (p : Char → Bool) : Bool := (cs[i]?.map p).getD false
  if cs.length = 7 then 7
  else if at? 4 (· == '-') then
    if at? 5 (· == 'W') then
      -- A hyphen behind the week: a day, unless two more characters are a time.
      if at? 8 (· == '-') then (if at? 10 Char.isDigit then 8 else 10) else 8
    else 10
  else if at? 4 (· == 'W') then
    -- Without hyphens, the count of digits tells whether a day is among them.
    let stop := 7 + ((cs.drop 7).takeWhile Char.isDigit).length
    if stop < 9 then stop else if stop % 2 = 0 then 7 else 8
  else 8

/-- The moment a list of characters stands for. -/
def readMomentChars? (cs : List Char) : Option Moment :=
  if cs.length < 7 then none
  else
    let n := dateLength cs
    match readDatePart? (cs.take n) with
    | none => none
    | some date =>
      match cs.drop n with
      | [] => some ⟨date, .midnight, none⟩
      | _ :: rest => (readClockChars? rest).map fun c => ⟨date, c.time, c.offset⟩

end Iso

/-- The date a text stands for. -/
def readIsoDate? (s : String) : Option Date :=
  Iso.readDateChars? s.toList

/-- The time of day a text stands for; a leading `T` is passed over. -/
def readIsoTime? (s : String) : Option ClockTime :=
  match s.toList with
  | 'T' :: rest => Iso.readClockChars? rest
  | cs => Iso.readClockChars? cs

/-- The moment a text stands for. -/
def readIsoMoment? (s : String) : Option Moment :=
  Iso.readMomentChars? s.toList

end Criteria
