import Criteria.Calendar.Relative
import Criteria.Number.Reading

/-!
# Intervals Written as Text

Lengths of time as people write them: `7d`, `1:30:00`, `1 day 2 hours`, or a bare
number of seconds.

The forms are tried in that order. Of the named units the first number before
each unit's name counts, wherever it stands in the text. Letters may be in any
case, and the long s and the two Turkish letters i count as the letters they look
like; but no unit has the long s for its letter.

## Main definitions

* `readShorthand?`: A number and a unit letter.
* `readColons?`: Hours, minutes and seconds joined by colons.
* `findUnit?`: The first number before a unit's name.
* `readInterval`: The length a text stands for.
-/

namespace Criteria

open Text

namespace Interval

/-- The decimal digits at the front, and the rest. -/
def digitRun (cs : List Char) : List Char × List Char :=
  (cs.takeWhile isDecimal, cs.dropWhile isDecimal)

/-- The small letter that a character looks like in some case. -/
def plainLetter (c : Char) : Char :=
  if c = 'ſ' then 's' else if c = 'ı' ∨ c = 'İ' then 'i' else c.toLower

/-- The microseconds of a unit named by a letter, if the character looks like such
    a letter. -/
def letterMicros? (c : Char) : Option (Except Failure Nat) :=
  match plainLetter c with
  | 'w' => some (.ok (7 * dayMicros))
  | 'd' => some (.ok dayMicros)
  | 'h' => some (.ok (3600 * secondMicros))
  | 'm' => some (.ok (60 * secondMicros))
  | 's' => some (if c = 'ſ' then .error .noKey else .ok secondMicros)
  | _ => none

/-- The value of a run of digits, if there are any and not too many. -/
def runValue (ds : List Char) : Except Failure Nat :=
  if maxDigits < ds.length then .error .unreadable else .ok (digitsValue ds)

/-- The length of a number of microseconds. -/
def ofMicros (n : Nat) : Except Failure Duration :=
  match Duration.of? n with
  | some d => .ok d
  | none => .error .overflow

/-- A number and a unit letter, with blanks between them. -/
def readShorthand? (cs : List Char) : Option (Except Failure Duration) :=
  let (ds, rest) := digitRun cs
  if ds.isEmpty then none
  else
    match rest.dropWhile isBlank with
    | [c] => (letterMicros? c).map fun unit => do
      let unit ← unit
      ofMicros ((← runValue ds) * unit)
    | _ => none

/-- Hours, minutes and seconds joined by colons. -/
def readColons? (cs : List Char) : Option (Except Failure Duration) :=
  match splitColons cs with
  | [hours, minutes, seconds] =>
    if [hours, minutes, seconds].all fun ds => !ds.isEmpty && ds.all isDecimal then
      some do
        let h ← runValue hours
        let m ← runValue minutes
        let s ← runValue seconds
        ofMicros (((h * 60 + m) * 60 + s) * secondMicros)
    else none
  | _ => none
where
  /-- The stretches between colons. -/
  splitColons (cs : List Char) : List (List Char) := cs.splitOn ':'

/-- The list starts with the word, in any letter case. -/
def startsWithWord (word cs : List Char) : Bool :=
  (cs.take word.length).map plainLetter == word

/-- The first number that stands before a unit's name. -/
def findUnit? (unit : List Char) : List Char → Option (List Char)
  | [] => none
  | c :: cs =>
    let (ds, rest) := digitRun (c :: cs)
    if !ds.isEmpty && startsWithWord unit (rest.dropWhile isBlank) then some ds
    else findUnit? unit cs

/-- The named units and their microseconds. -/
def namedUnits : List (String × Nat) :=
  [("day", dayMicros), ("hour", 3600 * secondMicros), ("minute", 60 * secondMicros),
    ("second", secondMicros)]

/-- The numbers found before the names of units, with the units' lengths. -/
def namedParts (cs : List Char) : List (List Char × Nat) :=
  namedUnits.filterMap fun (name, micros) => (findUnit? name.toList cs).map (·, micros)

/-- The sum of numbers of units. -/
def sumParts : List (List Char × Nat) → Except Failure Nat
  | [] => .ok 0
  | (ds, unit) :: parts => do
    let n ← runValue ds
    return n * unit + (← sumParts parts)

end Interval

/-- The length a text stands for; `none` when it has none of the forms. -/
def readInterval? (s : String) : Option (Except Failure Duration) :=
  let cs := trimChars s.toList
  -- The stricter forms come first: named units are found anywhere in a text.
  match Interval.readShorthand? cs with
  | some r => some r
  | none =>
    match Interval.readColons? cs with
    | some r => some r
    | none =>
      match Interval.namedParts cs with
      | [] =>
        -- A bare number counts seconds.
        match readBinary64? (String.ofList cs) with
        | some x => if x.isUndefined then none else some (Duration.ofSeconds x)
        | none => none
      | parts => some (do Interval.ofMicros (← Interval.sumParts parts))

end Criteria
