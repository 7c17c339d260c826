import Criteria.Calendar.Iso
import Criteria.Number.Reading

/-!
# Times of Day Written by Pattern

Times of day on the clock of twenty-four hours and on the clock of twelve, with
and without seconds.

A pattern is a list of pieces. A piece may match in several ways (`1` or `12` as an
hour), tried in a fixed order; the first way in which the whole pattern matches
counts, and it has to use up the text. A text no pattern reads may still be in
standard notation.

## Main definitions

* `Piece`: One part of a pattern.
* `Piece.ways`: The ways a piece matches at the front of a list.
* `matchPattern`: The first way a pattern matches.
* `clockPatterns`: The patterns in the order they are tried.
* `readClock?`: The time of day a text stands for.
-/

namespace Criteria

open Text

namespace ClockPattern

/-- A part of a pattern: a number in some range, a fraction of a second, the half
    of the day, a run of blanks or a fixed character. -/
inductive Piece where
  | hour24 | hour12 | minute | second | fraction | half | blanks
  | mark (c : Char)

/-- What the pieces matched so far say. -/
structure Found where
  hour : Nat := 0
  minute : Nat := 0
  second : Nat := 0
  micro : Nat := 0
  afternoon : Option Bool := none

/-- The character is one of the ASCII digits from `lo` to `hi`. -/
def digitIn (lo hi c : Char) : Bool := lo ≤ c && c ≤ hi

/-- Two digits at the front, each accepted by its test, as a number. -/
def twoDigits (first second : Char → Bool) : List Char → List (Nat × List Char)
  | a :: b :: rest => if first a && second b then [(digitsValue [a, b], rest)] else []
  | _ => []

/-- One digit at the front, accepted by the test. -/
def oneDigit (first : Char → Bool) : List Char → List (Nat × List Char)
  | a :: rest => if first a then [(digitsValue [a], rest)] else []
  | _ => []

/-- The longest run of at most six ASCII digits first, then shorter ones, as
    microseconds. -/
def fractions (cs : List Char) : List (Nat × List Char) :=
  let longest := ((cs.take 6).takeWhile Char.isDigit).length
  (List.range longest).reverse.map fun n =>
    (digitsValue (cs.take (n + 1)) * Nat.pow 10 (5 - n), cs.drop (n + 1))

/-- The longest run of blanks first, then shorter ones. -/
def blankRuns (cs : List Char) : List (List Char) :=
  (List.range (cs.takeWhile isBlank).length).reverse.map fun n => cs.drop (n + 1)

/-- The ways a piece matches at the front of a list. -/
def Piece.ways (f : Found) (cs : List Char) : Piece → List (Found × List Char)
  | .hour24 =>
    (twoDigits (· == '2') (digitIn '0' '3') cs ++ twoDigits (digitIn '0' '1') isDecimal cs ++
      oneDigit isDecimal cs).map fun (n, r) => ({ f with hour := n }, r)
  | .hour12 =>
    (twoDigits (· == '1') (digitIn '0' '2') cs ++ twoDigits (· == '0') (digitIn '1' '9') cs ++
      oneDigit (digitIn '1' '9') cs).map fun (n, r) => ({ f with hour := n }, r)
  | .minute =>
    (twoDigits (digitIn '0' '5') isDecimal cs ++ oneDigit isDecimal cs).map fun (n, r) =>
      ({ f with minute := n }, r)
  | .second =>
    -- Leap seconds match, though no time of day holds them.
    (twoDigits (· == '6') (digitIn '0' '1') cs ++ twoDigits (digitIn '0' '5') isDecimal cs ++
      oneDigit isDecimal cs).map fun (n, r) => ({ f with second := n }, r)
  | .fraction => (fractions cs).map fun (n, r) => ({ f with micro := n }, r)
  | .half =>
    match cs with
    | 'A' :: 'M' :: rest => [({ f with afternoon := some false }, rest)]
    | 'P' :: 'M' :: rest => [({ f with afternoon := some true }, rest)]
    | _ => []
  | .blanks => (blankRuns cs).map fun r => (f, r)
  | .mark c =>
    match cs with
    | d :: rest => if d == c then [(f, rest)] else []
    | [] => []

/-- The first way a pattern matches at the front of a list. -/
def matchPattern : List Piece → Found → List Char → Option (Found × List Char)
  | [], f, cs => some (f, cs)
  | p :: ps, f, cs => (p.ways f cs).findSome? fun (f', rest) => matchPattern ps f' rest

/-- The hour of the day, from an hour of a half of the day. -/
def Found.hourOfDay (f : Found) : Nat :=
  match f.afternoon with
  | none => f.hour
  | some false => if f.hour = 12 then 0 else f.hour
  | some true => if f.hour = 12 then 12 else f.hour + 12

/-- The time a pattern reads from a whole list. -/
def readPattern? (cs : List Char) (pattern : List Piece) : Option TimeOfDay :=
  match matchPattern pattern {} cs with
  | some (f, []) => TimeOfDay.of? f.hourOfDay f.minute f.second f.micro
  | _ => none

/-- The patterns in the order they are tried. -/
def clockPatterns : List (List Piece) :=
  let colon := Piece.mark ':'
  [[.hour24, colon, .minute, colon, .second],
    [.hour24, colon, .minute],
    [.hour24, colon, .minute, colon, .second, .mark '.', .fraction],
    [.hour12, colon, .minute, colon, .second, .blanks, .half],
    [.hour12, colon, .minute, .blanks, .half],
    [.hour12, colon, .minute, colon, .second, .half],
    [.hour12, colon, .minute, .half],
    [.hour12, .blanks, .half],
    [.hour12, .half]]

end ClockPattern

/-- The time of day a text stands for: by pattern, else in standard notation. -/
def readClock? (s : String) : Option ClockTime :=
  let text := upper (trim s)
  match ClockPattern.clockPatterns.findSome? (ClockPattern.readPattern? text.toList) with
  | some t => some ⟨t, none⟩
  | none => readIsoTime? text

end Criteria
