import Criteria.Calendar.Relative
import Criteria.Number.Reading

/-!
# Dates and Times in Free Form

Reading dates as people write them: `31 January 2020 10:30`, `1/2/20`,
`Fri, 31 Jan 2020 10:00:00 GMT`.

The text is cut into words, numbers and marks. Numbers with colons, unit letters
or a half of the day beside them are times; all others, and names of months, are
collected and told apart at the end: by what is too large for a day or a month,
by the place of a month's name, and otherwise month first. What the text leaves
open is taken from the day on which it is read.

## Main definitions

* `Token`, `tokens`: The words, numbers and marks of a text.
* `Fields`: The numbers that may be year, month or day.
* `Fields.resolve`: Which of them is which.
* `Reading`: What has been read so far.
* `readFreeForm`: The moment a text stands for.
-/

namespace Criteria

open Text

namespace FreeForm

/-! ### Tokens -/

/-- What a token is made of so far. A dotted token mixes words or numbers with
    points and is cut up at its end. -/
inductive Shape where
  | word | number | dottedWord | dottedNumber
  deriving DecidableEq

/-- A token being read: its shape, its characters (latest first), and whether a
    word was seen in it. -/
structure Token where
  shape : Shape
  chars : List Char
  sawWord : Bool

/-- The token extended by a character, if the character belongs to it. -/
def Token.extend? (t : Token) (c : Char) : Option Token :=
  let push (shape : Shape) (word : Bool) : Option Token :=
    some ⟨shape, c :: t.chars, word || t.sawWord⟩
  let afterPoint := t.chars.head? == some '.'
  match t.shape with
  | .word =>
    if c.isAlpha then push .word true else if c == '.' then push .dottedWord true else none
  | .number =>
    if isDigit c then push .number false
    else if c == '.' || (c == ',' && 2 ≤ t.chars.length) then push .dottedNumber false
    else none
  | .dottedWord =>
    if c == '.' || c.isAlpha then push .dottedWord true
    else if isDigit c && afterPoint then push .dottedNumber true
    else none
  | .dottedNumber =>
    if c == '.' || isDigit c then push .dottedNumber false
    else if c.isAlpha && afterPoint then push .dottedWord false
    else none

/-- The pieces of a list around points and commas, which are pieces of their
    own; nothing empty. -/
def splitPoints : List Char → List (List Char)
  | [] => []
  | c :: cs =>
    if c == '.' || c == ',' then [c] :: splitPoints cs
    else
      match splitPoints cs with
      | (d :: ds) :: rest =>
        if d == '.' || d == ',' then [c] :: (d :: ds) :: rest else (c :: d :: ds) :: rest
      | rest => [c] :: rest

/-- The texts a finished token stands for. -/
def Token.finish (t : Token) : List (List Char) :=
  let cs := t.chars.reverse
  let dotted := t.shape == .dottedWord || t.shape == .dottedNumber
  let ragged := t.sawWord || 1 < cs.count '.' || t.chars.head? == some '.' ||
    t.chars.head? == some ','
  let pieces := if dotted && ragged then splitPoints cs else [cs]
  match pieces with
  | first :: rest =>
    let first :=
      if t.shape == .dottedNumber && first.count '.' == 0 then
        first.map fun c => if c == ',' then '.' else c
      else first
    first :: rest
  | [] => []

/-- A token started by a character; blanks and marks are tokens at once. -/
def startToken (c : Char) : Token ⊕ List Char :=
  if c.isAlpha then .inl ⟨.word, [c], false⟩
  else if isDigit c then .inl ⟨.number, [c], false⟩
  else if isBlank c then .inr [' ']
  else .inr [c]

/-- The texts of the tokens of a list, after a token that is being read. -/
def lex : Option Token → List Char → List (List Char)
  | none, [] => []
  | some t, [] => t.finish
  | current, c :: cs =>
    match current.bind (·.extend? c) with
    | some t => lex (some t) cs
    | none =>
      let done := (current.map Token.finish).getD []
      match startToken c with
      | .inl t => done ++ lex (some t) cs
      | .inr mark => done ++ mark :: lex none cs

/-- The tokens of a text. -/
def tokens (s : String) : List String :=
  (lex none s.toList).map String.ofList

/-! ### Words -/

/-- The place of a word in a list of groups of spellings, in any letter case. -/
def groupOf? (groups : List (List String)) (w : String) : Option Nat :=
  groups.findIdx? fun g => g.contains (lower w)

/-- Words and marks without meaning of their own. -/
def isFiller (w : String) : Bool :=
  [" ", ".", ",", ";", "-", "/", "'", "at", "on", "and", "ad", "m", "t", "of", "st", "nd", "rd",
    "th"].contains (lower w)

/-- The day of the week, Monday first. -/
def weekday? : String → Option Nat :=
  groupOf? [["mon", "monday"], ["tue", "tuesday"], ["wed", "wednesday"], ["thu", "thursday"],
    ["fri", "friday"], ["sat", "saturday"], ["sun", "sunday"]]

/-- The month, from one. -/
def month? (w : String) : Option Nat :=
  (groupOf? [["jan", "january"], ["feb", "february"], ["mar", "march"], ["apr", "april"],
    ["may"], ["jun", "june"], ["jul", "july"], ["aug", "august"], ["sep", "sept", "september"],
    ["oct", "october"], ["nov", "november"], ["dec", "december"]] w).map (· + 1)

/-- Hours, minutes or seconds, in that order. -/
def clockUnit? : String → Option Nat :=
  groupOf? [["h", "hour", "hours"], ["m", "minute", "minutes"], ["s", "second", "seconds"]]

/-- Before noon or after it. -/
def half? : String → Option Nat :=
  groupOf? [["am", "a"], ["pm", "p"]]

/-- The name is one of universal time. -/
def isUniversal (w : String) : Bool :=
  ["utc", "gmt", "z"].contains (lower w)

/-! ### Year, month and day -/

/-- A year of two digits, moved to within fifty years of today. -/
def widenYear (today : Date) (year : Nat) (full : Bool) : Nat :=
  if year < 100 ∧ !full then
    let near := today.year / 100 * 100 + year
    if today.year + 50 ≤ near then near - 100
    else if near + 50 < today.year then near + 100
    else near
  else year

/-- What a number is known to be. -/
inductive Role where
  | year | month
  deriving DecidableEq

/-- The numbers that may be year, month or day, in their order; which of them are
    known; and whether one was written as a full year. -/
structure Fields where
  values : List Nat := []
  yearAt : Option Nat := none
  monthAt : Option Nat := none
  full : Bool := false

/-- The fields with one more number, of a known role or of none. -/
def Fields.push? (f : Fields) (n : Nat) (role : Option Role) (full : Bool) : Option Fields :=
  let place := f.values.length
  if full ∧ role = some .month then none
  else
    let f' := { f with values := f.values ++ [n], full := f.full || full }
    match (if full then some .year else role) with
    | none => some f'
    | some .year => if f.yearAt.isSome then none else some { f' with yearAt := some place }
    | some .month => if f.monthAt.isSome then none else some { f' with monthAt := some place }

/-- The fields with one more number as it was written; more than two digits make
    it a full year. -/
def Fields.pushText? (f : Fields) (w : String) (role : Option Role) : Option Fields := do
  let n ← readInt? w
  if n < 0 then none
  else f.push? n.toNat role (w.toList.all isDigit && 2 < w.length)

/-- The fields with one more number by value; above a hundred it is a year. -/
def Fields.pushValue? (f : Fields) (d : Decimal) : Option Fields := do
  let n ← d.truncate?
  f.push? n.toNat none (Decimal.compare? d (.ofInt 100) == some .gt)

/-- A number that can still be a day. -/
def Fields.couldBeDay (f : Fields) (d : Decimal) : Bool :=
  let last := match f.monthAt, f.yearAt with
    | none, _ => 31
    | some m, none => daysInMonth 2000 (f.values.getD m 0)
    | some m, some y => daysInMonth (f.values.getD y 0) (f.values.getD m 0)
  Decimal.compare? d (.ofInt 1) != some .lt && Decimal.compare? d (.ofInt last) != some .gt

/-- Year, month and day, as far as they are known. -/
structure Ymd where
  year : Option Nat := none
  month : Option Nat := none
  day : Option Nat := none

/-- Which number is the year, the month and the day. -/
def Fields.resolve (f : Fields) : Option Ymd :=
  let at? (i : Option Nat) : Option Nat := i.bind (f.values[·]?)
  match f.values, f.yearAt, f.monthAt with
  | [], _, _ => some {}
  -- One or two numbers: a number above 31 is no day.
  | [_], some y, none => some { year := at? (some y) }
  | [_], none, some m => some { month := at? (some m) }
  | [a], _, _ => some (if 31 < a then { year := some a } else { day := some a })
  | [_, _], some y, some m => some { year := at? (some y), month := at? (some m) }
  | [a, b], _, some m =>
    let (month, other) := if m = 0 then (a, b) else (b, a)
    some (if 31 < other then { month := some month, year := some other }
      else { month := some month, day := some other })
  | [a, b], _, none =>
    some (if 31 < a then { year := some a, month := some b }
      else if 31 < b then { month := some a, year := some b }
      else { month := some a, day := some b })
  -- Three numbers: the places of two of them give the third.
  | [_, _, _], some y, some m => some ⟨at? (some y), at? (some m), at? (some (3 - y - m))⟩
  | [a, b, c], _, some 0 =>
    some (if 31 < b then ⟨some b, some a, some c⟩ else ⟨some c, some a, some b⟩)
  | [a, b, c], _, some 1 =>
    some (if 31 < a then ⟨some a, some b, some c⟩ else ⟨some c, some b, some a⟩)
  | [a, b, c], _, some _ =>
    some (if 31 < b then ⟨some b, some c, some a⟩ else ⟨some a, some c, some b⟩)
  -- No month by name: month first, unless it is no month or the year stands first.
  | [a, b, c], y, none =>
    some (if 31 < a ∨ y = some 0 then ⟨some a, some b, some c⟩
      else if 12 < a then ⟨some c, some b, some a⟩
      else ⟨some c, some a, some b⟩)
  | _, _, _ => none

/-! ### Reading -/

/-- What has been read so far. -/
structure Reading where
  fields : Fields := {}
  weekday : Option Nat := none
  hour : Option Nat := none
  minute : Option Nat := none
  second : Option Nat := none
  micro : Option Nat := none
  half : Option Nat := none
  zone : Option String := none
  offset : Option Int := none

/-- The non-negative number a text stands for. -/
def natOf? (w : String) : Option Nat := do
  let n ← readInt? w
  if n < 0 then none else some n.toNat

/-- The reading with a time of day in full. -/
def Reading.withTime (r : Reading) (hour minute second micro : Nat) : Reading :=
  { r with
    hour := some hour
    minute := some minute
    second := some second
    micro := some micro }

/-- The characters of a word from one place up to another. -/
def part (w : String) (start stop : Nat) : String :=
  String.ofList ((w.toList.take stop).drop start)

/-- An hour moved to its half of the day. -/
def adjustHalf (hour half : Nat) : Nat :=
  if hour < 12 ∧ half = 1 then hour + 12 else if hour = 12 ∧ half = 0 then 0 else hour

/-- Seconds with an optional fraction of which six digits count. -/
def secondsOf? (w : String) : Option (Nat × Nat) :=
  match w.splitOn "." with
  | [whole] => (natOf? whole).map (·, 0)
  | [whole, fraction] => do
    let s ← natOf? whole
    let ds := fraction.toList.take 6
    let micro ← natOf? (String.ofList (ds ++ List.replicate (6 - ds.length) '0'))
    return (s, micro)
  | _ => none

/-- The whole part of a number of units and, if there is a fraction, the whole
    sixtieths in it. -/
def sixtieths (d : Decimal) : Nat × Option Nat :=
  match d with
  | .finite _ c e =>
    if 0 ≤ e then (c * Nat.pow 10 e.toNat, none)
    else
      let unit := Nat.pow 10 (-e).toNat
      (c / unit, if c % unit = 0 then none else some (60 * (c % unit) / unit))
  | _ => (0, none)

/-- A number given to hours, minutes or seconds. -/
def Reading.assign? (r : Reading) (w : String) (d : Decimal) : Nat → Option Reading
  | 0 =>
    let (hour, minute) := sixtieths d
    some { r with hour := some hour, minute := if minute.isSome then minute else r.minute }
  | 1 =>
    let (minute, second) := sixtieths d
    some { r with minute := some minute, second := second }
  | 2 => (secondsOf? w).map fun (s, us) => { r with second := some s, micro := some us }
  | _ => some r

/-- Where the unit of the number at a place stands: after it, with or without a
    blank, or before it. -/
def unitPlace? (ts : Array String) (i : Nat) : Option Nat :=
  let isUnit (j : Nat) : Bool := ((ts[j]?).bind clockUnit?).isSome
  if isUnit (i + 1) then some (i + 1)
  else if ts[i + 1]? == some " " && isUnit (i + 2) then some (i + 2)
  else if 0 < i && isUnit (i - 1) then some (i - 1)
  else if 1 < i && i + 1 == ts.size && ts[i - 1]? == some " " && isUnit (i - 2) then some (i - 2)
  else none

/-- The tokens end at the place, or a filler stands there. -/
def endsOrFiller (ts : Array String) (i : Nat) : Bool :=
  match ts[i]? with
  | none => true
  | some w => isFiller w

/-- A number that is part of a date with a mark after it: the fields, and the
    last place used. -/
def readMarked? (ts : Array String) (i : Nat) (mark w : String) (f : Fields) :
    Option (Fields × Nat) := do
  let f ← f.pushText? w none
  match ts[i + 2]? with
  | none => return (f, i + 1)
  | some second =>
    if isFiller second then return (f, i + 1)
    else
      let f ← if second.toList.all isDigit then f.pushText? second none
        else do f.push? (← month? second) (some .month) false
      if ts[i + 3]? == some mark then
        let third ← ts[i + 4]?
        let f ← match month? third with
          | some m => f.push? m (some .month) false
          | none => f.pushText? third none
        return (f, i + 4)
      else return (f, i + 2)

/-- A bare hour, or hour and minute in four digits, behind a complete date. -/
def readBareTime? (i : Nat) (w : String) (r : Reading) : Option (Reading × Nat) := do
  let hour ← natOf? (part w 0 2)
  if w.length = 4 then
    let minute ← natOf? (part w 2 4)
    return ({ r with hour := some hour, minute := some minute }, i)
  else return ({ r with hour := some hour }, i)

/-- Six digits in a row: the parts of a date as long as none is known and no
    fraction follows, else a time of day. -/
def readSixDigits? (i : Nat) (w : String) (r : Reading) : Option (Reading × Nat) := do
  if r.fields.values.isEmpty ∧ !w.toList.contains '.' then
    let f ← r.fields.pushText? (part w 0 2) none
    let f ← f.pushText? (part w 2 4) none
    let f ← f.pushText? (part w 4 w.length) none
    return ({ r with fields := f }, i)
  else
    let hour ← natOf? (part w 0 2)
    let minute ← natOf? (part w 2 4)
    let (s, us) ← secondsOf? (part w 4 w.length)
    return (r.withTime hour minute s us, i)

/-- Eight, twelve or fourteen digits in a row: a date, then hour and minute, then
    the second. -/
def readCompact? (i : Nat) (w : String) (r : Reading) : Option (Reading × Nat) := do
  let f ← r.fields.pushText? (part w 0 4) (some .year)
  let f ← f.pushText? (part w 4 6) none
  let f ← f.pushText? (part w 6 8) none
  let r := { r with fields := f }
  if 8 < w.length then
    let hour ← natOf? (part w 8 10)
    let minute ← natOf? (part w 10 12)
    let r := { r with hour := some hour, minute := some minute }
    if 12 < w.length then
      let second ← natOf? (part w 12 w.length)
      return ({ r with second := some second }, i)
    else return (r, i)
  else return (r, i)

/-- An hour with minutes, and perhaps seconds, behind colons. -/
def readColonTime? (ts : Array String) (i hour : Nat) (r : Reading) :
    Option (Reading × Nat) := do
  let value ← readDecimal? (ts.getD (i + 2) "")
  -- Minutes without a whole part are refused.
  let _ ← value.truncate?
  let (minute, second) := sixtieths value
  let r := { r with hour := some hour, minute := some minute, second := second }
  if ts[i + 3]? == some ":" && i + 4 < ts.size then
    let (s, us) ← secondsOf? (ts.getD (i + 4) "")
    return ({ r with second := some s, micro := some us }, i + 4)
  else return (r, i + 2)

/-- A number with nothing after it that tells what it is: an hour if its half of
    the day follows, else a part of a date. -/
def readLoose? (ts : Array String) (i hour : Nat) (d : Decimal) (r : Reading) :
    Option (Reading × Nat) := do
  if endsOrFiller ts (i + 1) then
    -- The half of the day may stand behind a blank.
    match (ts[i + 2]?).bind half? with
    | some half => return ({ r with hour := some (adjustHalf hour half) }, i + 2)
    | none => return ({ r with fields := ← r.fields.pushValue? d }, i + 1)
  else
    match (ts[i + 1]?).bind half? with
    | some half =>
      if Decimal.compare? d (.ofInt 24) == some .lt then
        return ({ r with hour := some (adjustHalf hour half) }, i + 1)
      else if r.fields.couldBeDay d then return ({ r with fields := ← r.fields.pushValue? d }, i)
      else none
    | none =>
      if r.fields.couldBeDay d then return ({ r with fields := ← r.fields.pushValue? d }, i)
      else none

/-- The number is a time of day without marks: a date is complete, no hour is
    known, and nothing but a blank or a half of the day follows. -/
def isBareTime (next : Option String) (w : String) (r : Reading) : Bool :=
  r.fields.values.length = 3 && (w.length = 2 || w.length = 4) && r.hour.isNone &&
    (next.isNone || next = some " " || (next.bind half?).isSome)

/-- Reads the number at a place; the result holds the last place used. -/
def readNumber? (ts : Array String) (i : Nat) (w : String) (r : Reading) :
    Option (Reading × Nat) := do
  let d ← readDecimal? w
  let n ← d.truncate?
  let len := w.length
  let next := ts[i + 1]?
  -- Digits without marks are told apart by their count.
  if isBareTime next w r then readBareTime? i w r
  else if len = 6 ∨ (6 < len ∧ w.toList.idxOf '.' = 6) then readSixDigits? i w r
  else if len = 8 ∨ len = 12 ∨ len = 14 then readCompact? i w r
  else
    match unitPlace? ts i with
    | some j =>
      let unit ← (ts[j]?).bind clockUnit?
      -- Behind the unit of another number, this one counts the next smaller unit.
      let r ← r.assign? w d (if i < j then unit else unit + 1)
      return (r, if i < j then j else i)
    | none =>
      if next == some ":" && i + 2 < ts.size then readColonTime? ts i n.toNat r
      else if next == some "-" || next == some "/" || next == some "." then
        let (f, j) ← readMarked? ts i (next.getD "") w r.fields
        return ({ r with fields := f }, j)
      else readLoose? ts i n.toNat d r

/-- Reads what follows the name of a month. -/
def readMonth? (today : Date) (ts : Array String) (i m : Nat) (r : Reading) :
    Option (Reading × Nat) := do
  let f ← r.fields.push? m (some .month) false
  let next := ts[i + 1]?
  if next == some "-" || next == some "/" then
    let f ← f.pushText? (← ts[i + 2]?) none
    if ts[i + 3]? == next then
      let f ← f.pushText? (← ts[i + 4]?) none
      return ({ r with fields := f }, i + 4)
    else return ({ r with fields := f }, i + 2)
  -- "January of 99": the number is a year.
  else if i + 4 < ts.size && next == some " " && ts[i + 3]? == some " " &&
      lower (ts.getD (i + 2) "") == "of" then
    let f ← match natOf? (ts.getD (i + 4) "") with
      | some y => f.pushText? (toString (widenYear today y false)) (some .year)
      | none => some f
    return ({ r with fields := f }, i + 4)
  else return ({ r with fields := f }, i)

/-- A word that can name a zone: a time was read, no zone yet, and the word is
    short and in capitals. -/
def canBeZone (r : Reading) (offset : Option Int) (w : String) : Bool :=
  r.hour.isSome && r.zone.isNone && offset.isNone && w.length ≤ 5 &&
    (w.toList.all Char.isUpper || ["UTC", "GMT", "Z", "z"].contains w)

/-- Reads an offset in digits after its sign. -/
def readOffset? (ts : Array String) (i : Nat) (ahead : Bool) (r : Reading) :
    Option (Reading × Nat) := do
  let w ← ts[i + 1]?
  let (hours, minutes, j) ←
    if w.length = 4 then do
      pure (← natOf? (part w 0 2), ← natOf? (part w 2 4), i)
    else if ts[i + 2]? == some ":" then do
      pure (← natOf? w, ← natOf? (← ts[i + 3]?), i + 2)
    else if w.length ≤ 2 then do
      pure (← natOf? w, 0, i)
    else none
  let seconds : Int := hours * 3600 + minutes * 60
  let r := { r with offset := some (if ahead then seconds else -seconds) }
  -- A zone's name in brackets may follow.
  if j + 5 < ts.size && ((ts[j + 2]?).map isFiller).getD false && ts[j + 3]? == some "(" &&
      ts[j + 5]? == some ")" && 3 ≤ (ts.getD (j + 4) "").length &&
      canBeZone r none (ts.getD (j + 4) "") then
    return ({ r with zone := ts[j + 4]? }, j + 5)
  else return (r, j + 1)

/-- Reads the tokens from a place on, with the number of tokens as fuel. -/
def readFrom? (today : Date) : Nat → Array String → Nat → Reading → Option Reading
  | 0, _, _, r => some r
  | fuel + 1, ts, i, r =>
    match ts[i]? with
    | none => some r
    | some w =>
      let next (p : Reading × Nat) : Option Reading := readFrom? today fuel ts (p.2 + 1) p.1
      if (readBinary64? w).isSome then (readNumber? ts i w r).bind next
      else
        match weekday? w with
        | some d => next ({ r with weekday := some d }, i)
        | none =>
          match month? w with
          | some m => (readMonth? today ts i m r).bind next
          | none =>
            match half? w with
            | some half =>
              match r.hour with
              | some hour =>
                if hour ≤ 12 then
                  next ({ r with hour := some (adjustHalf hour half), half := some half }, i)
                else none
              | none => none
            | none =>
              if canBeZone r r.offset w then
                if ts[i + 1]? == some "+" || ts[i + 1]? == some "-" then
                  -- "GMT+3" says that three hours later it is that time in the zone.
                  let flipped := if ts[i + 1]? == some "+" then "-" else "+"
                  let zone := if isUniversal w then none else some w
                  readFrom? today fuel (ts.set! (i + 1) flipped) (i + 1)
                    { r with zone := zone, offset := none }
                else next ({ r with zone := some w }, i)
              else if r.hour.isSome && (w == "+" || w == "-") then
                (readOffset? ts i (w == "+") r).bind next
              else if isFiller w then next (r, i)
              else none

/-- The offset of what was read: universal time by name or by zero, a stated
    distance, or none. -/
def Reading.offset? (r : Reading) : Option (Option Offset) :=
  let named := (r.zone.map isUniversal).getD false
  match r.offset with
  | some seconds =>
    if named || seconds = 0 then some (some .utc)
    -- It need not be the offset of any clock.
    else (Duration.of? (seconds * secondMicros)).map fun d => some ⟨d.micros⟩
  | none => some (if named then some .utc else none)

/-- Nothing at all was read. -/
def Reading.isEmpty (r : Reading) : Bool :=
  r.fields.values.isEmpty && r.weekday.isNone && r.hour.isNone && r.minute.isNone &&
    r.second.isNone && r.micro.isNone && r.zone.isNone && r.offset.isNone

/-- The moment of what was read; what is open comes from today. -/
def Reading.toMoment (r : Reading) (today : Date) (ymd : Ymd) : Except Failure Moment := do
  let year := (ymd.year.map fun y => widenYear today y r.fields.full).getD today.year
  let month := ymd.month.getD today.month
  let day := ymd.day.getD (min today.day (daysInMonth year month))
  -- Without a day, the month has to be one before anything is counted.
  if ymd.day.isNone ∧ (month = 0 ∨ 12 < month) then throw .unreadable
  let parts := [year, month, day, r.hour.getD 0, r.minute.getD 0, r.second.getD 0]
  if parts.any (Moment.maxCountedYear < ·) then throw .overflow
  let some date := Date.of? year month day | throw .unreadable
  let some time := TimeOfDay.of? (r.hour.getD 0) (r.minute.getD 0) (r.second.getD 0)
    (r.micro.getD 0) | throw .unreadable
  let some offset := r.offset? | throw .overflow
  match r.weekday, ymd.day with
  -- A weekday without a day is the next such day, today included.
  | some w, none =>
    let some date := date.addDays? (((7 - date.weekday + w) % 7 : Nat) : Int)
      | throw .overflow
    return ⟨date, time, offset⟩
  | _, _ => return ⟨date, time, offset⟩

end FreeForm

open FreeForm in
/-- The moment a text in free form stands for, if it is read today. -/
def readFreeForm (today : Date) (s : String) : Except Failure Moment :=
  let ts := (tokens s).toArray
  match readFrom? today ts.size ts 0 {} with
  | none => .error .unreadable
  | some r =>
    match r.fields.resolve with
    | none => .error .unreadable
    | some ymd => if r.isEmpty then .error .unreadable else r.toMoment today ymd

end Criteria
