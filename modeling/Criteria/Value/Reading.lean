import Criteria.Calendar.ClockPattern
import Criteria.Calendar.FreeForm
import Criteria.Calendar.Interval
import Criteria.Calendar.Iso
import Criteria.Calendar.Relative
import Criteria.Refusal
import Criteria.Text.Listing
import Criteria.Value.Text

/-!
# Reading Values

What a loosely typed value stands for where a truth, a length of time, a date or
a list is wanted. A value of the wanted type stands for itself; of any other
value the displayed text is read.

## Main definitions

* `Value.readBool`: A truth.
* `Value.readDuration`: A length of time.
* `Value.readMoment`, `Value.readDate`, `Value.readTime`: A moment, a date, a
  time of day.
* `Value.readInstant`: A moment, written as a date or as seconds of the epoch.
* `Value.isDateOnly`: The value names a whole day.
* `Value.readList`: A list.
-/

namespace Criteria

namespace Value

/-- The displayed text without surrounding blanks. -/
def trimmed (v : Value) : String :=
  Text.trim v.display

/-- A truth: a number counts as true unless it is zero, a text has to be one of
    a few words. -/
def readBool (v : Value) : Except Refusal Bool :=
  match v, v.number? with
  | decimal _, _ | _, none =>
    let word := Text.lower v.trimmed
    if ["true", "1", "yes", "y", "on"].contains word then .ok true
    else if ["false", "0", "no", "n", "off"].contains word then .ok false
    else .error (.boolean v.literal)
  | _, some d => .ok !d.isZero

/-- A length of time. -/
def readDuration : Value → Except Refusal Duration
  | duration d => .ok d
  | v =>
    match readInterval? v.display with
    | some r => unworded r
    | none => .error (.interval v.display)

/-- A text in which the letter for universal time is spelled out as an offset. -/
def spellUniversal (text : String) : String :=
  String.ofList (text.toList.flatMap fun c => if c = 'Z' then "+00:00".toList else [c])

/-- The day on which the samples are read. -/
def sampleDay : Date := ⟨2024, 6, 15, by decide⟩

/-- The moment a text stands for: in the standard's form, where the letter for
    universal time may stand anywhere, or else written freely. What it leaves open
    comes from today. -/
def momentOfText (today : Date) (text : String) : Except Refusal Moment :=
  match readIsoMoment? (spellUniversal text) with
  | some m => .ok m
  | none => unworded (readFreeForm today text)

/-- A moment; a date stands for its start. -/
def readMoment (v : Value) (today : Date := sampleDay) : Except Refusal Moment :=
  match v with
  | moment m => .ok m
  | date d => .ok (.ofDate d none)
  | v => momentOfText today v.trimmed

/-- A date; a moment stands for its day. -/
def readDate (v : Value) (today : Date := sampleDay) : Except Refusal Date :=
  match v with
  | moment m => .ok m.date
  | date d => .ok d
  | v =>
    match readIsoDate? v.trimmed with
    | some d => .ok d
    | none => (momentOfText today v.trimmed).map Moment.date

/-- A time of day; a moment stands for the time on its clock. -/
def readTime : Value → Except Refusal ClockTime
  | moment m => .ok ⟨m.time, none⟩
  | clock c => .ok c
  | v => expected (.clock v.literal) (readClock? v.display)

/-- The text is a plain number, as seconds of the epoch are written. -/
def isEpochText (text : String) : Bool :=
  let body := match text.toList with
    | '-' :: cs => cs
    | cs => cs
  let whole := body.takeWhile Text.isDecimal
  match body.drop whole.length with
  | [] => !whole.isEmpty
  | '.' :: fraction => !whole.isEmpty && !fraction.isEmpty && fraction.all Text.isDecimal
  | _ => false

/-- A moment, written as a date or as a number of seconds of the epoch. -/
def readInstant (v : Value) (today : Date := sampleDay) : Except Refusal Moment :=
  let ofSeconds (x : Option Binary64) : Except Refusal Moment :=
    match x with
    | some x => unworded (Moment.ofEpochNumber x)
    | none => refuse .overflow
  match v with
  | moment m => .ok m
  | date d => .ok (.ofDate d none)
  | int n => ofSeconds (Binary64.ofInt? n)
  | member ⟨_, .integral, _, _, .int n⟩ => ofSeconds (Binary64.ofInt? n)
  | float x => ofSeconds (some x)
  | v =>
    let text := v.trimmed
    -- Digits alone are seconds, never a compact date.
    if text = "" then .error .emptyDate
    else if isEpochText text then ofSeconds (readBinary64? text)
    else momentOfText today text

/-- The text is four digits, two and two, with hyphens between them. -/
def isDateText (text : String) : Bool :=
  match text.toList with
  | [a, b, c, d, '-', e, f, '-', g, h] => [a, b, c, d, e, f, g, h].all Text.isDecimal
  | _ => false

/-- The value names a whole day. -/
def isDateOnly : Value → Bool
  | date _ => true
  | v => v.text?.elim false fun s => isDateText (Text.trim s)

/-- The items of a text; without separators every character is one. -/
def textItems (separators : List Char) (s : String) : List Value :=
  let items :=
    if separators.isEmpty then
      ((Text.unbracket (Text.trimChars s.toList)).map fun c => Text.bareItem [c])
    else Text.listItems separators s.toList
  items.map fun cs => text (String.ofList cs)

/-- An item without surrounding blanks, unless nothing is left of it. -/
def keptItem? (v : Value) : Option Value :=
  match v, v.text? with
  | null, _ => none
  | _, some s => if Text.isBlankText s then none else some (text (Text.trim s))
  | v, none => some v

/-- A list: of the elements of a collection, of the items of a text, or of the
    value alone. Blank items are left out. -/
def readList (separators : List Char) (v : Value) : List Value :=
  let items :=
    match v.elements?, v.text? with
    | some xs, _ => xs
    | none, some s => textItems separators s
    | none, none => [v]
  items.filterMap keptItem?

end Value

end Criteria
