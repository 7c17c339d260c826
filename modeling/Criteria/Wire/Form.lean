import Criteria.Number.Shortest
import Criteria.Value.Text

/-!
# Wire Forms

The form that a value takes on the wire, made of nulls, truths, numbers, texts,
lists and tables with text keys. Dates and times are written in the standard's
form, with a letter for universal time; members of enumerations are replaced by
what they stand for, and numbers that have no digits by null.

Models leave out their null fields, records keep them. Other entities have no
wire form.

## Main definitions

* `Value.wireKey`: A value as the key of a table.
* `Value.wire`: The wire form of a value.
-/

namespace Criteria

namespace Value

/-- An offset on the wire, in hours and minutes. -/
def wireOffset : Option Offset → String
  | none => ""
  | some o =>
    if o.micros.natAbs < secondMicros then "Z" else String.ofList (o.text.toList.take 6)

/-- A moment on the wire. -/
def wireMoment (m : Moment) : String :=
  m.date.text ++ "T" ++ m.time.text ++ wireOffset m.offset

/-- A time of day on the wire. -/
def wireClock (c : ClockTime) : String :=
  c.time.text ++ wireOffset c.offset

/-- The text that bytes stand for. -/
def textOfBytes (bs : List UInt8) : Except Failure String :=
  (String.fromUTF8? ⟨bs.toArray⟩).elim (.error .unreadable) .ok

/-- The wire form of a value that holds no others. -/
def wireScalar : Value → Except Failure Value
  | float x => .ok (match x with | .finite .. => float x | _ => null)
  | decimal d => .ok (text d.text)
  | bytes bs => (textOfBytes bs).map text
  | date d => .ok (text d.text)
  | moment m => .ok (text (wireMoment m))
  | clock c => .ok (text (wireClock c))
  | duration d => .ok (text d.wireText)
  | uuid u => .ok (text u.text)
  | member m => .ok m.value.toValue
  | v => .ok v

/-- The key that a value which holds no others is written as. -/
def wireKeyScalar : Value → Except Failure String
  | null => .ok "None"
  | bool b => .ok (if b then "true" else "false")
  | int n => .ok (toString n)
  | float x => .ok x.text
  | text s => .ok s
  | member m => .ok (match m.value with
    | .text s => s
    | .int n => toString n
    | .float x => x.text
    | .bool b => if b then "true" else "false")
  | v => do (← wireScalar v).text?.elim (.error .mismatch) .ok

mutual

/-- The key that a value is written as. -/
def wireKey : Value → Except Failure String
  | tuple xs => (wireKeys xs).map (",".intercalate ·)
  | v => wireKeyScalar v
termination_by structural v => v

/-- The keys that values are written as. -/
def wireKeys : List Value → Except Failure (List String)
  | [] => .ok []
  | x :: xs => do return (← wireKey x) :: (← wireKeys xs)
termination_by structural xs => xs

end

mutual

/-- The wire form of a value. -/
def wire : Value → Except Failure Value
  | list xs => (wireAll xs).map list
  | tuple xs => (wireAll xs).map list
  | set _ xs => (wireAll xs).map list
  | dict es => (wireEntries es).map table
  | entity _ .model fs cs => do return table ((← wireFields false fs) ++ (← wireFields false cs))
  | entity _ .record fs _ => (wireFields true fs).map table
  | entity _ _ _ _ => .error .unreadable
  | v => wireScalar v
termination_by structural v => v

/-- The wire forms of the elements. -/
def wireAll : List Value → Except Failure (List Value)
  | [] => .ok []
  | x :: xs => do return (← wire x) :: (← wireAll xs)
termination_by structural xs => xs

/-- The wire forms of the entries of a table. -/
def wireEntries : List (Value × Value) → Except Failure (List (String × Value))
  | [] => .ok []
  | e :: es => do return (← wireEntry e) :: (← wireEntries es)
termination_by structural es => es

/-- The wire form of an entry. -/
def wireEntry : Value × Value → Except Failure (String × Value)
  | (k, v) => do return (← wireKey k, ← wire v)
termination_by structural e => e

/-- The wire forms of fields, with or without those that are null. -/
def wireFields (keepNull : Bool) : List (String × Value) → Except Failure (List (String × Value))
  | [] => .ok []
  | e :: es => do return (← wireField keepNull e) ++ (← wireFields keepNull es)
termination_by structural es => es

/-- The wire form of a field, unless it is null and left out. -/
def wireField (keepNull : Bool) : String × Value → Except Failure (List (String × Value))
  | (k, v) => if v.isNull && !keepNull then .ok [] else (wire v).map fun w => [(k, w)]
termination_by structural e => e

end

end Value

end Criteria
