import Criteria.Number.Reading
import Criteria.Number.Shortest
import Criteria.Value.Basic

/-!
# Texts of Values

A value has two texts. Its literal shows what it is: texts in quotes, types and
parts of dates spelled out. Its display is what a reader of the value expects:
texts as they are, dates in their written form. Within a collection elements
appear as literals.

Not every value can be written. A whole number may have too many digits, and a
moment an offset that is none.

## Main definitions

* `Value.literal`: The literal of a value.
* `Value.display`: The displayed text of a value.
* `Value.hasLiteral`, `Value.hasDisplay`: The value can be written.
* `Value.write`: The displayed text of a value that can be written.
-/

namespace Criteria

namespace Value

/-- The arguments of a call, in parentheses. -/
def call (name : String) (arguments : List String) : String :=
  name ++ "(" ++ ", ".intercalate arguments ++ ")"

/-- The literal of a duration. -/
def durationLiteral (d : Duration) : String :=
  let seconds := d.rest.seconds
  let part (name : String) (n : Int) : List String :=
    if n = 0 then [] else [name ++ "=" ++ toString n]
  let parts := part "days" d.days ++ part "seconds" seconds ++ part "microseconds" d.rest.micro
  call "datetime.timedelta" (if parts.isEmpty then ["0"] else parts)

/-- The argument that names an offset. -/
def offsetArgument : Option Offset → List String
  | none => []
  | some o =>
    if o = .utc then ["tzinfo=datetime.timezone.utc"]
    else ["tzinfo=" ++ call "datetime.timezone" [durationLiteral ⟨o.micros⟩]]

/-- The parts of a time of day; seconds and microseconds only when they are not
    zero. -/
def timeArguments (t : TimeOfDay) : List String :=
  let tail : List Nat :=
    if t.micro ≠ 0 then [t.second, t.micro] else if t.second ≠ 0 then [t.second] else []
  (t.hour :: t.minute :: tail).map toString

/-- The parts of a date. -/
def dateArguments (d : Date) : List String :=
  [d.year, d.month, d.day].map toString

/-- The literal of what a member stands for. -/
def memberLiteral : EnumValue → String
  | .text s => Text.quoted s
  | .int n => toString n
  | .float x => x.text
  | .bool b => if b then "True" else "False"

/-- The literal of a value that holds no others. -/
def scalarLiteral : Value → String
  | null => "None"
  | bool b => if b then "True" else "False"
  | int n => toString n
  | float x => x.text
  | decimal d => call "Decimal" ["'" ++ d.text ++ "'"]
  | text s => Text.quoted s
  | bytes bs => Text.quotedBytes bs
  | date d => call "datetime.date" (dateArguments d)
  | moment m =>
    call "datetime.datetime"
      (dateArguments m.date ++ timeArguments m.time ++ offsetArgument m.offset)
  | clock c => call "datetime.time" (timeArguments c.time ++ offsetArgument c.offset)
  | duration d => durationLiteral d
  | uuid u => call "UUID" ["'" ++ u.text ++ "'"]
  | member m => "<" ++ m.type ++ "." ++ m.name ++ ": " ++ memberLiteral m.value ++ ">"
  | _ => ""

/-- A set between braces, named unless it is an ordinary set with elements. -/
def setLiteral (frozen : Bool) (items : List String) : String :=
  let body := "\x7b" ++ ", ".intercalate items ++ "\x7d"
  match frozen, items with
  | false, [] => "set()"
  | false, _ => body
  | true, [] => "frozenset()"
  | true, _ => call "frozenset" [body]

mutual

/-- The literal of a value. -/
def literal : Value → String
  | list xs => "[" ++ ", ".intercalate (literals xs) ++ "]"
  | tuple [x] => "(" ++ literal x ++ ",)"
  | tuple xs => "(" ++ ", ".intercalate (literals xs) ++ ")"
  | set frozen xs => setLiteral frozen (literals xs)
  | dict es => "\x7b" ++ ", ".intercalate (entryLiterals es) ++ "\x7d"
  | entity t .wrapper fs _ => call t (fieldLiterals false fs)
  | entity t .object _ _ => "<" ++ t ++ " object>"
  | entity t _ fs cs => call t (fieldLiterals true fs ++ fieldLiterals true cs)
  | v => scalarLiteral v
termination_by structural v => v

/-- The literals of the elements. -/
def literals : List Value → List String
  | [] => []
  | x :: xs => literal x :: literals xs
termination_by structural xs => xs

/-- The literals of the entries of a table. -/
def entryLiterals : List (Value × Value) → List String
  | [] => []
  | e :: es => entryLiteral e :: entryLiterals es
termination_by structural es => es

/-- The literal of an entry. -/
def entryLiteral : Value × Value → String
  | (k, v) => literal k ++ ": " ++ literal v
termination_by structural e => e

/-- The literals of fields, with or without their names. -/
def fieldLiterals (named : Bool) : List (String × Value) → List String
  | [] => []
  | e :: es => fieldLiteral named e :: fieldLiterals named es
termination_by structural es => es

/-- The literal of a field, with or without its name. -/
def fieldLiteral (named : Bool) : String × Value → String
  | (k, v) => if named then k ++ "=" ++ literal v else literal v
termination_by structural e => e

end

/-- The displayed text of an enumeration member. -/
def memberDisplay (m : EnumMember) : String :=
  match m.kind, m.value with
  | .integral, v => memberLiteral v
  | .wire, .text s => s
  | _, _ => m.type ++ "." ++ m.name

/-- The displayed text of a value. -/
def display : Value → String
  | text s => s
  | decimal d => d.text
  | date d => d.text
  | moment m => m.text
  | clock c => c.text
  | duration d => d.text
  | uuid u => u.text
  | member m => memberDisplay m
  | entity _ .model fs cs => " ".intercalate (fieldLiterals true fs ++ fieldLiterals true cs)
  | v => literal v

/-- A whole number can be written. -/
def hasNumeral (n : Int) : Bool :=
  Decimal.digitCount n.natAbs ≤ maxDigits

/-- What a member stands for has a literal. -/
def memberHasLiteral : EnumValue → Bool
  | .int n => hasNumeral n
  | _ => true

mutual

/-- The value has a literal: no whole number in it is too long. -/
def hasLiteral : Value → Bool
  | int n => hasNumeral n
  | member m => memberHasLiteral m.value
  | list xs | tuple xs | set _ xs => haveLiterals xs
  | dict es => entriesHaveLiterals es
  | entity _ .object _ _ => true
  | entity _ .wrapper fs _ => fieldsHaveLiterals fs
  | entity _ _ fs cs => fieldsHaveLiterals fs && fieldsHaveLiterals cs
  | _ => true
termination_by structural v => v

/-- The elements have literals. -/
def haveLiterals : List Value → Bool
  | [] => true
  | x :: xs => hasLiteral x && haveLiterals xs
termination_by structural xs => xs

/-- The entries of a table have literals. -/
def entriesHaveLiterals : List (Value × Value) → Bool
  | [] => true
  | e :: es => entryHasLiteral e && entriesHaveLiterals es
termination_by structural es => es

/-- An entry has a literal. -/
def entryHasLiteral : Value × Value → Bool
  | (k, v) => hasLiteral k && hasLiteral v
termination_by structural e => e

/-- The fields have literals. -/
def fieldsHaveLiterals : List (String × Value) → Bool
  | [] => true
  | e :: es => fieldHasLiteral e && fieldsHaveLiterals es
termination_by structural es => es

/-- A field has a literal. -/
def fieldHasLiteral : String × Value → Bool
  | (_, v) => hasLiteral v
termination_by structural e => e

end

/-- The value has a displayed text. -/
def hasDisplay : Value → Bool
  | moment m => m.isProper
  | member ⟨_, .integral, _, _, v⟩ => memberHasLiteral v
  | member _ => true
  | v => hasLiteral v

/-- The displayed text of a value that has one. -/
def write (v : Value) : Except Failure String :=
  if v.hasDisplay then .ok v.display else .error .unreadable

end Value

end Criteria
