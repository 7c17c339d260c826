import Criteria.Calendar.Moment
import Criteria.Failure
import Criteria.Number.Binary64
import Criteria.Value.Uuid

/-!
# Values

What a field holds and what a filter compares it with.

A value is a scalar, a collection, a table or an entity. Members of enumerations
carry their own description, and entities their fields, so nothing about a value
has to be looked up to compare, order or print it. What an entity computes from
its fields belongs to the schema.

## Main definitions

* `EnumMember`: A member of an enumeration.
* `EntityForm`: How the entities of a type behave as values.
* `Value`: A value.
* `Value.number?`, `Value.text?`: The number or the text a value stands for.
* `Value.isTrue`: The value counts as true where a truth is asked for.
* `Value.typeName`: The name of the value's type.
* `Value.iterate`: The values met when going through a value.
* `Value.depth`: How deeply values are nested in a value.
* `Value.ordinal`: The value, with an enumeration member replaced by its rank.
-/

namespace Criteria

/-- How the members of an enumeration take part in comparisons. -/
inductive EnumKind where
  /-- A member equals itself only. -/
  | plain
  /-- A member is also the number it stands for. -/
  | integral
  /-- A member is also the text it stands for. -/
  | textual
  /-- A member is also the text it stands for, and is displayed as that text. -/
  | wire
  deriving DecidableEq, Inhabited

/-- What a member of an enumeration stands for: a text, a whole number, a double or a
    truth. These are the values that a payload can spell; enumerations of anything else,
    such as dates or tuples, are left out. -/
inductive EnumValue where
  | text (s : String)
  | int (n : Int)
  | float (x : Binary64)
  | bool (b : Bool)
  deriving DecidableEq, Inhabited

/-- A member of an enumeration. -/
structure EnumMember where
  type : String
  kind : EnumKind
  name : String
  /-- The place among the members, counted from zero. -/
  ordinal : Nat
  value : EnumValue
  deriving DecidableEq, Inhabited

/-- How the entities of a type behave as values. -/
inductive EntityForm where
  /-- A validated model, equal to a model of the same type with equal fields. -/
  | model
  /-- A record, equal to a record of the same type with equal fields. -/
  | record
  /-- A wrapper around one value. -/
  | wrapper
  /-- An object that equals itself only. -/
  | object
  deriving DecidableEq, Inhabited

/-- A value. -/
inductive Value where
  | null
  | bool (b : Bool)
  | int (n : Int)
  | float (x : Binary64)
  | decimal (d : Decimal)
  | text (s : String)
  | bytes (bs : List UInt8)
  | date (d : Date)
  | moment (m : Moment)
  | clock (c : ClockTime)
  | duration (d : Duration)
  | uuid (u : Uuid)
  | member (m : EnumMember)
  | list (xs : List Value)
  | tuple (xs : List Value)
  | set (frozen : Bool) (xs : List Value)
  | dict (entries : List (Value × Value))
  /-- An entity with its stored fields, and the computed ones it is shown
      with. -/
  | entity (type : String) (form : EntityForm) (fields computed : List (String × Value))
  deriving Inhabited

namespace EnumValue

/-- The value a member stands for. -/
def toValue : EnumValue → Value
  | text s => .text s
  | int n => .int n
  | float x => .float x
  | bool b => .bool b

/-- The whole number a member stands for; a truth counts as zero or one. -/
def int? : EnumValue → Option Int
  | int n => some n
  | bool b => some b.toInt
  | _ => none

end EnumValue

namespace Value

/-- A table with text keys. -/
def table (entries : List (String × Value)) : Value :=
  .dict (entries.map fun (k, v) => (.text k, v))

/-- The value is null. -/
def isNull : Value → Bool
  | null => true
  | _ => false

/-- The exact number a value stands for. -/
def number? : Value → Option Decimal
  | bool b => some (.ofInt b.toInt)
  | int n => some (.ofInt n)
  | float x => some x.toDecimal
  | decimal d => some d
  | member ⟨_, .integral, _, _, v⟩ => v.int?.map .ofInt
  | _ => none

/-- The text a value stands for. -/
def text? : Value → Option String
  | text s => some s
  | member ⟨_, .textual, _, _, .text s⟩ => some s
  | member ⟨_, .wire, _, _, .text s⟩ => some s
  | _ => none

/-- The elements of a list, a tuple or a set. -/
def elements? : Value → Option (List Value)
  | list xs | tuple xs | set _ xs => some xs
  | _ => none

/-- The name of the value's type. -/
def typeName : Value → String
  | null => "NoneType"
  | bool _ => "bool"
  | int _ => "int"
  | float _ => "float"
  | decimal _ => "Decimal"
  | text _ => "str"
  | bytes _ => "bytes"
  | date _ => "date"
  | moment _ => "datetime"
  | clock _ => "time"
  | duration _ => "timedelta"
  | uuid _ => "UUID"
  | member m => m.type
  | list _ => "list"
  | tuple _ => "tuple"
  | set frozen _ => if frozen then "frozenset" else "set"
  | dict _ => "dict"
  | entity type .. => type

/-- The number of things in the value, for values that hold or consist of
    things. -/
def size? : Value → Option Nat
  | bytes bs => some bs.length
  | list xs | tuple xs | set _ xs => some xs.length
  | dict es => some es.length
  | v => v.text?.map String.length

/-- The value counts as true where a truth is asked for: everything but null,
    zero and what holds nothing. -/
def isTrue (v : Value) : Bool :=
  match v with
  | null => false
  | duration d => d.micros != 0
  | _ =>
    match v.number?, v.size? with
    | some d, _ => !d.isZero
    | _, some n => n != 0
    | _, _ => true

/-- The value, with an enumeration member replaced by the whole number it stands
    for, or else by its place among the members. -/
def ordinal : Value → Value
  | member ⟨_, _, _, _, .int n⟩ => .int n
  | member ⟨_, _, _, _, .bool b⟩ => .bool b
  | member m => .int m.ordinal
  | v => v

/-- The value, with an enumeration member replaced by what it stands for. -/
def memberValue : Value → Value
  | member m => m.value.toValue
  | v => v

mutual

/-- How deeply values are nested in a value. -/
def depth : Value → Nat
  | list xs | tuple xs | set _ xs => depthAll xs + 1
  | dict es => depthEntries es + 1
  | _ => 0
termination_by structural v => v

/-- The greatest depth of the values. -/
def depthAll : List Value → Nat
  | [] => 0
  | x :: xs => max (depth x) (depthAll xs)
termination_by structural xs => xs

/-- The greatest depth of the entries of a table. -/
def depthEntries : List (Value × Value) → Nat
  | [] => 0
  | e :: es => max (depthEntry e) (depthEntries es)
termination_by structural es => es

/-- The depth of an entry. -/
def depthEntry : Value × Value → Nat
  | (k, v) => max (depth k) (depth v)
termination_by structural e => e

end

/-- The values met when going through a value one by one. -/
def iterate (v : Value) : Except Failure (List Value) :=
  match v with
  | list xs | tuple xs | set _ xs => .ok xs
  | dict es => .ok (es.map Prod.fst)
  | bytes bs => .ok (bs.map fun b => .int b.toNat)
  | entity _ .model fields _ => .ok (fields.map fun (k, x) => .tuple [.text k, x])
  | v =>
    match v.text? with
    | some s => .ok (s.toList.map fun c => .text (String.singleton c))
    | none => .error .mismatch

/-- The elements of a collection; what counts as false has none. -/
def elementsOrNone (v : Value) : Except Failure (List Value) :=
  if v.isTrue then v.iterate else .ok []

/-- The text keys of a table with their values. -/
def textEntries (entries : List (Value × Value)) : List (String × Value) :=
  entries.filterMap fun (k, v) => k.text?.map (·, v)

end Value

end Criteria
