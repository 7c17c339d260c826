import Criteria.Schema.Basic
import Criteria.Value.Equality
import Criteria.Value.UuidParts

/-!
# Reading Members

What a value answers when it is asked for a member by name. Entities answer with
a stored field or a computed property, tables with the entry under that key, and
scalars with the parts they are made of. Whatever has no such member answers
null, and so does a property that itself asks for a missing member.

## Main definitions

* `Value.part?`: The parts of a scalar.
* `Schema.read`: The member of a value.
-/

namespace Criteria

namespace Value

/-- The parts of a number. -/
def numberPart? (name : String) (whole : Bool) (v zero one : Value) : Option Value :=
  match name with
  | "real" => some v
  | "imag" => some zero
  | "numerator" => if whole then some v else none
  | "denominator" => if whole then some one else none
  | _ => none

/-- The parts of a date. -/
def datePart? (d : Date) : String → Option Value
  | "year" => some (.int d.year)
  | "month" => some (.int d.month)
  | "day" => some (.int d.day)
  | _ => none

/-- The parts of a time of day. -/
def timePart? (t : TimeOfDay) : String → Option Value
  | "hour" => some (.int t.hour)
  | "minute" => some (.int t.minute)
  | "second" => some (.int t.second)
  | "microsecond" => some (.int t.micro)
  | "fold" => some (.int 0)
  | _ => none

/-- The parts of a duration. -/
def durationPart? (d : Duration) : String → Option Value
  | "days" => some (.int d.days)
  | "seconds" => some (.int d.rest.seconds)
  | "microseconds" => some (.int d.rest.micro)
  | _ => none

/-- The part of a scalar with a name. -/
def part? (v : Value) (name : String) : Option Value :=
  match v with
  | bool b => numberPart? name true (.int b.toInt) (.int 0) (.int 1)
  | int n => numberPart? name true (.int n) (.int 0) (.int 1)
  | float x => numberPart? name false (.float x) (.float (.ofNat 0)) .null
  | decimal d => numberPart? name false (.decimal d) (.decimal (.ofInt 0)) .null
  | date d => datePart? d name
  | moment m => (datePart? m.date name).orElse fun _ => timePart? m.time name
  | clock c => timePart? c.time name
  | duration d => durationPart? d name
  | uuid u => u.part? name
  | member m =>
    if name = "name" then some (.text m.name)
    else if name = "value" then some m.value.toValue
    else none
  | _ => none

end Value

namespace Schema

/-- The property of an entity type. -/
def property? (s : Schema) (type name : String) : Option Property :=
  (s.entity? type).bind fun e => e.properties.find? (·.name == name)

/-- The member of a value with a name, null if there is none. -/
def read (s : Schema) (v : Value) (name : String) : Except Failure Value :=
  match v with
  | .dict entries => .ok ((Value.lookup? entries (.text name)).getD .null)
  | .entity type _ fields _ =>
    match s.property? type name, fields.lookup name with
    | some p, _ =>
      match p.compute fields with
      | .error .noMember => .ok .null
      | r => r
    | none, some x => .ok x
    | none, none => .ok .null
  | v => .ok ((v.part? name).getD .null)

/-- The member of a value with a name, which must be there. -/
def readExisting (s : Schema) (v : Value) (name : String) : Except Failure Value :=
  match v with
  | .entity type _ fields _ =>
    match s.property? type name, fields.lookup name with
    | some p, _ => p.compute fields
    | none, some x => .ok x
    | none, none => .error .noMember
  | .dict _ => .error .noMember
  | v => (v.part? name).elim (.error .noMember) .ok

end Schema

end Criteria
