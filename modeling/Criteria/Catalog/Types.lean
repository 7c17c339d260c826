import Criteria.Filter.Operator
import Criteria.Schema.Basic
import Criteria.Value.Reading

/-!
# The Sample Schema

Enumerations and entity types with a member of every kind of type: people who
work and live somewhere, gadgets made of parts, shifts, ledgers with entries,
and a few small types for what is left.

## Main definitions

* `Catalog.schema`: The sample schema.
-/

namespace Criteria

namespace Catalog

/-- The state of an employment. -/
def employmentStatus : EnumType :=
  ⟨"EmploymentStatus", .plain,
    [("ACTIVE", .text "active"), ("ON_LEAVE", .text "on_leave"),
      ("TERMINATED", .text "terminated")], []⟩

/-- Priorities, which are numbers. -/
def priority : EnumType :=
  ⟨"Priority", .integral, [("LOW", .int 1), ("MEDIUM", .int 5), ("HIGH", .int 10)], []⟩

/-- Colours, which are texts; one of them is spelled like the name of another. -/
def color : EnumType :=
  ⟨"Color", .textual, [("RED", .text "r"), ("GREEN", .text "g"), ("BLUE", .text "RED")],
    [("CRIMSON", "RED")]⟩

/-- Codes that read like numbers. -/
def code : EnumType :=
  ⟨"Code", .plain,
    [("ZERO", .text "1"), ("ONE", .text "0"), ("TWO", .text "2nd"),
      ("HALF", .float (Binary64.ofRatio false 1 2))], []⟩

/-- Members that stand for values of several types. -/
def mixed : EnumType :=
  ⟨"Mixed", .plain, [("NUM", .int 7), ("WORD", .text "seven"), ("FLAG", .bool false)], []⟩

/-- A member of an enumeration by name. -/
def memberOf (e : EnumType) (name : String) : Value :=
  ((e.member? name).map Value.member).getD .null

/-- A type, or null. -/
def optional (t : TypeExpr) : TypeExpr :=
  .union [t, .named .null]

/-- A list of a type. -/
def listOf (t : TypeExpr) : TypeExpr :=
  .generic .list [t]

/-- An entity type by name. -/
def entityNamed (name : String) : TypeExpr :=
  .named (.entity name)

/-- A field without a default. -/
def required (name : String) (type : TypeExpr) : Field :=
  ⟨name, type, none, true⟩

/-- A field with a default. -/
def withDefault (name : String) (type : TypeExpr) (default : Value) : Field :=
  ⟨name, type, some default, true⟩

/-- A field that is null unless something else is given. -/
def nullable (name : String) (type : TypeExpr) : Field :=
  ⟨name, optional type, some .null, true⟩

/-- The text type. -/
def textType : TypeExpr := .named .text

/-- The type of whole numbers. -/
def intType : TypeExpr := .named .int

/-- The type of decimal numbers. -/
def decimalType : TypeExpr := .named .decimal

/-- An address. -/
def address : EntityType where
  name := "Address"
  form := .model
  parent := none
  fields := [required "street" textType, required "city" textType, nullable "zip_code" textType]
  properties := []
  convert := none

/-- A field that a property needs. -/
def needed (fields : List (String × Value)) (name : String) : Except Failure Value :=
  (fields.lookup name).elim (.error .noMember) .ok

/-- The text of a field that a property needs. -/
def neededText (fields : List (String × Value)) (name : String) : Except Failure String := do
  (← needed fields name).text?.elim (.error .mismatch) .ok

/-- The full name of a person: first and last name with a space between them. -/
def fullName : Property where
  name := "full_name"
  type := textType
  shown := false
  compute := fun fields => do
    let first ← neededText fields "first_name"
    let last ← neededText fields "last_name"
    return .text (first ++ " " ++ last)

/-- The fields of a person. -/
def personFields : List Field :=
  [required "id" intType,
    required "first_name" textType,
    required "last_name" textType,
    required "age" intType,
    nullable "email" textType,
    withDefault "status" (.named (.enum "EmploymentStatus")) (memberOf employmentStatus "ACTIVE"),
    withDefault "priority" (.named (.enum "Priority")) (memberOf priority "LOW"),
    nullable "birth_date" (.named .date),
    nullable "created_at" (.named .moment),
    nullable "work_start_time" (.named .clock),
    nullable "salary" decimalType,
    withDefault "tags" (listOf textType) (.list []),
    withDefault "scores" (listOf intType) (.list []),
    withDefault "addresses" (listOf (entityNamed "Address")) (.list []),
    nullable "manager" (entityNamed "Person")]

/-- A person. -/
def person : EntityType where
  name := "Person"
  form := .model
  parent := none
  fields := personFields
  properties := [fullName]
  convert := none

/-- A person with a badge. -/
def employee : EntityType where
  name := "Employee"
  form := .model
  parent := some "Person"
  fields := personFields ++ [withDefault "badge" intType (.int 0)]
  properties := [fullName]
  convert := none

/-- A shift of work. -/
def shift : EntityType where
  name := "Shift"
  form := .record
  parent := none
  fields := [required "name" textType, required "starts_at" (.named .moment),
    required "duration" (.named .duration), nullable "ends" (.named .clock)]
  properties := []
  convert := none

/-- A record around anything. -/
def envelope : EntityType where
  name := "Envelope"
  form := .record
  parent := none
  fields := [required "payload" .any]
  properties := []
  convert := none

/-- The stock-keeping code of a text in upper case. -/
def sku : EntityType where
  name := "Sku"
  form := .wrapper
  parent := none
  fields := [⟨"code", .any, none, false⟩]
  properties := []
  convert := some fun v => .entity "Sku" .wrapper [("code", .text (Text.upper v.display))] []

/-- Twice the count of a gadget. -/
def doubleCount : Property where
  name := "double_count"
  type := intType
  shown := true
  compute := fun fields => do
    match ← needed fields "count" with
    | .int n => return .int (2 * n)
    | .bool b => return .int (2 * b.toInt)
    | .float x => return .float (x.scale 2 1)
    | .text s => return .text (s ++ s)
    | _ => .error .mismatch

/-- A property that always has the same value. -/
def constant (name : String) (value : Value) : Property where
  name := name
  type := .any
  shown := false
  compute := fun _ => .ok value

/-- The first day of the sample year. -/
def firstDay : Date := ⟨2024, 1, 1, by decide⟩

/-- A gadget. -/
def gadget : EntityType where
  name := "Gadget"
  form := .model
  parent := none
  fields := [
    required "id" (.named .uuid),
    required "ratio" (.named .float),
    required "active" (.named .bool),
    required "count" intType,
    nullable "maybe" (.named .bool),
    withDefault "color" (.named (.enum "Color")) (memberOf color "RED"),
    withDefault "code" (.named (.enum "Code")) (memberOf code "ZERO"),
    nullable "mixed" (.named (.enum "Mixed")),
    withDefault "price" decimalType (.decimal (.ofInt 0)),
    withDefault "made_on" (.named .date) (.date firstDay),
    withDefault "stamp" (.named .moment) (.moment (.ofDate firstDay none)),
    withDefault "opens" (.named .clock) (.clock ⟨.ofMicros (8 * 3600 * secondMicros), none⟩),
    withDefault "lasts" (.named .duration) (.duration ⟨0⟩),
    withDefault "states" (listOf (.named (.enum "EmploymentStatus"))) (.list []),
    withDefault "levels" (.generic .set [.named (.enum "Priority")]) (.set false []),
    withDefault "dims" (.tupleOf intType) (.tuple []),
    withDefault "pair" (.generic .tuple [intType, textType]) (.tuple [.int 0, .text ""]),
    withDefault "labels" (.generic .frozenset [textType]) (.set true []),
    withDefault "weights" (.generic .sequence [decimalType]) (.tuple []),
    withDefault "bare" (.named .list) (.list []),
    nullable "notes" (listOf textType),
    withDefault "meta" (.generic .dict [textType, .any]) (.dict []),
    withDefault "anything" .any .null,
    withDefault "choice" (.union [intType, textType]) (.int 0),
    withDefault "opt_choice" (.union [intType, textType, .named .null]) .null,
    nullable "sku" (entityNamed "Sku"),
    nullable "home" (entityNamed "Address"),
    nullable "parent" (entityNamed "Gadget"),
    withDefault "parts" (listOf (entityNamed "Gadget")) (.list [])]
  properties := [doubleCount, constant "untyped" (.text "u")]
  convert := none

/-- The precision of sums of amounts, in digits. -/
def sumDigits : Nat := 28

/-- The sum of a total and an amount. -/
def addAmount (total : Decimal) : Value → Except Failure Decimal
  | .decimal d => if d.isSignaling then .error .undefinedResult else .ok (total.add sumDigits d)
  | .int n => .ok (total.add sumDigits (.ofInt n))
  | .bool b => .ok (total.add sumDigits (.ofInt b.toInt))
  | _ => .error .mismatch

/-- The amount of an entry. -/
def amountOf : Value → Except Failure Value
  | .entity _ _ fields _ => needed fields "amount"
  | _ => .error .noMember

/-- The sum of the amounts of a ledger's entries. -/
def total : Property where
  name := "total"
  type := decimalType
  shown := false
  compute := fun fields => do
    match (← needed fields "entries").elements? with
    | some entries =>
      return .decimal (← entries.foldlM (fun sum e => do addAmount sum (← amountOf e)) (.ofInt 0))
    | none => .error .mismatch

/-- The fields of a ledger, whose second one has the given type. -/
def ledgerFields (firstName : NamedType) : List Field :=
  [required "firstName" textType,
    required "first_name" (.named firstName),
    required "FIRSTNAME" (.named .float),
    required "owner" (entityNamed "Person"),
    required "zip_code_2" (optional textType),
    required "entries" (listOf (entityNamed "Entry"))]

/-- A ledger. -/
def ledger : EntityType where
  name := "Ledger"
  form := .object
  parent := none
  fields := ledgerFields .int
  properties := [total, constant "broken_hint" (.int 1)]
  convert := none

/-- A ledger with more information. -/
def subLedger : EntityType where
  name := "SubLedger"
  form := .object
  parent := some "Ledger"
  fields := ledgerFields .bool ++ [required "extra_info" (listOf textType)]
  properties := [total, constant "broken_hint" (.int 1)]
  convert := none

/-- An entry of a ledger. -/
def entry : EntityType where
  name := "Entry"
  form := .object
  parent := none
  fields := [required "amount" decimalType, required "memo" (optional textType)]
  properties := []
  convert := none

/-- A record with a member of unknown type. -/
def forward : EntityType where
  name := "Forward"
  form := .record
  parent := none
  fields := [required "target" (.unresolved "NoSuchType"), required "size" intType]
  properties := []
  convert := none

/-- A node of a tree. -/
def node : EntityType where
  name := "Node"
  form := .record
  parent := none
  fields := [required "name" textType, nullable "rank" intType,
    nullable "child" (entityNamed "Node"),
    withDefault "children" (listOf (entityNamed "Node")) (.list [])]
  properties := []
  convert := none

/-- An object without members. -/
def blank : EntityType where
  name := "Blank"
  form := .object
  parent := none
  fields := []
  properties := []
  convert := none

/-- The sample schema, with the vocabularies of the filter language. -/
def schema : Schema where
  enums := [employmentStatus, priority, color, code, mixed] ++ wireEnums
  entities := [address, person, employee, shift, envelope, sku, gadget, ledger, subLedger, entry,
    forward, node, blank]
  today := Value.sampleDay

end Catalog

end Criteria
