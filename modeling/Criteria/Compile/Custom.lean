import Criteria.Compile.Context
import Criteria.Custom.Parameters
import Criteria.Query.Criterion

/-!
# Custom Filters

The specifications that custom filters stand for: searches in several fields,
ranges and relative windows of dates and times, ranges of numbers, tests for null
and lists of values. Parameters are looked at in a fixed order, and the first
one that is wrong is reported.

A field that may be null has to be not null, except where null is asked for.

## Main definitions

* `Context.dateBound`: A bound of a range of dates.
* `Context.fullTextSearch`, `Context.dateRange`, `Context.dateRelative`,
  `Context.timeRange`, `Context.timeRelative`, `Context.numericRange`,
  `Context.nullTest`, `Context.enumValues`, `Context.textMembership`,
  `Context.numericMembership`: The filters.
* `Context.compileCustom`: The specification of a custom criterion.
-/

namespace Criteria

namespace Context

/-- The field that the parameters name. -/
def fieldOf (c : Context) (entity : TypeExpr) (p : Parameters) : Except Fault Accessor := do
  let v ← p.require "field"
  match v.text? with
  | some path => c.resolve entity path
  | none => defective (.notAPath "field" v.literal)

/-- A search for a text in any of several fields. -/
def fullTextSearch (c : Context) (entity : TypeExpr) (p : Parameters) : Except Fault Spec := do
  let (term, rawFields) ← p.requireBoth "searchTerm" "fields"
  let fields := rawFields.readList [',', ';']
  let paths := fields.filterMap Value.text?
  if fields.isEmpty ∨ paths.length ≠ fields.length then defective .noSearchFields
  else
    let word := if c.ignoreCase then Text.fold term.display else term.display
    let transform := if c.ignoreCase then some Transform.fold else none
    let tests ← paths.mapM fun path => do
      return c.test (← c.resolve entity path) .contains (.text word) transform
    passing (Spec.oneOf tests)

/-- The field holds dates. -/
def holdsDates (a : Accessor) : Bool :=
  match a.valueType with
  | .named .date => true
  | _ => false

/-- A moment as a value of the field: its day, if the field holds dates. -/
def asFieldValue (a : Accessor) (m : Moment) : Value :=
  if holdsDates a then .date m.date else .moment m

/-- A bound of a range of dates. -/
def dateBound (c : Context) (a : Accessor) (v : Value) : Except Fault Value :=
  match v.readInstant c.schema.today with
  | .ok m => .ok (asFieldValue a m)
  | .error r =>
    match r.cause with
    | .unreadable | .overflow =>
      failWith (.coercion v.literal NamedType.moment.name (some r.reason))
    | _ => passing (.error r)

/-- The moment a day later. -/
def dayLater (m : Moment) : Except Fault Moment :=
  passing (expected (.failed .overflow) (m.addMicros? dayMicros))

/-- The test for the end of a range of dates. A bare day as the end of a range of
    moments takes in that whole day, or nothing of it if the end itself is
    excluded. -/
def endTest (c : Context) (a : Accessor) (inclusive : Bool) (raw : Value) : Except Fault Spec := do
  match ← c.dateBound a raw, raw.isDateOnly with
  -- The day after the end is left out, so that the whole last day is in.
  | .moment m, true =>
    let stop ← if inclusive then dayLater m else pure m
    return c.test a .less (.moment stop) none
  | bound, _ => return c.test a (boundOperators inclusive).2 bound none

/-- The test for the start of a range of dates. -/
def startTest (c : Context) (a : Accessor) (inclusive : Bool) (raw : Value) :
    Except Fault Spec := do
  return c.test a (boundOperators inclusive).1 (← c.dateBound a raw) none

/-- The result for a value, if there is one, as a list. -/
def testIfGiven (v : Option Value) (f : Value → Except Fault Spec) : Except Fault (List Spec) :=
  match v with
  | none => .ok []
  | some v => (f v).map ([·])

/-- A range of dates, with at least one bound. -/
def dateRange (c : Context) (entity : TypeExpr) (p : Parameters) : Except Fault Spec := do
  let a ← c.fieldOf entity p
  let first := p.get? "start"
  let last := p.get? "end"
  if first.isNone && last.isNone then defective (.missingParameters p.type ["start", "end"])
  else
    let inclusive ← p.flag "inclusive" true
    -- A fault in the start is reported before one in the end.
    let lower ← testIfGiven first (c.startTest a inclusive)
    let upper ← testIfGiven last (c.endTest a inclusive)
    return c.guarded a (.allOf (lower ++ upper))

/-- The moment that a relative window reaches to, and the operator for values
    within the window. -/
def windowEdge (c : Context) (p : Parameters) (units : List String) :
    Except Fault (Moment × Operator) := do
  let unit ← p.choice "unit" units
  let amount ← p.integer "amount"
  let direction ← p.choice "direction" ["past", "future"]
  if direction = "past" then return (← passing (c.now.move unit (-amount)), .greaterOrEqual)
  else return (← passing (c.now.move unit amount), .lessOrEqual)

/-- A window of dates that ends or starts now. -/
def dateRelative (c : Context) (entity : TypeExpr) (p : Parameters) : Except Fault Spec := do
  let a ← c.fieldOf entity p
  let (edge, op) ← c.windowEdge p ["day", "week", "month", "year"]
  return c.guarded a (c.test a op (asFieldValue a edge) none)

/-- The field can hold times of day. -/
def holdsTimes (c : Context) (a : Accessor) : Bool :=
  match a.valueType with
  | .any => true
  | .named t => [NamedType.clock, .moment, .duration].any (c.schema.isSubtype t)
  | _ => false

/-- The field that the parameters name, which holds times. -/
def timeField (c : Context) (entity : TypeExpr) (p : Parameters) : Except Fault Accessor := do
  let a ← c.fieldOf entity p
  if c.holdsTimes a then return a else defective (.notTemporal a.path)

/-- A bound of a range of times. -/
def timeBound (v : Value) : Except Fault ClockTime :=
  match v.readTime with
  | .ok t => .ok t
  | .error r => defective (.notATime r.reason)

/-- A range of times, which may go on past midnight. -/
def timeRange (c : Context) (entity : TypeExpr) (p : Parameters) : Except Fault Spec := do
  let a ← c.timeField entity p
  let (rawStart, rawEnd) ← p.requireBoth "start" "end"
  let first ← timeBound rawStart
  let last ← timeBound rawEnd
  let (lower, upper) := boundOperators (← p.flag "inclusive" true)
  let tests := [c.test a lower (.clock first) (some .timeOfDay),
    c.test a upper (.clock last) (some .timeOfDay)]
  -- A range that starts later than it ends goes on past midnight.
  match ClockTime.compare? first last with
  | none => passing (refuse .mismatch)
  | some .gt => return c.guarded a (.disj tests)
  | some _ => return c.guarded a (.conj tests)

/-- A window of times that ends or starts now. -/
def timeRelative (c : Context) (entity : TypeExpr) (p : Parameters) : Except Fault Spec := do
  let a ← c.timeField entity p
  let (edge, op) ← c.windowEdge p ["minute", "hour"]
  return c.guarded a (c.test a op (.clock ⟨edge.time, none⟩) (some .timeOfDay))

/-- A range of numbers. -/
def numericRange (c : Context) (entity : TypeExpr) (p : Parameters) : Except Fault Spec := do
  let a ← c.fieldOf entity p
  let (rawMin, rawMax) ← p.requireBoth "min" "max"
  let low ← c.coercer.coerce c.schema (.named .float) rawMin
  let high ← c.coercer.coerce c.schema (.named .float) rawMax
  let (lower, upper) := boundOperators (← p.flag "inclusive" true)
  return c.guarded a (.conj
    [c.test a lower low (some .float), c.test a upper high (some .float)])

/-- A test for null, or for the opposite. -/
def nullTest (op : Operator) (c : Context) (entity : TypeExpr) (p : Parameters) :
    Except Fault Spec := do
  return c.test (← c.fieldOf entity p) op .null none

/-- The member of an enumeration that a token stands for. -/
def enumToken (c : Context) (name : String) (token : Value) : Except Fault Value :=
  match c.schema.parseMember name token with
  | .ok m => .ok m
  | .error r =>
    match r.cause with
    | .unreadable => failWith (.coercion token.literal name (some r.reason))
    | _ => passing (.error r)

/-- The field is one of some members of its enumeration. -/
def enumValues (c : Context) (entity : TypeExpr) (p : Parameters) : Except Fault Spec := do
  let a ← c.fieldOf entity p
  match elementOrValue a with
  | .named (.enum name) =>
    let members ← (← p.values "values").mapM (c.enumToken name)
    passing (Spec.membership ⟨a, members, false, none⟩)
  | _ => defective (.notAnEnum a.path)

/-- The field is one of some texts, or none of them. -/
def textMembership (negated : Bool) (c : Context) (entity : TypeExpr) (p : Parameters) :
    Except Fault Spec := do
  let a ← c.fieldOf entity p
  let texts := (← p.values "values").map fun v => Value.text v.display
  passing (Spec.membership ⟨a, texts, negated, none⟩)

/-- The type that the numbers in a list are converted to. -/
def numberType (a : Accessor) : TypeExpr :=
  let t := elementOrValue a
  if t.isNamed then t else .named .float

/-- The field is one of some numbers, or none of them. -/
def numericMembership (negated : Bool) (c : Context) (entity : TypeExpr) (p : Parameters) :
    Except Fault Spec := do
  let a ← c.fieldOf entity p
  let numbers ← (← p.values "values").mapM (c.coercer.coerce c.schema (numberType a))
  passing (Spec.membership ⟨a, numbers, negated, none⟩)

/-- The filters by their types. -/
def filter? : CustomType → Option (Context → TypeExpr → Parameters → Except Fault Spec)
  | .fullTextSearch => some fullTextSearch
  | .dateRange => some dateRange
  | .dateRelative => some dateRelative
  | .timeRange => some timeRange
  | .timeRelative => some timeRelative
  | .numericRange => some numericRange
  | .isNull => some (nullTest .isNull)
  | .isNotNull => some (nullTest .isNotNull)
  | .enumValues => some enumValues
  | .textIn => some (textMembership false)
  | .textNotIn => some (textMembership true)
  | .numericIn => some (numericMembership false)
  | .numericNotIn => some (numericMembership true)
  | .simple | .named | .composite => none

/-- The types of custom filters. -/
def supportedTypes : List CustomType :=
  (CustomType.vocabulary.words.map (·.word)).filter fun t => (filter? t).isSome

/-- The specification of a custom criterion. -/
def compileCustom (c : Context) (entity : TypeExpr) (type : CustomType)
    (parameters : List (String × Value)) : Except Fault Spec :=
  match filter? type with
  | some f => f c entity (.ofEntries type parameters)
  | none => failWith (.unsupportedType (CustomType.vocabulary.toValue type) none)

end Context

end Criteria
