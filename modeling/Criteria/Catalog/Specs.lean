import Criteria.Catalog.Types
import Criteria.Registry.Basic
import Criteria.Schema.Access
import Criteria.Value.Order

/-!
# Sample Specifications

Types of specifications about people and addresses, and makers of
specifications of all sorts, those that fail included.

## Main definitions

* `Catalog.specTypes`: The sample types of specifications.
* `Catalog.specType?`: What may be offered as a type of specifications.
* `Catalog.makers`: The sample makers.
* `Catalog.offers`: What may be offered as a maker.
-/

namespace Criteria

namespace Catalog

/-- A member of a candidate, which must be there. -/
def memberOfCandidate (candidate : Value) (name : String) : Except Failure Value :=
  schema.readExisting candidate name

/-- A comparison of a member with a value, under the type's name. -/
def comparing (type op member : String) (value : Value)
    (test : Value → Value → Except Failure Bool) : Spec :=
  .named ⟨type, Value.table [("op", .text op), ("attr", .text member), ("val", value)],
    fun candidate => do test (← memberOfCandidate candidate member) value⟩

/-- The first value is greater. -/
def isGreater (a b : Value) : Except Failure Bool :=
  (Value.relate a b).map (· == .greater)

/-- The first value is not less. -/
def isAtLeast (a b : Value) : Except Failure Bool :=
  (Value.relate a b).map fun r => r == .greater || r == .equal

/-- Makes specifications that cannot fail to be made. -/
def made (f : List Value → Spec) (arguments : List Value) : Except Fault Made :=
  .ok (.spec (f arguments))

/-- The first argument, or the given value if there is none. -/
def firstOr (default : Value) (arguments : List Value) : Value :=
  arguments.headD default

/-- A type of specifications, shown by its name. -/
def specType (name : String) (entity : Option TypeExpr) (isSpecification : Bool)
    (maker : Maker) : SpecType :=
  ⟨name, "<class 'catalog." ++ name ++ "'>", entity, isSpecification, maker⟩

/-- One argument that is required. -/
def oneArgument (name : String) : Signature := ⟨[name], 0, false⟩

/-- No arguments. -/
def noArguments : Signature := ⟨[], 0, false⟩

/-- Any number of arguments. -/
def anyArguments : Signature := ⟨[], 0, true⟩

/-- People older than an age. -/
def olderThan : SpecType :=
  specType "OlderThan" (some (entityNamed "Person")) true
    ⟨some (oneArgument "age"), made fun args =>
      comparing "OlderThan" "gt" "age" (firstOr .null args) isGreater⟩

/-- People of an age or older, under the name of a type. -/
def adultNamed (name : String) : SpecType :=
  specType name (some (entityNamed "Person")) true
    ⟨some ⟨[], 1, false⟩, made fun args =>
      comparing name "gte" "age" (firstOr (.int 18) args) isAtLeast⟩

/-- Addresses in a city. -/
def inCity : SpecType :=
  specType "InCity" (some (entityNamed "Address")) true
    ⟨some (oneArgument "city"), made fun args =>
      comparing "InCity" "eq" "city" (firstOr .null args) Value.equal?⟩

/-- Met by every candidate if any argument counts as true. -/
def anyOfSpec (args : List Value) : Spec :=
  .named ⟨"AnyOf", Value.table [("op", .text "any_of"), ("args", .list args)],
    fun _ => .ok (args.any Value.isTrue)⟩

/-- Specifications that depend on their arguments only. -/
def anyOf : SpecType :=
  specType "AnyOf" none true ⟨some anyArguments, made anyOfSpec⟩

/-- A specification that is always met. -/
def duck : SpecType :=
  specType "Duck" none true
    ⟨some noArguments, made fun _ =>
      .named ⟨"Duck", Value.table [("op", .text "duck")], fun _ => .ok true⟩⟩

/-- A type whose members are no specifications. -/
def unfit (name : String) : SpecType :=
  specType name none false ⟨some noArguments, fun _ => .ok (.other name)⟩

/-- The sample types of specifications. -/
def specTypes : List SpecType :=
  [olderThan, adultNamed "Adult", adultNamed "SeniorAdult", inCity, anyOf, duck,
    unfit "NotASpecification", unfit "HalfSpecification"]

/-- People of an employment status. -/
def hasStatus (args : List Value) : Spec :=
  Spec.predicate "HasStatus" [firstOr .null args] fun candidate => do
    let status ← memberOfCandidate candidate "status"
    Value.equal? (← memberOfCandidate status "value") (firstOr .null args)

/-- A failure in given words. -/
def failing (cause : Failure) (words : String) : Except Fault Made :=
  .error (.refused (.stated cause words))

/-- Adults of an age that is not negative. -/
def strict (args : List Value) : Except Fault Made :=
  let age := firstOr .null args
  match Value.relate age (.int 0) with
  | .ok .less => failing .unreadable "age must be positive"
  | .ok _ => (adultNamed "Adult").maker.make [age]
  | .error .mismatch =>
    failing .mismatch ("'<' not supported between instances of '" ++ age.typeName ++ "' and 'int'")
  | .error f => passing (refuse f)

/-- At most one argument, although that is not known beforehand. -/
def secretive (args : List Value) : Except Fault Made :=
  if 1 < args.length then failing .mismatch "opaque takes at most one argument"
  else made anyOfSpec args

/-- The sample makers. -/
def makers : List (String × Maker) :=
  [("has_status", ⟨some (oneArgument "status"), made hasStatus⟩),
    ("strict", ⟨some (oneArgument "age"), strict⟩),
    ("typed", ⟨some (oneArgument "age"), fun _ => failing .mismatch "wrong kind"⟩),
    ("broken", ⟨some noArguments, fun _ => .ok (.other "int")⟩),
    ("nothing", ⟨some noArguments, fun _ => .ok (.other "NoneType")⟩),
    ("exploding", ⟨some noArguments, fun _ => passing (refuse .noKey)⟩),
    ("opaque", ⟨none, secretive⟩)] ++ specTypes.map fun t => (t.name, t.maker)

/-- The sample values that are neither makers nor types, with their literals. -/
def nonMakers : List (String × String) :=
  [("not callable", "'not callable'"), ("five", "5")]

/-- What may be offered as a type of specifications, by name. -/
def specType? (name : String) : Option SpecType :=
  (specTypes ++ nonMakers.map fun (n, l) => { unfit n with literal := l }).find? (·.name == name)

/-- What may be offered as a maker, by name. -/
def offers : List (String × Offer) :=
  (makers.map fun (n, m) => (n, .maker m)) ++ nonMakers.map fun (n, l) => (n, .other l)

end Catalog

end Criteria
