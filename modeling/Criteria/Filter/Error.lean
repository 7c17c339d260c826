import Criteria.Filter.Operator
import Criteria.Text.Similar

/-!
# Errors of Filters

What can be wrong with a filter, and how it is reported.

A defect of the structure of a filter says where in the payload it is. Unknown
names come with the known names most like them. A report is a table with a code
for the kind of error and what belongs to it.

## Main definitions

* `Defect`: What is wrong with the structure of a filter.
* `FilterError`: An error of the filter library.
* `FilterError.ofUnknownField`, `FilterError.ofTraversal`,
  `FilterError.ofNoCollection`: Errors of paths, with what is left out filled in.
* `FilterError.message`: The words for an error.
* `FilterError.isOfValue`: The error is due to a value.
* `FilterError.report`: The table that reports an error.
* `Fault`: Anything that can go wrong.
-/

namespace Criteria

/-- What is wrong with the structure of a filter. -/
inductive Defect where
  /-- A defect in the words of whoever found it. -/
  | stated (message : String) (path : Option String)
  | invalidJson
  /-- The payload is of the named type and not an object. -/
  | notAnObject (typeName : String)
  /-- The payload does not have the form of a model at the path. -/
  | invalidPayload (path : List String)
  | severalParameters (key : String) (count : Nat)
  | parameterType (key typeName : String)
  | missingCriterion (path : Option String)
  | missingField (op : Operator)
  | missingValue (op : Operator) (path : String)
  | missingNested (op : Operator) (path : String)
  | missingName
  | emptyComposite
  | emptyGroup
  | missingParameters (type : CustomType) (keys : List String)
  | notBoolean (key words : String)
  | notInteger (key literal : String)
  | notAChoice (key : String) (choices : List String) (literal : String)
  | noValues (key : String)
  | notAPath (key literal : String)
  | noSearchFields
  | notTemporal (path : String)
  | notATime (words : String)
  | notAnEnum (path : String)
  | depthTooLow (depth : Int)
  deriving DecidableEq, Inhabited

namespace Defect

/-- A text between single quotation marks. -/
def tick (s : String) : String := "'" ++ s ++ "'"

/-- The words for a defect. -/
def message : Defect → String
  | stated m _ => m
  | invalidJson => "Invalid JSON"
  | notAnObject t => "Expected an object, got " ++ t
  | invalidPayload _ => "Invalid filter payload"
  | severalParameters key n =>
    "Expected a single " ++ tick key ++ " parameter, got " ++ toString n
  | parameterType key t => "Unsupported " ++ tick key ++ " parameter type: " ++ t
  | missingCriterion _ => "Filter criterion is required"
  | missingField op => "Field is required for filter criteria (operator " ++ tick op.wire ++ ")"
  | missingValue op _ => "Operator " ++ tick op.wire ++ " requires a value"
  | missingNested op _ =>
    "Operator " ++ tick op.wire ++ " requires a nested filter criterion in 'value' or 'filters'"
  | missingName => "Specification name is required for named specification filters"
  | emptyComposite => "Composite specification requires at least one node"
  | emptyGroup => "Specification group requires at least one node"
  | missingParameters type keys =>
    "Custom filter " ++ tick type.wire ++ " requires parameter(s): " ++ ", ".intercalate keys
  | notBoolean _ words | notATime words => words
  | notInteger key l => "Parameter " ++ tick key ++ " must be an integer, got " ++ l
  | notAChoice key choices l =>
    "Parameter " ++ tick key ++ " must be one of " ++ ", ".intercalate choices ++ ", got " ++ l
  | noValues key => "Parameter " ++ tick key ++ " contains no values"
  | notAPath key l => "Parameter " ++ tick key ++ " must be a field path, got " ++ l
  | noSearchFields => "Parameter 'fields' must name at least one field"
  | notTemporal path => "Field " ++ tick path ++ " is not a time, datetime or timedelta field"
  | notAnEnum path => "Field " ++ tick path ++ " is not an enum field"
  | depthTooLow n => "Hierarchy max depth must be at least 1, got " ++ toString n

/-- The path of a custom parameter. -/
def parameterPath (key : String) : String := "customParameters." ++ key

/-- Where in the payload the defect is. -/
def path : Defect → Option String
  | stated _ p | missingCriterion p => p
  | invalidJson | notAnObject _ => some "<root>"
  | invalidPayload [] => some "<root>"
  | invalidPayload parts => some (".".intercalate parts)
  | severalParameters key _ | parameterType key _ => some key
  | missingField _ => some "field"
  | missingValue _ p | missingNested _ p => some p
  | missingName => some "specificationName"
  | emptyComposite => some "compositeSpecification"
  | emptyGroup => some "compositeSpecification.nodes"
  | missingParameters _ keys => some (parameterPath (keys.headD ""))
  | notBoolean key _ | notInteger key _ | notAChoice key _ _ | noValues key | notAPath key _ =>
    some (parameterPath key)
  | noSearchFields => some (parameterPath "fields")
  | notTemporal _ | notAnEnum _ => some (parameterPath "field")
  | notATime _ => some "customParameters"
  | depthTooLow _ => some "hierarchyMaxDepth"

end Defect

/-- An error of the filter library. -/
inductive FilterError where
  | general (message : String)
  | validation (message : String) (path : Option String)
  | schema (d : Defect)
  | unsupportedType (given : Value) (path : Option String)
  | unknownOperator (given : String) (valid : List String)
  /-- The value cannot be converted to the named type. -/
  | coercion (literal target : String) (reason : Option String)
  | notRegistered (name : String) (registered : List String)
  | registration (message : String)
  | arguments (name literal reason : String)
  | fieldNotFound (field type : String) (available : List String) (fullPath : String)
      (cutoff : Binary64)
  | traversal (field type fullPath reason : String)
  | notACollection (field type fullPath : String)
  deriving Inhabited

namespace FilterError

/-- Names less alike than this are not suggested. -/
def defaultCutoff : Binary64 := Binary64.ofRatio false 6 10

/-- The question whether one of the names was meant, if there are any. -/
def didYouMean (suggestions : List String) : String :=
  if suggestions.isEmpty then "" else " Did you mean: " ++ ", ".intercalate suggestions ++ "?"

/-- The names most like the one that is unknown. -/
def suggestions : FilterError → List String
  | unknownOperator given valid => Text.closeMatches given valid 3 defaultCutoff
  | notRegistered name registered => Text.closeMatches name registered 3 defaultCutoff
  | fieldNotFound field _ available _ cutoff => Text.closeMatches field available 5 cutoff
  | _ => []

/-- Names in the order of code points. -/
def sortedNames (names : List String) : List String :=
  names.mergeSort (fun a b => a ≤ b)

/-- At most `count` names in order, and a mark if there are more. -/
def preview (names : List String) (count : Nat) : String :=
  let sorted := sortedNames names
  ", ".intercalate (sorted.take count) ++ if count < sorted.length then ", ..." else ""

/-- Why a member without members of its own ends a path. -/
def notNested : String := "it is not a nested object"

/-- Why a collection ends a path. -/
def isCollection : String := "it is a collection; use an any/all/none quantifier"

/-- Why a quantifier does not fit a field. -/
def needsCollection : String := "quantifiers require a collection-typed field"

/-- A text, or the given one for none and for an empty one. -/
def textOr (default : String) : Option String → String
  | none | some "" => default
  | some s => s

/-- A member that does not exist. It is the path itself unless there is one, and
    the cutoff has to lie between zero and one. -/
def ofUnknownField (field type : String) (available : List String) (fullPath : Option String)
    (cutoff : Option Binary64) : Except Refusal FilterError :=
  let cutoff := cutoff.getD defaultCutoff
  if Text.isCutoff cutoff then
    .ok (.fieldNotFound field type available (textOr field fullPath) cutoff)
  else refuse .unreadable

/-- A member that ends a path: for the given reason, or for having no members of
    its own. -/
def ofTraversal (field type : String) (fullPath reason : Option String) : FilterError :=
  .traversal field type (textOr field fullPath) (reason.getD notNested)

/-- A quantifier on a member that is no collection. -/
def ofNoCollection (field type : String) (fullPath : Option String) : FilterError :=
  .notACollection field type (textOr field fullPath)

/-- The words for a path that cannot be followed. -/
def traversalMessage (field type fullPath reason : String) : String :=
  "Cannot traverse '" ++ field ++ "' on '" ++ type ++ "': " ++ reason ++ ". Full path: '" ++
    fullPath ++ "'"

/-- The lines for a member that does not exist. -/
def fieldLines (field type : String) (near available : List String) : List String :=
  ["Invalid field '" ++ field ++ "' on '" ++ type ++ "'."] ++
    (if near.isEmpty then [] else
      "Did you mean one of these?" :: near.map fun s => "  • " ++ s) ++
    ["Available fields: " ++ preview available 15]

/-- The words for an error. -/
def message (e : FilterError) : String :=
  match e with
  | general m | validation m _ | registration m => m
  | schema d => d.message
  | unsupportedType given _ =>
    "Unsupported custom filter type: '" ++ given.memberValue.display ++ "'"
  | unknownOperator given valid =>
    "Unknown operator: '" ++ given ++ "'." ++ didYouMean e.suggestions ++
      " Valid operators: " ++ ", ".intercalate ((sortedNames valid).take 10) ++ "..."
  | coercion literal target reason =>
    "Cannot convert " ++ literal ++ " to '" ++ target ++ "'" ++
      match reason with
      | none | some "" => ""
      | some r => ": " ++ r
  | notRegistered name _ =>
    "Specification '" ++ name ++ "' is not registered." ++ didYouMean e.suggestions
  | arguments name literal reason =>
    "Invalid arguments " ++ literal ++ " for specification '" ++ name ++ "': " ++ reason
  | fieldNotFound field type available _ _ =>
    "\n".intercalate (fieldLines field type e.suggestions available)
  | traversal field type fullPath reason => traversalMessage field type fullPath reason
  | notACollection field type fullPath => traversalMessage field type fullPath needsCollection

/-- The error is due to a value or to the type of one, so that whoever supplied the
    value is told of it like of any other value that does not fit. -/
def isOfValue : FilterError → Bool
  | schema _ | unsupportedType .. | unknownOperator .. | coercion .. | arguments .. => true
  | general _ | validation .. | notRegistered .. | registration _ | fieldNotFound ..
  | traversal .. | notACollection .. => false

/-- A text, or null. -/
def optionalText (s : Option String) : Value :=
  s.elim .null .text

/-- A list of texts. -/
def textList (xs : List String) : Value :=
  .list (xs.map .text)

/-- The table that reports a path which cannot be followed. -/
def pathReport (code field type fullPath : String) : Value :=
  Value.table [("error", .text code), ("field", .text field), ("model", .text type),
    ("full_path", .text fullPath)]

/-- The table that reports a message and a path. -/
def placedReport (code message : String) (path : Option String) : Value :=
  Value.table [("error", .text code), ("message", .text message), ("path", optionalText path)]

/-- The table that reports an error. -/
def report (e : FilterError) : Value :=
  match e with
  | general m => Value.table [("error", .text "SpecificationError"), ("message", .text m)]
  | registration m =>
    Value.table [("error", .text "SpecificationRegistrationError"), ("message", .text m)]
  | validation m p => placedReport "VALIDATION_ERROR" m p
  | schema d => placedReport "FILTER_SCHEMA_ERROR" d.message d.path
  | unsupportedType given p =>
    Value.table [("error", .text "UNSUPPORTED_CUSTOM_TYPE"), ("custom_type", given.memberValue),
      ("path", optionalText p)]
  | unknownOperator given valid =>
    Value.table [("error", .text "OPERATOR_NOT_FOUND"), ("operator", .text given),
      ("suggestions", textList e.suggestions), ("valid_operators", textList (sortedNames valid))]
  | coercion literal target reason =>
    Value.table [("error", .text "VALUE_COERCION_ERROR"), ("value", .text literal),
      ("target_type", .text target), ("reason", optionalText reason)]
  | notRegistered name _ =>
    Value.table [("error", .text "SPECIFICATION_NOT_REGISTERED"), ("name", .text name),
      ("suggestions", textList e.suggestions)]
  | arguments name _ reason =>
    Value.table [("error", .text "SPECIFICATION_ARGUMENTS_ERROR"), ("name", .text name),
      ("reason", .text reason)]
  | fieldNotFound field type available fullPath _ =>
    Value.table [("error", .text "FIELD_NOT_FOUND"), ("field", .text field), ("model", .text type),
      ("full_path", .text fullPath), ("suggestions", textList e.suggestions),
      ("available_fields", textList (sortedNames available))]
  | traversal field type fullPath _ =>
    pathReport "RELATIONSHIP_TRAVERSAL_ERROR" field type fullPath
  | notACollection field type fullPath => pathReport "NOT_A_COLLECTION" field type fullPath

end FilterError

/-- Anything that can go wrong. -/
inductive Fault where
  /-- An error of the filter library. -/
  | filter (e : FilterError)
  /-- A step that gives no result. -/
  | refused (r : Refusal)
  /-- Members that do not have the form of what is built from them. -/
  | invalid (path : List String)
  deriving Inhabited

/-- An error of the filter library, as a result. -/
def failWith {α : Type} (e : FilterError) : Except Fault α :=
  .error (.filter e)

/-- A defect, as a result. -/
def defective {α : Type} (d : Defect) : Except Fault α :=
  failWith (.schema d)

/-- The result of a step whose refusals are passed on. -/
def passing {α : Type} : Except Refusal α → Except Fault α
  | .ok a => .ok a
  | .error r => .error (.refused r)

end Criteria
