import Criteria.Filter.Keyword

/-!
# Words of the Filter Language

The operators of criteria, how criteria are joined, the direction of an
ordering, the types of custom filters, the kinds of criteria, and the standard
page sizes.

## Main definitions

* `Operator`: What a simple criterion asks of a field.
* `Logic`: How a criterion joins the one that follows it.
* `Direction`: The direction of an ordering.
* `CustomType`: The type of a custom filter.
* `CriterionKind`: Which members of a criterion matter.
* `PageSize`: A standard page size.
-/

namespace Criteria

/-- What a simple criterion asks of a field. -/
inductive Operator where
  | equal | notEqual
  | isNull | isNotNull | isEmpty | isNotEmpty
  | greater | greaterOrEqual | less | lessOrEqual
  | contains | notContains | startsWith | notStartsWith | endsWith | notEndsWith
  | any | all | none
  deriving DecidableEq, Inhabited

namespace Operator

/-- The operators. -/
def vocabulary : Vocabulary Operator where
  name := "FilterOperator"
  words := [
    ⟨equal, "EQUAL", "eq"⟩,
    ⟨notEqual, "NOT_EQUAL", "neq"⟩,
    ⟨isNull, "IS_NULL", "isnull"⟩,
    ⟨isNotNull, "IS_NOT_NULL", "isnotnull"⟩,
    ⟨isEmpty, "IS_EMPTY", "isempty"⟩,
    ⟨isNotEmpty, "IS_NOT_EMPTY", "isnotempty"⟩,
    ⟨greater, "GREATER_THAN", "gt"⟩,
    ⟨greaterOrEqual, "GREATER_THAN_OR_EQUAL", "gte"⟩,
    ⟨less, "LESS_THAN", "lt"⟩,
    ⟨lessOrEqual, "LESS_THAN_OR_EQUAL", "lte"⟩,
    ⟨contains, "CONTAINS", "contains"⟩,
    ⟨notContains, "DOES_NOT_CONTAIN", "doesnotcontain"⟩,
    ⟨startsWith, "STARTS_WITH", "startswith"⟩,
    ⟨notStartsWith, "DOES_NOT_START_WITH", "doesnotstartwith"⟩,
    ⟨endsWith, "ENDS_WITH", "endswith"⟩,
    ⟨notEndsWith, "DOES_NOT_END_WITH", "doesnotendwith"⟩,
    ⟨any, "ANY", "any"⟩,
    ⟨all, "ALL", "all"⟩,
    ⟨none, "NONE", "none"⟩]
  spellings := [
    ("=", "eq"), ("==", "eq"), ("equal", "eq"), ("equals", "eq"),
    ("!=", "neq"), ("<>", "neq"), ("ne", "neq"), ("notequal", "neq"), ("notequals", "neq"),
    (">", "gt"), ("greaterthan", "gt"),
    (">=", "gte"), ("ge", "gte"), ("greaterthanorequal", "gte"),
    ("<", "lt"), ("lessthan", "lt"),
    ("<=", "lte"), ("le", "lte"), ("lessthanorequal", "lte"),
    ("notcontains", "doesnotcontain"), ("notstartswith", "doesnotstartwith"),
    ("notendswith", "doesnotendwith")]

/-- The form on the wire. -/
def wire (op : Operator) : String := vocabulary.wire op

/-- The operator compares by order. -/
def isComparison : Operator → Bool
  | greater | greaterOrEqual | less | lessOrEqual => true
  | _ => false

/-- The operator matches texts. -/
def isTextual : Operator → Bool
  | contains | notContains | startsWith | notStartsWith | endsWith | notEndsWith => true
  | _ => false

/-- The operator asks about the elements of a collection. -/
def isQuantifier : Operator → Bool
  | any | all | none => true
  | _ => false

/-- The operator compares with a value. -/
def takesValue : Operator → Bool
  | isNull | isNotNull | isEmpty | isNotEmpty => false
  | _ => true

end Operator

/-- How a criterion joins the one that follows it. -/
inductive Logic where
  | and | or
  deriving DecidableEq, Inhabited

namespace Logic

/-- The two ways to join. -/
def vocabulary : Vocabulary Logic where
  name := "FilterLogicOperator"
  words := [⟨and, "AND", "and"⟩, ⟨or, "OR", "or"⟩]
  spellings := [("&&", "and"), ("||", "or")]

/-- The form on the wire. -/
def wire (l : Logic) : String := vocabulary.wire l

end Logic

/-- The direction of an ordering. -/
inductive Direction where
  | ascending | descending
  deriving DecidableEq, Inhabited

namespace Direction

/-- The two directions. -/
def vocabulary : Vocabulary Direction where
  name := "OrderDirection"
  words := [⟨ascending, "ASC", "asc"⟩, ⟨descending, "DESC", "desc"⟩]
  spellings := [("ascending", "asc"), ("descending", "desc")]

/-- The form on the wire. -/
def wire (d : Direction) : String := vocabulary.wire d

end Direction

/-- The type of a custom filter; `simple` is the type of a criterion that is
    none. -/
inductive CustomType where
  | simple
  | fullTextSearch
  | dateRange | dateRelative | timeRange | timeRelative
  | numericRange
  | isNull | isNotNull
  | enumValues | textIn | textNotIn | numericIn | numericNotIn
  | named | composite
  deriving DecidableEq, Inhabited

namespace CustomType

/-- The types. -/
def vocabulary : Vocabulary CustomType where
  name := "FilterCustomType"
  words := [
    ⟨simple, "NONE", "none"⟩,
    ⟨fullTextSearch, "FULL_TEXT_SEARCH", "fulltextsearch"⟩,
    ⟨dateRange, "DATE_RANGE", "daterange"⟩,
    ⟨dateRelative, "DATE_RELATIVE", "daterelative"⟩,
    ⟨timeRange, "TIME_RANGE", "timerange"⟩,
    ⟨timeRelative, "TIME_RELATIVE", "timerelative"⟩,
    ⟨numericRange, "NUMERIC_RANGE", "numericrange"⟩,
    ⟨isNull, "IS_NULL", "isnull"⟩,
    ⟨isNotNull, "IS_NOT_NULL", "isnotnull"⟩,
    ⟨enumValues, "ENUM_VALUES", "enumvalues"⟩,
    ⟨textIn, "TEXT_IN", "textin"⟩,
    ⟨textNotIn, "TEXT_NOT_IN", "textnotin"⟩,
    ⟨numericIn, "NUMERIC_IN", "numericin"⟩,
    ⟨numericNotIn, "NUMERIC_NOT_IN", "numericnotin"⟩,
    ⟨named, "NAMED_SPECIFICATION", "namedspecification"⟩,
    ⟨composite, "COMPOSITE_SPECIFICATION", "compositespecification"⟩]
  spellings := [("fts", "fulltextsearch")]

/-- The form on the wire. -/
def wire (t : CustomType) : String := vocabulary.wire t

end CustomType

/-- Which members of a criterion matter. -/
inductive CriterionKind where
  | simple | custom | named | composite
  deriving DecidableEq, Inhabited

namespace CriterionKind

/-- The kinds; they have no further spellings. -/
def vocabulary : Vocabulary CriterionKind where
  name := "CriterionKind"
  words := [
    ⟨simple, "SIMPLE", "simple"⟩,
    ⟨custom, "CUSTOM", "custom"⟩,
    ⟨named, "NAMED", "named"⟩,
    ⟨composite, "COMPOSITE", "composite"⟩]
  spellings := []

/-- The kind that a value stands for, in exactly its one spelling. -/
def read (v : Value) : Except Refusal CriterionKind :=
  expected (.notWire v.literal vocabulary.name) (v.text?.bind vocabulary.ofWire?)

end CriterionKind

/-- The kind of the criteria of a type. -/
def CustomType.kind : CustomType → CriterionKind
  | .simple => .simple
  | .named => .named
  | .composite => .composite
  | _ => .custom

namespace PageSize

/-- The standard page sizes. -/
def enumType : EnumType :=
  ⟨"PageSize", .integral,
    [("SMALL", .int 10), ("MEDIUM", .int 25), ("LARGE", .int 50), ("EXTRA_LARGE", .int 100)], []⟩

/-- The standard page size that equals a value. -/
def read (v : Value) : Except Refusal EnumMember :=
  expected (.notWire v.literal enumType.name)
    (enumType.members.find? fun m => Value.equal v (.member m))

end PageSize

/-- The vocabularies of the filter language as enumerations. -/
def wireEnums : List EnumType :=
  [Operator.vocabulary.enumType .wire, Logic.vocabulary.enumType .wire,
    Direction.vocabulary.enumType .wire, CustomType.vocabulary.enumType .wire,
    CriterionKind.vocabulary.enumType .textual, PageSize.enumType]

end Criteria
