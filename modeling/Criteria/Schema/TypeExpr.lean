import Criteria.Value.Basic

/-!
# Type Expressions

The declared types of members: a named type, a generic one over others, a union,
or no restriction at all.

## Main definitions

* `NamedType`: A type with a name of its own.
* `TypeExpr`: A type expression.
* `NamedType.written`, `TypeExpr.written`: The written form.
* `TypeExpr.name`: The name used in messages.
* `TypeExpr.unwrapOptional`: The type without its null arm.
* `TypeExpr.element?`: The type of the elements of a collection type.
-/

namespace Criteria

/-- A type with a name of its own. -/
inductive NamedType where
  | null | object
  | bool | int | float | decimal | text | bytes
  | date | moment | clock | duration | uuid
  | list | tuple | set | frozenset | dict
  | enum (name : String)
  | entity (name : String)
  deriving DecidableEq, Inhabited

namespace NamedType

/-- The written form; the null type is written as its one value. -/
def written : NamedType → String
  | null => "None"
  | object => "object"
  | bool => "bool"
  | int => "int"
  | float => "float"
  | decimal => "Decimal"
  | text => "str"
  | bytes => "bytes"
  | date => "date"
  | moment => "datetime"
  | clock => "time"
  | duration => "timedelta"
  | uuid => "UUID"
  | list => "list"
  | tuple => "tuple"
  | set => "set"
  | frozenset => "frozenset"
  | dict => "dict"
  | enum name | entity name => name

/-- The name used in messages. -/
def name : NamedType → String
  | null => "NoneType"
  | t => t.written

/-- The types that are not enumerations or entities. -/
def builtin : List NamedType :=
  [null, object, bool, int, float, decimal, text, bytes, date, moment, clock, duration, uuid,
    list, tuple, set, frozenset, dict]

/-- The type of a value. -/
def ofValue : Value → NamedType
  | .null => null
  | .bool _ => bool
  | .int _ => int
  | .float _ => float
  | .decimal _ => decimal
  | .text _ => text
  | .bytes _ => bytes
  | .date _ => date
  | .moment _ => moment
  | .clock _ => clock
  | .duration _ => duration
  | .uuid _ => uuid
  | .member m => enum m.type
  | .list _ => list
  | .tuple _ => tuple
  | .set frozen _ => if frozen then frozenset else set
  | .dict _ => dict
  | .entity name .. => entity name

/-- The type is a list, a tuple or a set. -/
def isCollection : NamedType → Bool
  | list | tuple | set | frozenset => true
  | _ => false

end NamedType

/-- A generic type, before its arguments. -/
inductive Generic where
  | list | tuple | set | frozenset
  | sequence | mutableSequence | abstractSet | mutableSet | collection | iterable
  | dict | mapping
  deriving DecidableEq, Inhabited

namespace Generic

/-- The name. -/
def name : Generic → String
  | list => "list"
  | tuple => "tuple"
  | set => "set"
  | frozenset => "frozenset"
  | sequence => "Sequence"
  | mutableSequence => "MutableSequence"
  | abstractSet => "Set"
  | mutableSet => "MutableSet"
  | collection => "Collection"
  | iterable => "Iterable"
  | dict => "dict"
  | mapping => "Mapping"

/-- All generic types. -/
def all : List Generic :=
  [list, tuple, set, frozenset, sequence, mutableSequence, abstractSet, mutableSet, collection,
    iterable, dict, mapping]

/-- Values of the type are collections of elements. -/
def isCollection : Generic → Bool
  | dict | mapping => false
  | _ => true

end Generic

/-- A type expression. -/
inductive TypeExpr where
  /-- No restriction. -/
  | any
  | named (t : NamedType)
  /-- A generic type with its arguments. -/
  | generic (g : Generic) (arguments : List TypeExpr)
  /-- A tuple of any length with elements of one type. -/
  | tupleOf (element : TypeExpr)
  | union (arms : List TypeExpr)
  /-- A name that stands for no known type. -/
  | unresolved (name : String)
  deriving Inhabited

namespace TypeExpr

mutual

/-- The written form. -/
def written : TypeExpr → String
  | any => "Any"
  | named t => t.written
  | generic g arguments => g.name ++ "[" ++ ", ".intercalate (writtenAll arguments) ++ "]"
  | tupleOf element => "tuple[" ++ written element ++ ", ...]"
  | union arms => " | ".intercalate (writtenAll arms)
  | unresolved name => "'" ++ name ++ "'"
termination_by structural t => t

/-- The written forms of several types. -/
def writtenAll : List TypeExpr → List String
  | [] => []
  | t :: ts => written t :: writtenAll ts
termination_by structural ts => ts

end

/-- The name used in messages. -/
def name : TypeExpr → String
  | any => "Any"
  | named t => t.name
  | generic g _ => g.name
  | tupleOf _ => "tuple"
  | union arms => (union arms).written
  | unresolved name => "'" ++ name ++ "'"

/-- The type is the null type. -/
def isNull : TypeExpr → Bool
  | named .null => true
  | _ => false

/-- The type is unrestricted. -/
def isAny : TypeExpr → Bool
  | any => true
  | _ => false

/-- The type has a name of its own; the unrestricted type counts as one. -/
def isNamed : TypeExpr → Bool
  | any | named _ => true
  | _ => false

/-- The type without its null arm, and whether null is allowed. -/
def unwrapOptional : TypeExpr → TypeExpr × Bool
  | any => (any, true)
  | union arms =>
    let rest := arms.filter fun t => !t.isNull
    let nullable := rest.length != arms.length
    match rest with
    | [t] => (t, nullable)
    | ts => (union ts, nullable)
  | t => (t, false)

/-- The argument of a collection type; null is no type of elements. -/
def argument? (t : TypeExpr) : Option TypeExpr :=
  if t.isNull then none else some t

/-- The type of the elements of a collection type. A tuple with a fixed number
    of elements may hold anything. -/
def element? : TypeExpr → Option TypeExpr
  | named t => if t.isCollection then some any else none
  | generic g arguments =>
    if g.isCollection then
      match g, arguments with
      | .tuple, _ | _, [] => some any
      | _, t :: _ => argument? t
    else none
  | tupleOf t => argument? t
  | _ => none

end TypeExpr

end Criteria
