import Criteria.Filter.Error
import Criteria.Schema.Access
import Criteria.Schema.Members

/-!
# Field Paths

A dotted path of member names, followed through the declared types of an entity
type. Every segment is matched to a member of its owner; only the last one may
be a scalar or a collection. Below a member without a declared type the rest of
the path is taken as it is written.

## Main definitions

* `Accessor`: A path that has been followed to its end.
* `Schema.follow`: The members along a path.
* `Schema.resolve`: The accessor of a path.
* `Accessor.read`: The value at the end of the path.
-/

namespace Criteria

/-- The members along a path, the declared type of the last one, and whether any
    of them may be null. -/
structure Trail where
  attributes : List String
  declared : TypeExpr
  nullable : Bool

/-- A path that has been followed to its end. -/
structure Accessor where
  entity : TypeExpr
  path : String
  attributes : List String
  /-- The declared type of the last member. -/
  declared : TypeExpr
  /-- The declared type without its null arm. -/
  valueType : TypeExpr
  nullable : Bool
  /-- The type of the elements, if the last member is a collection. -/
  element : Option TypeExpr
  deriving Inhabited

namespace Schema

/-- The type is a text, a number or a truth, or an enumeration of those. -/
def isScalar (s : Schema) : TypeExpr → Bool
  | .named t => [NamedType.text, .bytes, .int, .float, .bool].any (s.isSubtype t)
  | _ => false

/-- The type may own further members of a path. -/
def ownsMembers (s : Schema) (t : TypeExpr) : Bool :=
  t.isAny || (t.isNamed && !s.isScalar t)

/-- The members along the segments of a path, from an owner that was reached by
    the previous member. -/
def follow (s : Schema) (path : String) (owner : TypeExpr) (previous : Option String) :
    List String → Except FilterError Trail
  | [] => .ok ⟨[], .any, false⟩
  | part :: rest =>
    -- Past an untyped member every name is taken as it is.
    if owner.isAny then .ok ⟨part :: rest, .any, true⟩
    else
      let members := s.members owner
      if members.isEmpty then
        .error (.traversal (previous.getD part) owner.name path FilterError.notNested)
      else
        match matchMember part (members.map Prod.fst) with
        | none =>
          .error (.fieldNotFound part owner.name (members.map Prod.fst) path
            FilterError.defaultCutoff)
        | some name =>
          let declared := (members.lookup name).getD .any
          let (inner, optional) := declared.unwrapOptional
          match rest with
          | [] => .ok ⟨[name], declared, optional⟩
          | _ :: _ =>
            -- More segments follow: the member must own members itself.
            if inner.element?.isSome then
              .error (.traversal name owner.name path FilterError.isCollection)
            else if !s.ownsMembers inner then
              .error (.traversal name owner.name path FilterError.notNested)
            else do
              let t ← follow s path inner (some name) rest
              return ⟨name :: t.attributes, t.declared, optional || t.nullable⟩

/-- The segments of a path; empty ones do not count. -/
def segments (path : String) : List String :=
  ((Text.splitChars (· == '.') path.toList).filter (!·.isEmpty)).map String.ofList

/-- The accessor of a path that starts at a type. -/
def resolve (s : Schema) (entity : TypeExpr) (path : String) : Except FilterError Accessor :=
  let path := Text.trim path
  match segments path with
  | [] => .error (.fieldNotFound path entity.name [] path FilterError.defaultCutoff)
  | parts => do
    let t ← s.follow path entity none parts
    let (valueType, optional) := t.declared.unwrapOptional
    return ⟨entity, path, t.attributes, t.declared, valueType, t.nullable || optional,
      valueType.element?⟩

end Schema

namespace Accessor

/-- The path ends at a collection. -/
def isCollection (a : Accessor) : Bool := a.element.isSome

/-- The path ends at an enumeration. -/
def isEnum (a : Accessor) : Bool :=
  match a.valueType with
  | .named (.enum _) => true
  | _ => false

/-- The value at the end of the path; null ends the path early. -/
def read (a : Accessor) (s : Schema) (candidate : Value) : Except Failure Value :=
  a.attributes.foldlM (fun v name => if v.isNull then .ok .null else s.read v name) candidate

end Accessor

end Criteria
