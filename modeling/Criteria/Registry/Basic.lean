import Criteria.Filter.Error
import Criteria.Registry.Signature
import Criteria.Spec.Basic

/-!
# The Registry of Specifications

Specifications that a query may refer to by name. A name stands for at most one
registration. What is registered may be about one type of entity; it is then
resolved only for that type and types that extend it.

## Main definitions

* `Maker`: How specifications are made from arguments.
* `Offer`: What may be offered as a maker.
* `SpecType`: A type of specifications.
* `Registration`, `Registry`: What names stand for.
* `Registry.Access`: Work on a registry that changes it.
* `Registry.register`, `Registry.registerMaker`: Registering a type of
  specifications, or a maker.
* `Registry.unregister`, `Registry.clear`: Taking names out.
* `Registry.resolve`: The specification a name stands for.
-/

namespace Criteria

/-- What a maker has made. -/
inductive Made where
  | spec (s : Spec)
  /-- A value of the named type, which is no specification. -/
  | other (typeName : String)

/-- How specifications are made from arguments. -/
structure Maker where
  /-- The parameters, if they are known. -/
  signature : Option Signature
  make : List Value → Except Fault Made

/-- What may be offered as a maker. -/
inductive Offer where
  | maker (m : Maker)
  /-- A value that cannot make anything, by its literal. -/
  | other (literal : String)

/-- A type of specifications. -/
structure SpecType where
  name : String
  literal : String
  /-- The type of entity that the specifications are about. -/
  entity : Option TypeExpr
  /-- Its members tell candidates apart and can be reported. -/
  isSpecification : Bool
  maker : Maker

/-- What a name stands for. -/
structure Registration where
  name : String
  maker : Maker
  /-- The name of the type of specifications, if it is one. -/
  type : Option String
  /-- The type of entity that the specifications are about. -/
  entity : Option TypeExpr

/-- The registrations, in order. -/
abbrev Registry : Type := List Registration

/-- Entities of the first type are entities of the second. A type without any
    restriction counts as one that extends nothing but the type of all objects. -/
def Schema.isCompatible (s : Schema) : TypeExpr → TypeExpr → Bool
  | .named t, .named u => s.isSubtype t u
  | .any, .any | .any, .named .object => true
  | _, _ => false

/-- Entities of the first type are entities of the second, if both are known. -/
def Schema.mayBe (s : Schema) : Option TypeExpr → Option TypeExpr → Bool
  | some t, some u => s.isCompatible t u
  | _, _ => true

/-- The name of a type, if there is one. -/
def typeNameOr (t : Option TypeExpr) : String :=
  (t.map TypeExpr.name).getD ""

namespace Registry

/-- The registration of a name. -/
def find? (r : Registry) (name : String) : Option Registration :=
  List.find? (·.name == name) r

/-- The registered names, in order. -/
def names (r : Registry) : List String :=
  List.map (·.name) r

/-- Work on a registry, which is left in some state whether or not the work fails. -/
abbrev Access (α : Type) : Type := ExceptT Fault (StateM Registry) α

/-- The report that something cannot be registered. -/
def reject (message : String) : Access Unit :=
  throw (.filter (.registration message))

/-- Puts a registration into the registry, under a name that is free. -/
def add (entry : Registration) : Access Unit := do
  if entry.name = "" then reject "Specification name is required"
  if ((← getThe Registry).find? entry.name).isSome then
    reject ("Specification '" ++ entry.name ++ "' is already registered")
  modify (· ++ [entry])

/-- Registers a type of specifications, under its own name or another one. -/
def register (s : Schema) (t : SpecType) (name : Option String) (entity : Option TypeExpr) :
    Access Unit := do
  if !t.isSpecification then reject (t.literal ++ " does not implement ISpecification")
  if !s.mayBe entity t.entity then
    reject ("Specification '" ++ t.name ++ "' targets '" ++ typeNameOr t.entity ++ "', not '" ++
      typeNameOr entity ++ "'")
  add ⟨FilterError.textOr t.name name, t.maker, some t.name, t.entity.orElse fun _ => entity⟩

/-- Registers a maker of specifications. -/
def registerMaker (name : String) (offer : Offer) (entity : Option TypeExpr) : Access Unit :=
  match offer with
  | .maker m => add ⟨name, m, none, entity⟩
  | .other literal => reject (literal ++ " is not callable")

/-- Takes a name out of the registry, if it is there. -/
def unregister (name : String) : Access Unit :=
  modify (List.filter (·.name != name))

/-- Takes all names out of the registry. -/
def clear : Access Unit :=
  set ([] : Registry)

/-- The registration of a name, which must be there. -/
def get (r : Registry) (name : String) : Except Fault Registration :=
  match r.find? name with
  | some entry => .ok entry
  | none => failWith (.notRegistered name r.names)

/-- The name of the type of specifications that a name stands for. -/
def typeOf (r : Registry) (name : String) : Except Fault (Option String) := do
  return (← r.get name).type

/-- The report of what is wrong with the arguments, where the values are to
    blame. -/
def blamed (blame : String → FilterError) : Fault → Fault
  | .filter e => .filter (if e.isOfValue then blame e.message else e)
  | .refused r =>
    match r.cause with
    | .unreadable | .mismatch => .filter (blame r.reason)
    | _ => .refused r
  | .invalid _ => .filter (blame Refusal.unspecified)

/-- The specification a name stands for, made from arguments for a type of
    entity. -/
def resolve (r : Registry) (s : Schema) (name : String) (arguments : List Value)
    (entity : Option TypeExpr) : Except Fault Spec := do
  let entry ← r.get name
  let blame (reason : String) : FilterError := .arguments name (Value.list arguments).literal reason
  if !s.mayBe entity entry.entity then
    failWith (blame ("specification targets '" ++ typeNameOr entry.entity ++ "', not '" ++
      typeNameOr entity ++ "'"))
  else
    -- The count of arguments is checked before anything is made.
    match entry.maker.signature.bind (·.refusal? arguments.length) with
    | some reason => failWith (blame reason)
    | none =>
      match ← (entry.maker.make arguments).mapError (blamed blame) with
      | .spec spec => return spec
      | .other type => failWith (blame ("factory returned " ++ type))

end Registry

end Criteria
