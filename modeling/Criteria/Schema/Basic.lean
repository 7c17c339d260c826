import Criteria.Failure
import Criteria.Schema.TypeExpr

/-!
# Schemas

The enumerations and entity types that filters are about.

An entity type has fields, which its entities store, and properties, which are
computed from them. A type may extend another one; its fields and properties are
given in full. Named types form lineages: a type, then the types it extends, most
special first.

Texts are read as values of these types, and a date may be written without its year,
its month or its day. What it leaves open comes from the day on which it is read, so
that this day belongs to a schema. It is a day of its own: the clock from which
relative dates are counted (`Context.now`) may be set to any other time.

## Main definitions

* `EnumType`: An enumeration.
* `Field`, `Property`: The members of an entity type.
* `EntityType`: An entity type.
* `Schema`: The known enumerations and entity types, and the day of today.
* `Schema.lineage`: A named type and the types it extends.
* `Schema.isSubtype`, `Schema.isInstance`: Inclusion of types, and membership.
* `Schema.members`: The declared members of a type.
* `EntityType.build`: An entity with the given fields.
-/

namespace Criteria

/-- An enumeration. -/
structure EnumType where
  name : String
  kind : EnumKind
  /-- The members with what they stand for, in order. -/
  entries : List (String × EnumValue)
  /-- Further names of members. -/
  aliases : List (String × String)
  deriving Inhabited

namespace EnumType

/-- The members, in order. -/
def members (e : EnumType) : List EnumMember :=
  e.entries.zipIdx.map fun ((name, value), i) => ⟨e.name, e.kind, name, i, value⟩

/-- The member with a name, or with one of the further names. -/
def member? (e : EnumType) (name : String) : Option EnumMember :=
  let known := (e.aliases.lookup name).getD name
  e.members.find? (·.name == known)

end EnumType

/-- A member that entities store. -/
structure Field where
  name : String
  type : TypeExpr
  /-- What the field holds unless something else is given. -/
  default : Option Value
  /-- The field is part of the type's description. -/
  declared : Bool
  deriving Inhabited

/-- A member that is computed from the stored ones. -/
structure Property where
  name : String
  type : TypeExpr
  /-- The property is shown among the fields. -/
  shown : Bool
  compute : List (String × Value) → Except Failure Value

/-- An entity type. -/
structure EntityType where
  name : String
  form : EntityForm
  parent : Option String
  fields : List Field
  properties : List Property
  /-- How a wrapper makes its content from any value. -/
  convert : Option (Value → Value)

/-- The known enumerations and entity types, and the day of today. -/
structure Schema where
  enums : List EnumType
  entities : List EntityType
  /-- What a text leaves open of a date is taken from this day. -/
  today : Date

namespace EntityType

/-- The members, stored ones first. -/
def members (e : EntityType) : List (String × TypeExpr) :=
  (e.fields.filter (·.declared)).map (fun f => (f.name, f.type)) ++
    (e.properties.filter fun p => !e.fields.any (·.name == p.name)).map fun p => (p.name, p.type)

/-- The computed fields an entity is shown with; one that cannot be computed is
    left out. -/
def computed (e : EntityType) (fields : List (String × Value)) : List (String × Value) :=
  (e.properties.filter (·.shown)).filterMap fun p =>
    (p.compute fields).toOption.map (p.name, ·)

/-- The entity with exactly the given fields. -/
def ofFields (e : EntityType) (fields : List (String × Value)) : Value :=
  .entity e.name e.form fields (e.computed fields)

/-- An entity with the given fields; the others hold their defaults, and those
    without one stay absent. -/
def build (e : EntityType) (given : List (String × Value)) : Value :=
  e.ofFields <| e.fields.filterMap fun f =>
    ((given.lookup f.name).orElse fun _ => f.default).map (f.name, ·)

end EntityType

namespace Schema

/-- The enumeration with a name. -/
def enum? (s : Schema) (name : String) : Option EnumType :=
  s.enums.find? (·.name == name)

/-- The entity type with a name. -/
def entity? (s : Schema) (name : String) : Option EntityType :=
  s.entities.find? (·.name == name)

/-- The scalar type that the members of an enumeration also belong to. -/
def enumBase : EnumKind → List NamedType
  | .plain => []
  | .integral => [.int]
  | .textual | .wire => [.text]

/-- The entity types a type extends, nearest first; a chain is never longer than
    the schema. -/
def ancestors (s : Schema) : Nat → String → List NamedType
  | 0, _ => []
  | fuel + 1, name =>
    match (s.entity? name).bind (·.parent) with
    | some p => .entity p :: ancestors s fuel p
    | none => []

/-- A named type and the types it extends, most special first. -/
def lineage (s : Schema) (t : NamedType) : List NamedType :=
  t :: (match t with
    | .bool => [.int]
    | .moment => [.date]
    | .enum name => ((s.enum? name).map fun e => enumBase e.kind).getD []
    | .entity name => s.ancestors s.entities.length name
    | _ => []) ++ (if t = .object then [] else [.object])

/-- Every value of the first type is one of the second. -/
def isSubtype (s : Schema) (t u : NamedType) : Bool :=
  (s.lineage t).contains u

/-- The value belongs to the type. -/
def isInstance (s : Schema) (v : Value) (t : NamedType) : Bool :=
  s.isSubtype (.ofValue v) t

/-- What an identifier can be asked for. -/
def uuidMembers : List String :=
  ["bytes", "bytes_le", "fields", "time_low", "time_mid", "time_hi_version",
    "clock_seq_hi_variant", "clock_seq_low", "time", "clock_seq", "node", "hex", "urn", "variant",
    "version"]

/-- The declared members of a type; most types have none. -/
def members (s : Schema) : TypeExpr → List (String × TypeExpr)
  | .named (.entity name) => ((s.entity? name).map EntityType.members).getD []
  | .named .uuid => uuidMembers.map (·, .any)
  | _ => []

end Schema

end Criteria
