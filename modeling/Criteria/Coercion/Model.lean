import Criteria.Coercion.Token
import Criteria.Schema.Basic
import Criteria.Value.Lenient
import Criteria.Value.Reading

/-!
# Building Models from Tables

A model is built from a table that has a suitable value for each of its fields.
Fields with a default may be missing, and entries that name no field are
ignored. How far values may deviate from the declared types is the same as for
payloads.

## Main definitions

* `Schema.fits`: A value as one of a declared type.
* `Schema.buildModel`: The model a table stands for.
-/

namespace Criteria

namespace Schema

/-- A value as one of a named scalar type. -/
def fitsScalar (s : Schema) (t : NamedType) (v : Value) : Option Value :=
  match t with
  | .null => if v.isNull then some v else none
  | .object => some v
  | .bool => (Lenient.bool? v).map .bool
  | .int => (Lenient.int? v).map .int
  | .text => (Lenient.text? v).map .text
  | .float =>
    match v with
    | .bool b => some (.float (.ofNat b.toNat))
    | .text x => (readBinary64? x).map .float
    | _ => v.number?.map fun d => .float (.ofDecimal d)
  | .decimal =>
    match v with
    | .decimal d => if d.isUndefined then none else some v
    | .int n => some (.decimal (.ofInt n))
    | .float x => (readDecimal? x.text).filter (!·.isUndefined) |>.map .decimal
    | .text x => (readDecimal? x).filter (!·.isUndefined) |>.map .decimal
    | _ => none
  | .date =>
    match v with
    | .date _ => some v
    | .moment m => if m.time = .midnight then some (.date m.date) else none
    | .text x => (readIsoDate? x).map .date
    | _ => none
  | .moment =>
    -- Whole numbers count seconds here; fractions of them are not read.
    match v with
    | .moment _ => some v
    | .date d => some (.moment (.ofDate d none))
    | .text x => (readIsoMoment? (Value.spellUniversal x)).map .moment
    | .int n => ((Binary64.ofInt? n).bind fun x => (Moment.ofEpoch x).toOption).map .moment
    | _ => none
  | .clock =>
    match v with
    | .clock _ => some v
    | .text x => (readIsoTime? x).map .clock
    | _ => none
  | .duration =>
    match v with
    | .duration _ => some v
    | .int n => ((Binary64.ofInt? n).bind fun x => (Duration.ofSeconds x).toOption).map .duration
    | .float x => (Duration.ofSeconds x).toOption.map .duration
    | _ => none
  | .uuid =>
    match v with
    | .uuid _ => some v
    | .text x => (Uuid.read? x).map .uuid
    | _ => none
  | .bytes =>
    match v with
    | .bytes _ => some v
    | .text x => some (.bytes x.toUTF8.toList)
    | _ => none
  | .enum name =>
    if s.isInstance v t then some v
    else
      (s.enum? name).bind fun e =>
        (e.members.find? fun m => Value.equal m.value.toValue v).map .member
  | .list => (Lenient.list? v).map .list
  | .tuple => (Lenient.list? v).map .tuple
  | .set => (Lenient.list? v).map fun xs => .set false (Value.dedupe xs)
  | .frozenset => (Lenient.list? v).map fun xs => .set true (Value.dedupe xs)
  | .dict =>
    match v with
    | .dict _ => some v
    | _ => none
  | .entity _ => if s.isInstance v t then some v else none

/-- A collection of a generic type. -/
def collect (g : Generic) (xs : List Value) : Value :=
  match g with
  | .tuple => .tuple xs
  | .set | .mutableSet | .abstractSet => .set false (Value.dedupe xs)
  | .frozenset => .set true (Value.dedupe xs)
  | _ => .list xs

/-- The value already is of the type. -/
def isExactly (s : Schema) (v : Value) : TypeExpr → Bool
  | .named t => s.isInstance v t
  | _ => false

/-- A value as one of a declared type, to a given depth. -/
def fitsTo (s : Schema) : Nat → TypeExpr → Value → Option Value
  | 0, _, _ => none
  | fuel + 1, t, v =>
    match t with
    | .any => some v
    | .named (.entity name) =>
      match s.isInstance v (.entity name), v, s.entity? name with
      | true, _, _ => some v
      | false, .dict entries, some e => (fitsFields fuel e entries).map e.ofFields
      | _, _, _ => none
    | .named t => s.fitsScalar t v
    | .tupleOf t => do return .tuple (← (← Lenient.list? v).mapM (fitsTo s fuel t))
    | .generic .tuple ts => do
      let xs ← Lenient.list? v
      if xs.length = ts.length then
        return .tuple (← (ts.zip xs).mapM fun (t, x) => fitsTo s fuel t x)
      else none
    | .generic g ts =>
      match g.isCollection, ts, v with
      | true, t :: _, _ => do return collect g (← (← Lenient.list? v).mapM (fitsTo s fuel t))
      | false, [k, x], .dict entries => do
        return .dict (← entries.mapM fun e => do
          return (← fitsTo s fuel k e.1, ← fitsTo s fuel x e.2))
      | _, _, _ => none
    | .union arms =>
      -- An arm the value already belongs to is preferred over the first that fits.
      match arms.find? (s.isExactly v) with
      | some a => fitsTo s fuel a v
      | none => arms.findSome? fun a => fitsTo s fuel a v
    | .unresolved _ => none
where
  /-- The fields of a model, from the entries of a table. -/
  fitsFields (fuel : Nat) (e : EntityType) (entries : List (Value × Value)) :
      Option (List (String × Value)) :=
    if e.form = .model then
      e.fields.mapM fun f =>
        match (Value.textEntries entries).lookup f.name with
        | some x => (fitsTo s fuel f.type x).map (f.name, ·)
        | none => f.default.map (f.name, ·)
    else none

/-- A value as one of a declared type. A level of the value meets at most a union
    and one of its arms. -/
def fits (s : Schema) (t : TypeExpr) (v : Value) : Option Value :=
  s.fitsTo (2 * v.depth + 2) t v

/-- The model of a type that a value stands for. -/
def buildModel (s : Schema) (name : String) (v : Value) : Option Value :=
  s.fits (.named (.entity name)) v

end Schema

end Criteria
