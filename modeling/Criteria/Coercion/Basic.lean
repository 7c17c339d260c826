import Criteria.Coercion.Model
import Criteria.Filter.Error
import Criteria.Spec.Transform
import Criteria.Value.Temporal

/-!
# Coercion

Converting a loosely typed operand to the type of a field.

Null stays null, and a type that is not named leaves values as they are.
Collections are converted element by element. A converter registered for the
type, or for one it extends, is asked first. Numbers and texts have rules of
their own for each type; everything else passes if it already is of the type,
and is otherwise handed to whatever builds values of that type.

Whatever goes wrong on the way is reported as a value that cannot be converted,
with the reason where the library has words for it.

## Main definitions

* `Converter`: How values are converted to a type.
* `Coercer`: The registered converters.
* `Schema.ofNumber`, `Schema.ofText`, `Schema.construct`: The rules for numbers,
  for texts and for other values.
* `Coercer.coerce`: The conversion of a value to a type.
-/

namespace Criteria

/-- How values are converted to a type. -/
def Converter : Type := Value → Except Fault Value

/-- The registered converters. -/
abbrev Coercer : Type := List (NamedType × Converter)

namespace Schema

/-- The member of an enumeration that a token stands for. -/
def parseMember (s : Schema) (name : String) (token : Value) : Except Refusal Value :=
  match s.enum? name with
  | some e => (e.parse token).map .member
  | none => refuse .unreadable

/-- The whole number that a text stands for; it may be written as a decimal
    without a fractional part. -/
def wholeOfText (text : String) : Except Refusal Int :=
  match readInt? text with
  | some n => .ok n
  | none =>
    match readDecimal? text with
    | none => refuse .undefinedResult
    | some d =>
      if d.isSignaling then refuse .undefinedResult
      else if !d.isWhole then .error (.notWhole (Text.quoted text))
      else expected (.failed .overflow) d.truncate?

/-- The whole number that a number stands for, its fraction cut off if it is a
    decimal. -/
def wholeOfNumber (v : Value) : Except Refusal Int :=
  match v with
  | .float x =>
    if x.isWhole then expected (.failed .overflow) x.truncate? else .error (.notWhole v.literal)
  | _ =>
    match v.number? with
    | some (.undefined ..) => refuse .unreadable
    | some d => expected (.failed .overflow) d.truncate?
    | none => refuse .mismatch

/-- The decimal a text stands for. -/
def decimalOfText (text : String) : Except Refusal Value :=
  (expected (.failed .undefinedResult) (readDecimal? text)).map .decimal

/-- Zero or one as a truth. -/
def boolOfNumber (v : Value) : Except Refusal Value := do
  let isZero ← unworded (Value.equal? v (.int 0))
  let isOne ← unworded (Value.equal? v (.int 1))
  if isZero then return .bool false
  else if isOne then return .bool true
  else .error (.notBoolean v.literal)

/-- The whole number that a value counts as where an index is wanted. -/
def index? : Value → Option Int
  | .int n => some n
  | .bool b => some b.toInt
  | .member ⟨_, .integral, _, _, .int n⟩ => some n
  | _ => none

/-- The bound of counts that an index may express. -/
def indexBound : Nat := Nat.pow 2 31

/-- The full hour that a number stands for. -/
def hourOf (v : Value) : Except Refusal Value :=
  match index? v with
  | none => refuse .mismatch
  | some n =>
    if indexBound ≤ n.natAbs then refuse .overflow
    else if n < 0 then refuse .unreadable
    else
      match TimeOfDay.of? n.toNat 0 0 0 with
      | some t => .ok (.clock ⟨t, none⟩)
      | none => refuse .unreadable

/-- More bytes than this have no number. -/
def maxZeros : Nat := Nat.pow 2 63

/-- More bytes than this are too many to be kept. -/
def keptZeros : Nat := Nat.pow 2 28

/-- The byte that a number stands for. -/
def byteOf (v : Value) : Except Refusal UInt8 :=
  match index? v with
  | some n => if 0 ≤ n ∧ n < 256 then .ok (UInt8.ofNat n.toNat) else refuse .unreadable
  | none => refuse .mismatch

/-- Bytes: as many zeros as a number says, or those that a collection holds. -/
def bytesOf (v : Value) : Except Refusal Value :=
  match index? v with
  | some n =>
    if n < 0 then refuse .unreadable
    else if maxZeros ≤ n.toNat then refuse .overflow
    else if keptZeros ≤ n.toNat then refuse .exhausted
    else .ok (.bytes (List.replicate n.toNat 0))
  | none =>
    match v with
    | .dict es =>
      (es.mapM fun e => byteOf e.1).map .bytes
    | _ => refuse .mismatch

/-- Only values that can replace parts of themselves get as far as being no
    text. -/
def uuidFailure : Value → Failure
  | .date _ | .moment _ | .clock _ | .bytes _ => .mismatch
  | _ => .noMember

/-- A table, from the fields of a model or from nothing. -/
def dictOf : Value → Except Refusal Value
  | .dict es => .ok (.dict es)
  | .entity _ .model fields _ => .ok (Value.table fields)
  | v =>
    match v, v.text? with
    | .bytes [], _ | _, some "" => .ok (.dict [])
    | _, some _ => refuse .unreadable
    | _, none => refuse .mismatch

/-- The elements met in a value, which must be hashable for a set. -/
def collectionOf (t : NamedType) (v : Value) : Except Refusal Value := do
  let xs ← unworded v.iterate
  let asSet (frozen : Bool) : Except Refusal Value :=
    if Value.allHashable xs then .ok (.set frozen (Value.dedupe xs)) else refuse .mismatch
  match t with
  | .tuple => return .tuple xs
  | .set => asSet false
  | .frozenset => asSet true
  | _ => return .list xs

/-- A record with the value in its first field. -/
def recordOf (e : EntityType) (v : Value) : Except Refusal Value :=
  match e.form, e.fields with
  | .record, f :: rest =>
    if rest.all (·.default.isSome) then .ok (e.build [(f.name, v)]) else refuse .mismatch
  | _, _ => refuse .mismatch

/-- An entity of a type, from any value. -/
def entityOf (s : Schema) (name : String) (v : Value) : Except Fault Value :=
  match s.entity? name with
  | none => passing (refuse .mismatch)
  | some e =>
    match e.convert with
    | some f => .ok (f v)
    | none =>
      if e.form = .model then ((s.buildModel name v).elim (.error (.invalid [])) .ok)
      else passing (recordOf e v)

/-- The number that bytes of digits or an identifier stand for. -/
def wholeOfOther : Value → Except Refusal Value
  | .bytes bs =>
    (expected (.failed .unreadable) ((textOfAscii? bs).bind (readBare? readInt?))).map .int
  | .uuid u => .ok (.int u.value)
  | _ => refuse .mismatch

/-- A value of the type, made of one that is neither of the type nor covered by
    other rules. -/
def construct (s : Schema) (t : NamedType) (v : Value) : Except Fault Value :=
  match t with
  | .bool => .ok (.bool v.isTrue)
  | .int => passing (wholeOfOther v)
  | .float => passing (unworded ((Transform.toFloat v).map .float))
  | .text => .ok (.text v.display)
  | .bytes => passing (bytesOf v)
  | .clock => passing (hourOf v)
  | .uuid => passing (refuse (uuidFailure v))
  | .list | .tuple | .set | .frozenset => passing (collectionOf t v)
  | .dict => passing (dictOf v)
  | .enum _ => passing (refuse .unreadable)
  | .entity name => s.entityOf name v
  | .null | .object | .decimal | .date | .moment | .duration => passing (refuse .mismatch)

/-- The value, if it is of the type, or one made of it. -/
def ofOther (s : Schema) (t : NamedType) (v : Value) : Except Fault Value :=
  if s.isInstance v t then .ok v else s.construct t v

/-- The instant at a number of seconds. -/
def instantOf (v : Value) : Except Refusal Moment := do
  unworded (do Moment.ofEpoch (← Transform.toFloat v))

/-- A value of the type, from a number or a truth. -/
def ofNumber (s : Schema) (t : NamedType) (v : Value) : Except Fault Value :=
  match t with
  | .enum name => passing (s.parseMember name v)
  | .bool => passing (boolOfNumber v)
  | .int => passing ((wholeOfNumber v).map .int)
  | .float => passing (unworded ((Transform.toFloat v).map .float))
  | .decimal => passing (decimalOfText v.display)
  | .text =>
    -- A truth is written as on the wire, not as it is displayed.
    match v with
    | .bool b => .ok (.text (if b then "true" else "false"))
    | _ => .ok (.text v.display)
  | .moment => passing ((instantOf v).map .moment)
  | .date => passing ((instantOf v).map fun m => .date m.date)
  | .duration =>
    passing (unworded (do return .duration (← Duration.ofSeconds (← Transform.toFloat v))))
  | t => s.ofOther t v

/-- A value of the type, from a text. -/
def ofText (s : Schema) (t : NamedType) (v : Value) (text : String) : Except Fault Value :=
  let trimmed := Text.trim text
  match t with
  | .enum name => passing (s.parseMember name v)
  | .text => .ok (.text v.display)
  | .bool => passing ((Value.readBool (.text trimmed)).map .bool)
  | .int => passing ((wholeOfText trimmed).map .int)
  | .float => passing (unworded ((Transform.readFloat trimmed).map .float))
  | .decimal => passing (decimalOfText trimmed)
  | .moment => passing ((Value.readMoment (.text trimmed) s.today).map .moment)
  | .date => passing ((Value.readDate (.text trimmed) s.today).map .date)
  | .clock => passing ((Value.readTime (.text trimmed)).map .clock)
  | .duration => passing ((Value.readDuration (.text trimmed)).map .duration)
  | .uuid => passing ((expected (.failed .unreadable) (Uuid.read? trimmed)).map .uuid)
  | t => s.ofOther t v

end Schema

namespace Coercer

/-- The converters with one more, or with the one of that type replaced. -/
def register (c : Coercer) (t : NamedType) (f : Converter) : Coercer :=
  (t, f) :: c.filter fun e => e.1 ≠ t

/-- The converters without the one of a type. -/
def unregister (c : Coercer) (t : NamedType) : Coercer :=
  c.filter fun e => e.1 ≠ t

/-- The converter of a type, or of the nearest type it extends. -/
def find? (c : Coercer) (s : Schema) (t : NamedType) : Option Converter :=
  (s.lineage t).findSome? fun u => c.lookup u

/-- The value is a number or a truth. -/
def isNumber (v : Value) : Bool :=
  v.number?.isSome

/-- The report of what went wrong, if it is due to the value. -/
def reported (v : Value) (target : String) : Fault → Fault
  -- A conversion inside a converter has been reported already.
  | .filter (.coercion literal target' reason) => .filter (.coercion literal target' reason)
  | .filter e =>
    .filter (if e.isOfValue then .coercion v.literal target (some e.message) else e)
  | .refused r =>
    match r.cause with
    | .unreadable | .mismatch | .overflow | .undefinedResult =>
      .filter (.coercion v.literal target (some r.reason))
    | _ => .refused r
  | .invalid _ => .filter (.coercion v.literal target (some Refusal.unspecified))

/-- The conversion of a value that is neither null nor a collection. -/
def convert (c : Coercer) (s : Schema) (t : NamedType) (v : Value) : Except Fault Value :=
  -- A converter of the type takes all values; the rules below are for the rest.
  match c.find? s t with
  | some f => f v
  | none =>
    if isNumber v then s.ofNumber t v
    else
      match v.text? with
      | some text => s.ofText t v text
      | none => s.ofOther t v

mutual

/-- The conversion of a value to a named type. -/
def coerceTo (c : Coercer) (s : Schema) (t : NamedType) : Value → Except Fault Value
  | .null => .ok .null
  | .list xs => (coerceAll c s t xs).map .list
  | .tuple xs => (coerceAll c s t xs).map .list
  | .set _ xs => (coerceAll c s t xs).map .list
  | v => (c.convert s t v).mapError (reported v t.name)
termination_by structural v => v

/-- The conversion of several values to a named type. -/
def coerceAll (c : Coercer) (s : Schema) (t : NamedType) :
    List Value → Except Fault (List Value)
  | [] => .ok []
  | x :: xs => do return (← coerceTo c s t x) :: (← coerceAll c s t xs)
termination_by structural xs => xs

end

/-- The conversion of a value to a declared type. -/
def coerce (c : Coercer) (s : Schema) (t : TypeExpr) (v : Value) : Except Fault Value :=
  match t.unwrapOptional.1 with
  | .named u => c.coerceTo s u v
  | _ => .ok v

end Coercer

end Criteria
