import Criteria.Filter.Error
import Criteria.Value.Reading
import Criteria.Value.Whole

/-!
# Parameters of Custom Filters

What a custom filter is told, by keys in any case. A few parameters have several
spellings, and a parameter that is null or an empty text counts as missing.
Every way of asking for a parameter reports what is wrong with it in the
library's own words.

## Main definitions

* `Parameters`: The parameters of a custom filter.
* `Parameters.get?`: A parameter that is there.
* `Parameters.require`: A parameter that has to be there.
* `Parameters.flag`, `Parameters.integer`, `Parameters.choice`, `Parameters.values`:
  A parameter as a truth, a whole number, one of some words, a list.
-/

namespace Criteria

/-- The parameters of a custom filter, the later ones first. -/
structure Parameters where
  type : CustomType
  /-- The values by their keys in lower case. -/
  entries : List (String × Value)

namespace Parameters

/-- The parameters with the given keys. -/
def ofEntries (type : CustomType) (entries : List (String × Value)) : Parameters :=
  ⟨type, (entries.map fun (k, v) => (Text.lower k, v)).reverse⟩

/-- The parameters in a table, whose keys may be anything. -/
def ofTable (type : CustomType) (entries : List (Value × Value)) : Parameters :=
  ofEntries type (entries.map fun (k, v) => (k.display, v))

/-- The spellings of a key. -/
def spellings (key : String) : List String :=
  match key with
  | "start" => ["start", "startDate", "startTime", "from"]
  | "end" => ["end", "endDate", "endTime", "to"]
  | "searchTerm" => ["searchTerm", "term", "query"]
  | key => [key]

/-- Null and the empty text count as missing. -/
def isMissing (v : Value) : Bool :=
  v.isNull || v.text? == some ""

/-- A parameter that is there, under the first spelling that is. -/
def get? (p : Parameters) (key : String) : Option Value :=
  (spellings key).findSome? fun s => (p.entries.lookup (Text.lower s)).filter (!isMissing ·)

/-- Those of the keys that are missing. -/
def missing (p : Parameters) (keys : List String) : List String :=
  keys.filter fun k => (p.get? k).isNone

/-- Parameters that have to be there. -/
def requireAll (p : Parameters) (keys : List String) : Except Fault (List Value) :=
  match p.missing keys with
  | [] => .ok (keys.filterMap p.get?)
  | missing => defective (.missingParameters p.type missing)

/-- A parameter that has to be there. -/
def require (p : Parameters) (key : String) : Except Fault Value :=
  match p.get? key with
  | some v => .ok v
  | none => defective (.missingParameters p.type [key])

/-- Two parameters that have to be there. -/
def requireBoth (p : Parameters) (first second : String) : Except Fault (Value × Value) :=
  match p.get? first, p.get? second with
  | some a, some b => .ok (a, b)
  | _, _ => defective (.missingParameters p.type (p.missing [first, second]))

/-- A parameter as a truth, which has a default. -/
def flag (p : Parameters) (key : String) (default : Bool) : Except Fault Bool :=
  match p.get? key with
  | none => .ok default
  | some v =>
    match v.readBool with
    | .ok b => .ok b
    | .error r => defective (.notBoolean key (r.message?.getD ""))

/-- A parameter as a whole number. -/
def integer (p : Parameters) (key : String) : Except Fault Int := do
  let v ← p.require key
  match v.whole with
  | .ok n => return n
  | .error .overflow => passing (refuse .overflow)
  | .error _ => defective (.notInteger key v.literal)

/-- The word among the choices that a text stands for, singular or plural. -/
def chosen? (choices : List String) (text : String) : Option String :=
  if choices.contains text then some text
  else
    let singular := String.ofList (Text.dropEndWhile (· == 's') text.toList)
    if choices.contains singular then some singular else none

/-- A parameter as one of some words. -/
def choice (p : Parameters) (key : String) (choices : List String) : Except Fault String := do
  let v ← p.require key
  match chosen? choices (Text.lower (Text.trim v.display)) with
  | some word => return word
  | none => defective (.notAChoice key choices v.literal)

/-- A parameter as a list with at least one element; elements of a text stand
    between semicolons. -/
def values (p : Parameters) (key : String) : Except Fault (List Value) := do
  match (← p.require key).readList [';'] with
  | [] => defective (.noValues key)
  | vs => return vs

end Parameters

end Criteria
