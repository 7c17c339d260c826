import Criteria.Filter.Error
import Criteria.Value.Equality
import Criteria.Value.Lenient

/-!
# Fitting Payloads to Their Form

A payload is taken apart member by member. Everything that does not fit is
collected, in the order of the members, each with the path to its place.

A member may be named in either of two ways, with a capital letter in front or
not; of two members of one name the later one counts.

## Main definitions

* `Misfit`: What does not fit, and where.
* `Fitted`: A result, or all that does not fit.
* `Fitted.both`, `fitAll`: Results of several parts.
* `Fitted.reported`, `Fitted.located`: The result, or the error reported.
* `Members`: The members of an object.
* `Members.fit`: A member, as what it should be.
-/

namespace Criteria

/-- What does not fit, and where. -/
structure Misfit where
  path : List String
  /-- The error in the library's own words, where it has some. -/
  error : Option FilterError
  deriving Inhabited

/-- A result, or all that does not fit. -/
inductive Fitted (α : Type) where
  | fits (a : α)
  | misfits (es : List Misfit)
  deriving Inhabited

namespace Fitted

variable {α β : Type}

/-- A result made of the result. -/
def map (f : α → β) : Fitted α → Fitted β
  | fits a => fits (f a)
  | misfits es => misfits es

/-- The result of two parts; if neither fits, all that does not fit. -/
def both : Fitted (α → β) → Fitted α → Fitted β
  | fits f, a => a.map f
  | misfits es, fits _ => misfits es
  | misfits es, misfits fs => misfits (es ++ fs)

instance : Applicative Fitted where
  pure := fits
  map := map
  seq f a := both f (a ())

/-- What follows from the result. -/
def andThen (a : Fitted α) (f : α → Fitted β) : Fitted β :=
  match a with
  | fits a => f a
  | misfits es => misfits es

/-- The result for what is found at a step of the path. -/
def beneath (step : String) : Fitted α → Fitted α
  | fits a => fits a
  | misfits es => misfits (es.map fun e => { e with path := step :: e.path })

/-- What does not fit at the very place that is looked at. -/
def misfit : Fitted α :=
  misfits [⟨[], none⟩]

/-- The place does not fit, in the library's own words. -/
def misfitWith (e : FilterError) : Fitted α :=
  misfits [⟨[], some e⟩]

/-- The result if there is one. -/
def ofOption : Option α → Fitted α
  | some a => fits a
  | none => misfit

/-- The path of what is met first. -/
def firstPath (es : List Misfit) : List String :=
  (es.head?.map (·.path)).getD []

/-- The error reported for a payload: the first in the library's own words, if
    there are any, else the first path. -/
def fault (es : List Misfit) : Fault :=
  .filter ((es.findSome? (·.error)).getD (.schema (.invalidPayload (firstPath es))))

/-- The result, or the error reported for a payload. -/
def reported : Fitted α → Except Fault α
  | fits a => .ok a
  | misfits es => .error (fault es)

/-- The result, or the first path. -/
def located : Fitted α → Except Fault α
  | fits a => .ok a
  | misfits es => .error (.invalid (firstPath es))

end Fitted

open Fitted

/-- The results of all parts, from the part at a place on. -/
def fitAllFrom {α β : Type} (fit : α → Fitted β) : Nat → List α → Fitted (List β)
  | _, [] => fits []
  | i, a :: as => List.cons <$> (fit a).beneath (toString i) <*> fitAllFrom fit (i + 1) as

/-- The elements of a list, each as what it should be. -/
def fitAll {β : Type} (fit : Value → Fitted β) (v : Value) : Fitted (List β) :=
  (ofOption (Lenient.list? v)).andThen (fitAllFrom fit 0)

/-- A result for what is not null, and a given one for null. -/
def unlessNull {α : Type} (a : α) (fit : Value → Fitted α) (v : Value) : Fitted α :=
  if v.isNull then fits a else fit v

/-- A text. -/
def fitText (v : Value) : Fitted String :=
  ofOption (Lenient.text? v)

/-- A text, or null. -/
def fitText? (v : Value) : Fitted (Option String) :=
  unlessNull none (fun v => some <$> fitText v) v

/-- The members of an object under their names, the later ones first. -/
abbrev Members : Type := List (String × Value)

namespace Members

/-- The members of an object, their names with a small letter in front. -/
def ofEntries (entries : List (Value × Value)) : Members :=
  ((Value.textEntries entries).map fun (k, v) => (Text.lowerFirst k, v)).reverse

/-- The name that a member is found under and the member itself, if it is
    there; the first name is preferred. -/
def find (ms : Members) (name other : String) : String × Option Value :=
  match ms.lookup name, ms.lookup other with
  | some v, _ => (name, some v)
  | none, some v => (other, some v)
  | none, none => (name, none)

/-- A member as what it should be, or else its default. -/
def fit {α : Type} (ms : Members) (name other : String) (default : Fitted α)
    (read : Value → Fitted α) : Fitted α :=
  match ms.find name other with
  | (found, some v) => (read v).beneath found
  | (found, none) => default.beneath found

end Members

/-- The members of a value that should be an object. -/
def membersOf (v : Value) : Fitted Members :=
  match v with
  | .dict es => fits (.ofEntries es)
  | _ => misfit

end Criteria
