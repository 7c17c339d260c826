import Criteria.Failure

/-!
# Refusals

Why a single step gives no result, together with the words for it where the
library has some.

Most refusals arise from a value that cannot be read as what it should be. Such
a refusal keeps the text of the value, not the value itself, because that text
is all a message shows.

## Main definitions

* `Refusal`: Why a step gives no result.
* `Refusal.cause`: The failure behind a refusal.
* `Refusal.message?`: The words for a refusal.
-/

namespace Criteria

/-- Why a step gives no result. -/
inductive Refusal where
  /-- A failure the library has no words for. -/
  | failed (cause : Failure)
  /-- A failure in the words of whoever supplied the step. -/
  | stated (cause : Failure) (words : String)
  /-- The literal is no truth value. -/
  | boolean (literal : String)
  /-- The text is no length of time. -/
  | interval (text : String)
  /-- The literal is no time of day. -/
  | clock (literal : String)
  | emptyDate
  /-- The literal is no unit of the calendar. -/
  | calendarUnit (literal : String)
  /-- The number is neither zero nor one. -/
  | notBoolean (literal : String)
  /-- The number has a fractional part. -/
  | notWhole (literal : String)
  /-- The token is no member of the enumeration. -/
  | notMember (token enum : String) (names : List String)
  /-- The literal is no member of the wire enumeration. -/
  | notWire (literal enum : String)
  /-- The operator is no quantifier that stands on its own. -/
  | quantifier (operator : String)
  | emptyAlternatives
  | pageTooLow
  | pageSizeTooLow
  | depthTooLow
  deriving DecidableEq, Inhabited

namespace Refusal

/-- The failure behind a refusal. -/
def cause : Refusal → Failure
  | failed c | stated c _ => c
  | _ => .unreadable

/-- The words for a refusal. -/
def message? : Refusal → Option String
  | failed _ => none
  | stated _ words => some words
  | boolean l => some ("Unrecognised boolean value: " ++ l)
  | interval t => some ("Unrecognised interval format: " ++ t)
  | clock l => some ("Unrecognised time format: " ++ l)
  | emptyDate => some "Empty date value"
  | calendarUnit l => some ("Unsupported time unit: " ++ l)
  | notBoolean l => some (l ++ " is not a boolean")
  | notWhole l => some (l ++ " is not an integral number")
  | notMember token enum names =>
    some ("'" ++ token ++ "' is not a valid " ++ enum ++ "; expected one of " ++
      ", ".intercalate names)
  | notWire l enum => some (l ++ " is not a valid " ++ enum)
  | quantifier op => some ("Unsupported quantifier: " ++ op)
  | emptyAlternatives => some "Cannot OR-fold an empty sequence of specifications"
  | pageTooLow => some "Page must be at least 1"
  | pageSizeTooLow => some "Page size must be at least 1"
  | depthTooLow => some "Hierarchy max depth must be at least 1"

/-- The reason given where there are no words. -/
def unspecified : String := "<library>"

/-- The words for a refusal, or what stands in their place. -/
def reason (r : Refusal) : String :=
  r.message?.getD unspecified

end Refusal

/-- A failure without words. -/
def refuse {α : Type} (cause : Failure) : Except Refusal α :=
  .error (.failed cause)

/-- The result of a step whose failures have no words. -/
def unworded {α : Type} : Except Failure α → Except Refusal α
  | .ok a => .ok a
  | .error f => refuse f

/-- The result of a step that fails in one way only. -/
def expected {α : Type} (r : Refusal) : Option α → Except Refusal α
  | some a => .ok a
  | none => .error r

end Criteria
