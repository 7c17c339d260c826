import Criteria.Number.Reading
import Criteria.Refusal
import Criteria.Schema.Basic
import Criteria.Text.Case
import Criteria.Value.Equality
import Criteria.Value.Text

/-!
# Tokens of Enumerations

Which member of an enumeration a token stands for: the member of that name, in
any case, else the one that stands for that value or its text, else, where no
member stands for a whole number, the one at that place.

## Main definitions

* `EnumType.parse`: The member a token stands for.
-/

namespace Criteria

namespace EnumType

/-- The member has the name, in any case. -/
def isNamed (text : String) (m : EnumMember) : Bool :=
  Text.lower m.name == Text.lower text

/-- The member stands for the token's value, or for its text in any case. -/
def standsFor (token : Value) (text : String) (m : EnumMember) : Except Failure Bool := do
  let same ← Value.equal? m.value.toValue token
  return same || Text.lower m.value.toValue.display == Text.lower text

/-- The first member for which a test holds. -/
def firstMember (test : EnumMember → Except Failure Bool) :
    List EnumMember → Except Failure (Option EnumMember)
  | [] => .ok none
  | m :: ms => do if ← test m then return some m else firstMember test ms

/-- The text consists of digits, with any number of minus signs in front. -/
def isOrdinalText (text : String) : Bool :=
  let ds := text.toList.dropWhile (· == '-')
  !ds.isEmpty && ds.all Text.isDigit

/-- Some member stands for a whole number. -/
def hasInts (e : EnumType) : Bool :=
  e.members.any fun m => m.value.int?.isSome

/-- The member at a place, unless members stand for whole numbers. -/
def atPlace? (e : EnumType) (place : Int) : Option EnumMember :=
  if 0 ≤ place ∧ !e.hasInts then e.members[place.toNat]? else none

/-- The member a token stands for. -/
def parse (e : EnumType) (token : Value) : Except Refusal EnumMember :=
  let fromText : Except Refusal EnumMember := do
    let text := Text.trim token.display
    let unknown : Refusal := .notMember token.display e.name (e.members.map (·.name))
    -- A name wins over a value, and a value over a place in the order.
    match e.members.find? (isNamed text) with
    | some m => return m
    | none =>
      match ← unworded (firstMember (standsFor token text) e.members) with
      | some m => return m
      | none =>
        if isOrdinalText text then
          let place ← expected (.failed .unreadable) (readInt? text)
          expected unknown (e.atPlace? place)
        else .error unknown
  match token with
  | .member m => if m.type == e.name then .ok m else fromText
  | _ => fromText

end EnumType

end Criteria
