import Criteria.Schema.Basic
import Criteria.Text.Listing

/-!
# Reading Type Expressions

The type a written form stands for: names, generic types with arguments in
square brackets, arms divided by bars, and the word for an optional type.

## Main definitions

* `topLevelParts`: The parts of a text divided outside all brackets.
* `Schema.readType?`: The type a text stands for.
-/

namespace Criteria

/-- The parts of a text divided by a mark that stands outside all brackets; the
    part before the first of the characters is collected in reverse. -/
def topLevelParts (mark : Char) : Nat → List Char → List Char → List (List Char)
  | _, part, [] => [part.reverse]
  | depth, part, c :: cs =>
    if c = mark ∧ depth = 0 then part.reverse :: topLevelParts mark 0 [] cs
    else
      let depth := if c = '[' then depth + 1 else if c = ']' then depth - 1 else depth
      topLevelParts mark depth (c :: part) cs

/-- The name before square brackets and what stands between them. -/
def bracketed? (cs : List Char) : Option (String × List Char) :=
  let name := cs.takeWhile (· != '[')
  match cs.drop name.length, cs.getLast? with
  | '[' :: inner, some ']' => some (String.ofList name, inner.dropLast)
  | _, _ => none

namespace Schema

/-- The named type that a name stands for. -/
def namedType? (s : Schema) (name : String) : Option NamedType :=
  (NamedType.builtin.find? (·.written == name)).orElse fun _ =>
    if (s.enum? name).isSome then some (.enum name)
    else if (s.entity? name).isSome then some (.entity name)
    else none

/-- The type a text stands for, to a given depth. -/
def readTypeTo? (s : Schema) : Nat → List Char → Option TypeExpr
  | 0, _ => none
  | fuel + 1, cs =>
    let cs := Text.trimChars cs
    match topLevelParts '|' 0 [] cs with
    | [_] =>
      match bracketed? cs with
      | none =>
        if cs = "Any".toList then some .any
        else (s.namedType? (String.ofList cs)).map .named
      | some (name, inner) =>
        if name = "Optional" then
          (readTypeTo? s fuel inner).map fun t => .union [t, .named .null]
        else
          (Generic.all.find? (·.name == name)).bind fun g =>
            let parts := (topLevelParts ',' 0 [] inner).map Text.trimChars
            match g, parts with
            | .tuple, [t, ['.', '.', '.']] => (readTypeTo? s fuel t).map .tupleOf
            | .tuple, [['(', ')']] => some (.generic .tuple [])
            | _, _ => (parts.mapM (readTypeTo? s fuel)).map (.generic g)
    | arms => (arms.mapM (readTypeTo? s fuel)).map .union

/-- The type a text stands for. -/
def readType? (s : Schema) (text : String) : Option TypeExpr :=
  readTypeTo? s (text.length + 1) text.toList

end Schema

end Criteria
