import Criteria.Text.Blank

/-!
# Lists Written as Text

A list of texts written in one line: items joined by separators, each item bare
or between quotes, the whole optionally in square brackets.

Items are trimmed, their quotes and then their blanks are taken off, and items
with nothing left are dropped; so stray separators do no harm.

## Main definitions

* `splitChars`: The stretches between the characters a test accepts.
* `unbracket`: A text without the brackets around it.
* `bareItem`: An item without blanks and quotes.
* `listItems`: The items of a written list.
-/

namespace Criteria

namespace Text

/-- The stretches of a list between the elements the test accepts. -/
def splitChars (isSep : Char → Bool) : List Char → List (List Char)
  | [] => [[]]
  | c :: cs =>
    if isSep c then [] :: splitChars isSep cs
    else
      match splitChars isSep cs with
      | [] => [[c]]
      | item :: items => (c :: item) :: items

/-- The text without a pair of square brackets around it, trimmed. -/
def unbracket (cs : List Char) : List Char :=
  match cs with
  | '[' :: rest =>
    if rest.getLast? == some ']' then trimChars rest.dropLast else cs
  | _ => cs

/-- An item without its blanks, its quotes and the blanks inside them. -/
def bareItem (cs : List Char) : List Char :=
  trimChars (stripChars (· == '"') (stripChars (· == '\'') (trimChars cs)))

/-- The items of a written list; without any separator, every character stands
    for itself. -/
def listItems (separators : List Char) (cs : List Char) : List (List Char) :=
  let content := unbracket (trimChars cs)
  let items :=
    if separators.isEmpty then content.map fun c => [c]
    else splitChars separators.contains content
  (items.map bareItem).filter fun item => !item.isEmpty

end Text

end Criteria
