import Criteria.Text.CaseTable
import Criteria.Text.WordEnd

/-!
# Letter Case

Lower case, upper case and the caseless form of a text, by the tables of the
character standard.

A character maps to a list of characters: most to one, a few to several, and
those without case to themselves. A text is mapped character by character, but
for the capital sigma, whose small form depends on whether a word ends with it.
The ASCII letters are decided without the tables.

## Main definitions

* `lowerChar`, `upperChar`, `foldChar`: The mappings of one character.
* `lowerSigma`: The small form of a capital sigma.
* `lower`, `upper`, `fold`: The mappings of a text.
* `lowerFirst`: A text with its first character in lower case.
-/

namespace Criteria

namespace Text

/-- The run covers the code point. -/
def CaseRun.covers (r : CaseRun) (n : Nat) : Bool :=
  r.first ≤ n && n ≤ r.last && (n - r.first) % r.step == 0

/-- The characters a character becomes under a pair of tables. -/
def mapCase (runs : Array CaseRun) (full : List (Nat × List Nat)) (c : Char) : List Char :=
  match full.lookup c.toNat with
  | some ns => ns.map Char.ofNat
  | none =>
    match runs.find? fun r => r.covers c.toNat with
    | some r => [Char.ofNat (c.toNat + r.shift).toNat]
    | none => [c]

/-- The lower-case form of a character. -/
def lowerChar (c : Char) : List Char :=
  if c.toNat < 0x80 then [c.toLower] else mapCase lowerRuns lowerFull c

/-- The upper-case form of a character. -/
def upperChar (c : Char) : List Char :=
  if c.toNat < 0x80 then [c.toUpper] else mapCase upperRuns upperFull c

/-- The caseless form of a character. -/
def foldChar (c : Char) : List Char :=
  if c.toNat < 0x80 then [c.toLower] else mapCase foldRuns foldFull c

/-- The small form of a capital sigma, given the characters before it, the nearest
    first, and those after it. -/
def lowerSigma (before after : List Char) : Char :=
  if isWordEnd before after then 'ς' else 'σ'

/-- The characters in lower case, given those before them, the nearest first. -/
def lowerAfter : List Char → List Char → List Char
  | _, [] => []
  | before, c :: cs =>
    (if c = 'Σ' then [lowerSigma before cs] else lowerChar c) ++ lowerAfter (c :: before) cs

/-- The text in lower case. Without a capital sigma no character depends on its
    neighbours. -/
def lower (s : String) : String :=
  let cs := s.toList
  String.ofList (if cs.contains 'Σ' then lowerAfter [] cs else cs.flatMap lowerChar)

/-- The text in upper case. -/
def upper (s : String) : String :=
  String.ofList (s.toList.flatMap upperChar)

/-- The text in its caseless form: two texts differ only in case when their
    caseless forms are equal. -/
def fold (s : String) : String :=
  String.ofList (s.toList.flatMap foldChar)

/-- The text with its first character in lower case. -/
def lowerFirst (s : String) : String :=
  match s.toList with
  | [] => ""
  | c :: cs => String.ofList (lowerChar c ++ cs)

end Text

end Criteria
