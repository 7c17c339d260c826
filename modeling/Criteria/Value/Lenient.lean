import Criteria.Number.Reading
import Criteria.Value.Text

/-!
# Lenient Members

Which values are taken for a member of a payload that has to be a number, a
truth, a text or a list. Little is converted: whole numbers may be written as
texts or as floats, truths as one of a few words, and any collection is a list.

## Main definitions

* `Lenient.int?`: A whole number.
* `Lenient.bool?`: A truth.
* `Lenient.text?`: A text.
* `Lenient.list?`: A list.
-/

namespace Criteria

namespace Lenient

/-- A decimal digit of the plain alphabet. -/
def isPlainDigit (c : Char) : Bool :=
  '0' ≤ c && c ≤ '9'

/-- The digits, if single underscores stand between digits only. -/
def digits? : Bool → List Char → Option (List Char)
  | afterDigit, [] => if afterDigit then some [] else none
  | true, '_' :: cs => digits? false cs
  | _, c :: cs => if isPlainDigit c then (digits? true cs).map (c :: ·) else none

/-- The characters without a fraction of zeros. -/
def withoutZeros (cs : List Char) : List Char :=
  let whole := cs.takeWhile (· != '.')
  match cs.drop whole.length with
  | '.' :: fraction => if fraction.all (· == '0') then whole else cs
  | _ => cs

/-- The whole number a text stands for. -/
def intOfText? (s : String) : Option Int :=
  let cs := withoutZeros (Text.trimChars s.toList)
  let (negative, body) := takeSign cs
  if maxDigits < cs.length then none
  else (digits? false body).map fun ds => withSign negative (Text.digitsValue ds)

/-- The bound of whole numbers that are written as floats. -/
def floatBound : Nat := Nat.pow 2 63

/-- The whole number a float stands for. -/
def intOfFloat? (x : Binary64) : Option Int :=
  if x.isWhole then x.truncate?.filter fun n => n.natAbs < floatBound else none

/-- A text, or the text that bytes of the plain alphabet or a member stand
    for. -/
def text? : Value → Option String
  | .bytes bs => String.fromUTF8? ⟨bs.toArray⟩
  | .member m =>
    match (Value.member m).text? with
    | some s => some s
    | none => some m.value.toValue.display
  | v => v.text?

/-- A whole number. -/
def int? : Value → Option Int
  | .int n => some n
  | .bool b => some b.toInt
  | .float x => intOfFloat? x
  | .decimal d => if d.isWhole then d.truncate? else none
  | .bytes bs => (text? (.bytes bs)).bind intOfText?
  | .member m =>
    match (Value.member m).text? with
    | some s => intOfText? s
    | none => m.value.int?
  | v => v.text?.bind intOfText?

/-- The truth that zero or one stands for. -/
def boolOfInt? : Int → Option Bool
  | 0 => some false
  | 1 => some true
  | _ => none

/-- The truth that a word stands for, in any case. -/
def boolOfText? (s : String) : Option Bool :=
  let word := String.ofList (s.toList.map Char.toLower)
  if ["0", "off", "f", "false", "n", "no"].contains word then some false
  else if ["1", "on", "t", "true", "y", "yes"].contains word then some true
  else none

/-- A truth. -/
def bool? : Value → Option Bool
  | .bool b => some b
  | .int n => boolOfInt? n
  | .float x => (intOfFloat? x).bind boolOfInt?
  | .decimal d => if d.isWhole then d.truncate?.bind boolOfInt? else none
  | .bytes bs => (text? (.bytes bs)).bind boolOfText?
  | .member m =>
    match (Value.member m).text? with
    | some s => boolOfText? s
    | none => m.value.int?.bind boolOfInt?
  | v => v.text?.bind boolOfText?

/-- A list. -/
def list? (v : Value) : Option (List Value) :=
  v.elements?

end Lenient

end Criteria
