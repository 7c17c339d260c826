import Criteria.Number.Shortest
import Criteria.Text.Blank
import Criteria.Text.Case
import Criteria.Text.Digit

/-!
# Reading Numbers

Numbers written as text: whole numbers, doubles and decimals.

Digits may belong to any script, and blanks around the number do not count. Whole
numbers and doubles may group digits by single underscores between digits;
decimals ignore underscores wherever they stand.

## Main definitions

* `takeDigits`: A run of digits, grouped by underscores, and the rest.
* `takeSign`: A sign and the rest.
* `readInt?`: The whole number a text stands for.
* `readDecimal?`: The decimal a text stands for.
* `readBinary64?`: The double a text stands for.
* `readBare?`, `textOfAscii?`: Numbers in texts that were not trimmed, and in bytes.
-/

namespace Criteria

open Text

/-- Numbers of more digits are not read or written. -/
def maxDigits : Nat := 4300

/-- The run of digits at the front, single underscores between digits left
    out, and the rest. -/
def takeDigits : List Char → List Char × List Char
  | c :: '_' :: d :: rest =>
    if isDecimal c then
      if isDecimal d then
        let (ds, r) := takeDigits (d :: rest)
        (c :: ds, r)
      else ([c], '_' :: d :: rest)
    else ([], c :: '_' :: d :: rest)
  | c :: rest =>
    if isDecimal c then
      let (ds, r) := takeDigits rest
      (c :: ds, r)
    else ([], c :: rest)
  | [] => ([], [])

/-- Whether a minus sign stands in front, and the text after the sign. -/
def takeSign : List Char → Bool × List Char
  | '-' :: rest => (true, rest)
  | '+' :: rest => (false, rest)
  | cs => (false, cs)

/-- A magnitude with a sign. -/
def withSign (negative : Bool) (n : Nat) : Int :=
  if negative then -(n : Int) else n

/-- The whole number a list of characters stands for. -/
def readIntChars? (cs : List Char) : Option Int :=
  let (negative, body) := takeSign (trimChars cs)
  match takeDigits body with
  | (d :: ds, []) =>
    if maxDigits < ds.length + 1 then none else some (withSign negative (digitsValue (d :: ds)))
  | _ => none

/-- The whole number a text stands for. -/
def readInt? (s : String) : Option Int :=
  readIntChars? s.toList

/-- Digits with an optional point: all digits in a row and how many of them
    stand after the point, and the rest. -/
def takeFixed? (cs : List Char) : Option (List Char × Nat × List Char) :=
  let (whole, rest) := takeDigits cs
  match rest with
  | '.' :: rest' =>
    let (fraction, rest'') := takeDigits rest'
    if whole.isEmpty && fraction.isEmpty then none
    else some (whole ++ fraction, fraction.length, rest'')
  | _ => if whole.isEmpty then none else some (whole, 0, rest)

/-- An exponent, if one stands at the front; nothing else may follow. -/
def readExponent? : List Char → Option Int
  | [] => some 0
  | e :: rest =>
    if e == 'e' || e == 'E' then
      let (negative, body) := takeSign rest
      match takeDigits body with
      | (d :: ds, []) => some (withSign negative (digitsValue (d :: ds)))
      | _ => none
    else none

/-- The characters in lower case. -/
def lowerChars (cs : List Char) : List Char :=
  cs.flatMap lowerChar

/-- Coefficient and exponent of a scientific number. -/
def readScientific? (cs : List Char) : Option (Nat × Int) := do
  let (ds, places, rest) ← takeFixed? cs
  let e ← readExponent? rest
  return (digitsValue ds, e - places)

/-- The double a text stands for. -/
def readBinary64? (s : String) : Option Binary64 :=
  let (negative, body) := takeSign (trimChars s.toList)
  match String.ofList (lowerChars body) with
  | "inf" | "infinity" => some (.infinite negative)
  | "nan" => some .undefined
  | _ => (readScientific? body).map fun (c, e) => Binary64.ofScientific negative c e

/-- The text holds one of the four information separators. They are white space and go
    when a text is trimmed, but a number that is read as it stands has none beside it. -/
def hasSeparator (s : String) : Bool :=
  s.toList.any fun c => 0x1C ≤ c.toNat && c.toNat ≤ 0x1F

/-- What a text that was not trimmed before is read as. -/
def readBare? {α : Type} (read? : String → Option α) (s : String) : Option α :=
  if hasSeparator s then none else read? s

/-- The text that bytes of the plain alphabet stand for. -/
def textOfAscii? (bs : List UInt8) : Option String :=
  if bs.all (· < 0x80) then some (String.ofList (bs.map fun b => Char.ofNat b.toNat)) else none

/-- The payload of an undefined decimal, if the text is one. -/
def readUndefined? (negative : Bool) (cs : List Char) : Option Decimal :=
  let payload (signaling : Bool) (ds : List Char) : Option Decimal :=
    if ds.all isDecimal then some (.undefined signaling negative (digitsValue ds)) else none
  match cs with
  | 'n' :: 'a' :: 'n' :: ds => payload false ds
  | 's' :: 'n' :: 'a' :: 'n' :: ds => payload true ds
  | _ => none

/-- The leading digit of a decimal stands at this place at most. -/
def maxDecimalPlace : Int := 999999999999999999

/-- The last digit of a decimal stands at this place at least. -/
def minDecimalPlace : Int := -1999999999999999997

/-- There is a decimal with the coefficient and the exponent. -/
def Decimal.fits (c : Nat) (e : Int) : Bool :=
  Decimal.digitCount c + e - 1 ≤ maxDecimalPlace && minDecimalPlace ≤ e

/-- The decimal a text stands for. -/
def readDecimal? (s : String) : Option Decimal :=
  let (negative, body) := takeSign ((trimChars s.toList).filter (· != '_'))
  let lowered := lowerChars body
  if lowered == "inf".toList || lowered == "infinity".toList then some (.infinite negative)
  else
    match readUndefined? negative lowered with
    | some d => some d
    | none =>
      match readScientific? body with
      | some (c, e) => if Decimal.fits c e then some (.finite negative c e) else none
      | none => none

end Criteria
