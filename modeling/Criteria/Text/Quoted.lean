import Criteria.Text.Printable

/-!
# Quoted Texts

A text as messages show it: between quotes, with everything that would not
show, or would end the quotation, written as an escape.

Single quotes are used unless the text holds a single quote and no double
quote. Line feed, return and tab have short escapes; other hidden characters
are written by their code point in two, four or eight hexadecimal digits.

## Main definitions

* `hexPadded`: A number in hexadecimal digits, filled up with zeros.
* `quoteMark`: The quote a text is written between.
* `escapeChar`: One character inside quotes.
* `quoted`: A text between quotes.
* `quotedBytes`: A byte string between quotes.
-/

namespace Criteria

namespace Text

/-- The number in at least `width` hexadecimal digits. -/
def hexPadded (width n : Nat) : String :=
  let ds := Nat.toDigits 16 n
  String.ofList (List.replicate (width - ds.length) '0' ++ ds)

/-- Double quotes only for a text that holds single quotes and no double
    ones. -/
def quoteMark (cs : List Char) : Char :=
  if cs.contains '\'' && !cs.contains '"' then '"' else '\''

/-- The escapes that do not depend on what is printable. -/
def shortEscape? (mark c : Char) : Option String :=
  if c == mark || c == '\\' then some (String.ofList ['\\', c])
  else if c == '\n' then some "\\n"
  else if c == '\r' then some "\\r"
  else if c == '\t' then some "\\t"
  else none

/-- A character as it stands between the given quotes. -/
def escapeChar (mark c : Char) : String :=
  match shortEscape? mark c with
  | some e => e
  | none =>
    if isPrintable c then c.toString
    else if c.toNat ≤ 0xFF then "\\x" ++ hexPadded 2 c.toNat
    else if c.toNat ≤ 0xFFFF then "\\u" ++ hexPadded 4 c.toNat
    else "\\U" ++ hexPadded 8 c.toNat

/-- The text between quotes. -/
def quoted (s : String) : String :=
  let mark := quoteMark s.toList
  mark.toString ++ String.join (s.toList.map (escapeChar mark)) ++ mark.toString

/-- A byte as it stands between the given quotes. -/
def escapeByte (mark : Char) (b : UInt8) : String :=
  let c := Char.ofNat b.toNat
  match shortEscape? mark c with
  | some e => e
  | none => if 0x20 ≤ b.toNat && b.toNat < 0x7F then c.toString else "\\x" ++ hexPadded 2 b.toNat

/-- The byte string between quotes, marked as bytes. -/
def quotedBytes (bs : List UInt8) : String :=
  let mark := quoteMark (bs.map fun b => Char.ofNat b.toNat)
  "b" ++ mark.toString ++ String.join (bs.map (escapeByte mark)) ++ mark.toString

end Text

end Criteria
