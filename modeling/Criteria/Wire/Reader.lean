import Criteria.Number.Reading
import Criteria.Value.Basic

/-!
# Reading JSON

The value that a JSON text stands for. Beside the standard's numbers the words
for infinity and the undefined number are read. Of several members with one name
the last one counts, at the place of the first.

## Main definitions

* `Json.Failure`: Why a text is not read.
* `Json.readNumber`, `Json.readString`, `Json.readValue`: What stands at the front
  of a text, and the rest.
* `Json.read`: The value of a whole text.
-/

namespace Criteria

namespace Json

/-- Why a text is not read. -/
inductive Failure where
  | malformed
  /-- A whole number has too many digits. -/
  | longNumber
  deriving DecidableEq, Inhabited

/-- A result, or why there is none. -/
abbrev Result (α : Type) : Type := Except Failure α

/-- A blank of the format. -/
def isBlank (c : Char) : Bool :=
  c = ' ' || c = '\t' || c = '\n' || c = '\r'

/-- The text from its first character on that is no blank. -/
def skipBlanks (cs : List Char) : List Char :=
  cs.dropWhile isBlank

/-- A digit of the format. -/
def isDigit (c : Char) : Bool :=
  '0' ≤ c && c ≤ '9'

/-- The digits at the front, and the rest. -/
def takeDigits (cs : List Char) : List Char × List Char :=
  (cs.takeWhile isDigit, cs.dropWhile isDigit)

/-- The digits of a whole number, which has no zeros in front. -/
def takeWhole? : List Char → Option (List Char × List Char)
  | '0' :: cs => some (['0'], cs)
  | cs =>
    match takeDigits cs with
    | ([], _) => none
    | r => some r

/-- A fraction, if one stands at the front. -/
def takeFraction : List Char → List Char × List Char
  | '.' :: cs =>
    match takeDigits cs with
    | ([], _) => ([], '.' :: cs)
    | (ds, rest) => ('.' :: ds, rest)
  | cs => ([], cs)

/-- An exponent, if one stands at the front. -/
def takeExponent : List Char → List Char × List Char
  | [] => ([], [])
  | e :: cs =>
    if e = 'e' ∨ e = 'E' then
      let sign := cs.take 1 |>.filter fun c => c = '+' || c = '-'
      match takeDigits (cs.drop sign.length) with
      | ([], _) => ([], e :: cs)
      | (ds, rest) => (e :: (sign ++ ds), rest)
    else ([], e :: cs)

/-- A minus sign, if one stands at the front. -/
def takeMinus : List Char → List Char × List Char
  | '-' :: cs => (['-'], cs)
  | cs => ([], cs)

/-- The number at the front. -/
def readNumber (cs : List Char) : Result (Value × List Char) :=
  let (sign, body) := takeMinus cs
  match takeWhole? body with
  | none => .error .malformed
  | some (whole, rest) =>
    let (fraction, rest) := takeFraction rest
    let (exponent, rest) := takeExponent rest
    -- Without fraction and exponent a number is whole, however long.
    if fraction.isEmpty && exponent.isEmpty then
      match readIntChars? (sign ++ whole) with
      | some n => .ok (.int n, rest)
      | none => .error .longNumber
    else
      match readBinary64? (String.ofList (sign ++ whole ++ fraction ++ exponent)) with
      | some x => .ok (.float x, rest)
      | none => .error .malformed

/-- The value of a hexadecimal digit. -/
def hexValue? (c : Char) : Option Nat :=
  if isDigit c then some (c.toNat - '0'.toNat)
  else if 'a' ≤ c ∧ c ≤ 'f' then some (c.toNat - 'a'.toNat + 10)
  else if 'A' ≤ c ∧ c ≤ 'F' then some (c.toNat - 'A'.toNat + 10)
  else none

/-- The value of the four hexadecimal digits at the front. -/
def takeHex? : List Char → Option (Nat × List Char)
  | a :: b :: c :: d :: rest => do
    let ds ← [a, b, c, d].mapM hexValue?
    return (ds.foldl (fun n x => 16 * n + x) 0, rest)
  | _ => none

/-- The first half of a character beyond the basic plane. -/
def isHighHalf (n : Nat) : Bool := 0xD800 ≤ n && n < 0xDC00

/-- The second half of a character beyond the basic plane. -/
def isLowHalf (n : Nat) : Bool := 0xDC00 ≤ n && n < 0xE000

/-- The code point with a number; a lone half of one is replaced. -/
def codePoint (n : Nat) : Char :=
  if isHighHalf n || isLowHalf n then Char.ofNat 0xFFFD else Char.ofNat n

/-- The character behind an escape by number. -/
def readUnicode? (cs : List Char) : Option (Char × List Char) := do
  let (n, rest) ← takeHex? cs
  if isHighHalf n then
    -- A first half joins with a second one right behind it.
    match rest with
    | '\\' :: 'u' :: more =>
      let (m, rest') ← takeHex? more
      if isLowHalf m then
        return (Char.ofNat (0x10000 + 0x400 * (n - 0xD800) + (m - 0xDC00)), rest')
      else return (codePoint n, rest)
    | _ => return (codePoint n, rest)
  else return (codePoint n, rest)

/-- What the escapes by letter stand for. -/
def letterEscape? : Char → Option Char
  | '"' => some '"'
  | '\\' => some '\\'
  | '/' => some '/'
  | 'b' => some (Char.ofNat 8)
  | 'f' => some (Char.ofNat 12)
  | 'n' => some '\n'
  | 'r' => some '\r'
  | 't' => some '\t'
  | _ => none

/-- The character after a backslash. -/
def readEscape? : List Char → Option (Char × List Char)
  | 'u' :: cs => readUnicode? cs
  | c :: cs => (letterEscape? c).map (·, cs)
  | [] => none

/-- The characters up to the closing quote, collected in reverse, and the rest.
    Every step takes at least one character. -/
def readString : Nat → List Char → List Char → Result (String × List Char)
  | 0, _, _ | _, _, [] => .error .malformed
  | fuel + 1, done, c :: cs =>
    if c = '"' then .ok (String.ofList done.reverse, cs)
    else if c.toNat < 0x20 then .error .malformed
    else if c = '\\' then
      match readEscape? cs with
      | some (x, rest) => readString fuel (x :: done) rest
      | none => .error .malformed
    else readString fuel (c :: done) cs

/-- The rest of a text after a word that stands at the front. -/
def afterWord? (word : String) (cs : List Char) : Option (List Char) :=
  if word.toList.isPrefixOf cs then some (cs.drop word.length) else none

/-- The words with the values they stand for. -/
def words : List (String × Value) :=
  [("null", .null), ("true", .bool true), ("false", .bool false), ("NaN", .float .undefined),
    ("Infinity", .float (.infinite false)), ("-Infinity", .float (.infinite true))]

/-- The word at the front. -/
def readWord? (cs : List Char) : Option (Value × List Char) :=
  words.findSome? fun (w, v) => (afterWord? w cs).map (v, ·)

/-- The members with one more; a member of the same name keeps its place. -/
def setMember : List (String × Value) → String → Value → List (String × Value)
  | [], k, v => [(k, v)]
  | (k', v') :: rest, k, v =>
    if k' = k then (k, v) :: rest else (k', v') :: setMember rest k v

mutual

/-- The value at the front. -/
def readValue : Nat → List Char → Result (Value × List Char)
  | 0, _ => .error .malformed
  | fuel + 1, cs =>
    match cs with
    | '"' :: rest => do
      let (s, rest) ← readString rest.length [] rest
      return (.text s, rest)
    | '[' :: rest =>
      match skipBlanks rest with
      | ']' :: rest => .ok (.list [], rest)
      | rest => readItems fuel [] rest
    | '\x7b' :: rest =>
      match skipBlanks rest with
      | '\x7d' :: rest => .ok (.dict [], rest)
      | rest => readMembers fuel [] rest
    | cs =>
      match readWord? cs with
      | some r => .ok r
      | none => readNumber cs
termination_by structural fuel => fuel

/-- The elements up to the closing bracket, collected in reverse. -/
def readItems : Nat → List Value → List Char → Result (Value × List Char)
  | 0, _, _ => .error .malformed
  | fuel + 1, done, cs => do
    let (v, rest) ← readValue fuel cs
    match skipBlanks rest with
    | ',' :: rest => readItems fuel (v :: done) (skipBlanks rest)
    | ']' :: rest => return (.list (v :: done).reverse, rest)
    | _ => .error .malformed
termination_by structural fuel => fuel

/-- The members up to the closing brace. -/
def readMembers : Nat → List (String × Value) → List Char → Result (Value × List Char)
  | 0, _, _ => .error .malformed
  | fuel + 1, done, cs =>
    match cs with
    | '"' :: rest => do
      let (k, rest) ← readString rest.length [] rest
      match skipBlanks rest with
      | ':' :: rest =>
        let (v, rest) ← readValue fuel (skipBlanks rest)
        match skipBlanks rest with
        | ',' :: rest => readMembers fuel (setMember done k v) (skipBlanks rest)
        | '\x7d' :: rest => return (Value.table (setMember done k v), rest)
        | _ => .error .malformed
      | _ => .error .malformed
    | _ => .error .malformed
termination_by structural fuel => fuel

end

/-- The value that a text stands for. -/
def read (text : String) : Result Value :=
  let cs := skipBlanks text.toList
  match readValue (2 * cs.length + 1) cs with
  | .error f => .error f
  | .ok (v, rest) => if (skipBlanks rest).isEmpty then .ok v else .error .malformed

end Json

end Criteria
