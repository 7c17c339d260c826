import Criteria.Text.Blank
import Criteria.Text.Digit
import Criteria.Text.Quoted

/-!
# Universally Unique Identifiers

Identifiers of 128 bits, written as five groups of hexadecimal digits.

Reading is lenient about what surrounds and divides the 32 digits: hyphens,
braces and the two words of the resource name are dropped first.

## Main definitions

* `Uuid`: An identifier.
* `Uuid.text`: The written form.
* `Uuid.read?`: The identifier a text stands for.
-/

namespace Criteria

/-- An identifier of 128 bits. -/
structure Uuid where
  value : Nat
  lt_bound : value < Nat.pow 2 128
  deriving DecidableEq

namespace Uuid

/-- The identifier with all bits clear. -/
def nil : Uuid := ⟨0, by decide⟩

instance : Inhabited Uuid := ⟨nil⟩

/-- The identifier with the given number, if it has at most 128 bits. -/
def of? (n : Nat) : Option Uuid :=
  if h : n < Nat.pow 2 128 then some ⟨n, h⟩ else none

/-- All 32 digits. -/
def digits (u : Uuid) : List Char :=
  (Text.hexPadded 32 u.value).toList

/-- The written form: groups of 8, 4, 4, 4 and 12 digits. -/
def text (u : Uuid) : String :=
  let ds := u.digits
  let group (start count : Nat) := String.ofList ((ds.drop start).take count)
  "-".intercalate [group 0 8, group 8 4, group 12 4, group 16 4, group 20 12]

/-- The value of a hexadecimal digit; decimal digits may be of any script. -/
def hexValue? (c : Char) : Option Nat :=
  if 'a' ≤ c ∧ c ≤ 'f' then some (c.toNat - 'a'.toNat + 10)
  else if 'A' ≤ c ∧ c ≤ 'F' then some (c.toNat - 'A'.toNat + 10)
  else if Text.isDecimal c then Text.digitValue? c
  else none

/-- The number written by hexadecimal digits with single underscores between
    them, after what was read so far. -/
def hexNumber? : Nat → Bool → List Char → Option Nat
  | n, afterDigit, [] => if afterDigit then some n else none
  | n, true, '_' :: cs => hexNumber? n false cs
  | n, _, c :: cs => (hexValue? c).bind fun d => hexNumber? (n * 16 + d) true cs

/-- The digits after an optional base mark. -/
def unmarked : List Char → List Char
  | '0' :: m :: '_' :: cs => if m == 'x' || m == 'X' then cs else '0' :: m :: '_' :: cs
  | '0' :: m :: cs => if m == 'x' || m == 'X' then cs else '0' :: m :: cs
  | cs => cs

/-- The number a text of hexadecimal digits stands for; only zero may have a
    minus sign. -/
def signedHex? (cs : List Char) : Option Nat :=
  match Text.trimChars cs with
  | '-' :: r => (hexNumber? 0 false (unmarked r)).filter (· == 0)
  | '+' :: r => hexNumber? 0 false (unmarked r)
  | r => hexNumber? 0 false (unmarked r)

/-- The characters without a word, wherever it stands; the first `skip` of them go in
    any case. -/
def withoutWord (word : List Char) : Nat → List Char → List Char
  | _, [] => []
  | skip + 1, _ :: cs => withoutWord word skip cs
  | 0, c :: cs =>
    if word.isPrefixOf (c :: cs) then withoutWord word (word.length - 1) cs
    else c :: withoutWord word 0 cs

/-- The identifier a text stands for. -/
def read? (s : String) : Option Uuid :=
  let bare := withoutWord "uuid:".toList 0 (withoutWord "urn:".toList 0 s.toList)
  let ds := (Text.stripChars (fun c => c == '{' || c == '}') bare).filter (· != '-')
  if ds.length = 32 then (signedHex? ds).bind of? else none

end Uuid

end Criteria
