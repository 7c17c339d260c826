/-!
# Decimal Numbers

Exact decimal numbers: a sign, a coefficient and a power of ten, with the two
infinities and the undefined results beside them.

The coefficient keeps its trailing zeros, so `12.50` and `12.5` are two numbers
with one value. Every other kind of number of this library has an exact decimal
value, so the comparison of decimals is the comparison of all numbers.

Comparing looks at the place of the leading digit first. Only when the leading
digits stand at the same place are the coefficients scaled to one exponent, and
then by no more places than there are digits; numbers such as `1E+400000000`
never have to be written out.

## Main definitions

* `Decimal`: A decimal number.
* `Decimal.compareMagnitude`: The order of two coefficients with exponents.
* `Decimal.compare?`: The order of two decimals, if they have one.
* `Decimal.truncate?`: The integer part.
* `Decimal.add`: The sum, to a given number of digits.
* `Decimal.text`: The written form.

## Theorems

* `Decimal.compare?_isSome_iff`: Exactly the undefined results have no order.
-/

namespace Criteria

/-- A decimal number `± coefficient · 10 ^ exponent`, an infinity, or an
    undefined result that may signal when it is used. -/
inductive Decimal where
  | finite (negative : Bool) (coefficient : Nat) (exponent : Int)
  | infinite (negative : Bool)
  | undefined (signaling negative : Bool) (payload : Nat)
  deriving DecidableEq, Inhabited

namespace Decimal

/-- The number of decimal digits of a number; zero has one. -/
def digitCount (n : Nat) : Nat :=
  (Nat.toDigits 10 n).length

/-- A whole number. -/
def ofInt (n : Int) : Decimal :=
  .finite (n < 0) n.natAbs 0

/-- The number is neither finite nor infinite. -/
def isUndefined : Decimal → Bool
  | .undefined .. => true
  | _ => false

/-- The number signals when it is compared. -/
def isSignaling : Decimal → Bool
  | .undefined signaling _ _ => signaling
  | _ => false

/-- The number is zero, of either sign. -/
def isZero : Decimal → Bool
  | .finite _ c _ => c == 0
  | _ => false

/-- The order of `c · 10 ^ e` and `d · 10 ^ f`. -/
def compareMagnitude (c : Nat) (e : Int) (d : Nat) (f : Int) : Ordering :=
  if c = 0 ∨ d = 0 then compare c d
  else
    -- Leading digits at different places decide without any power of ten.
    match compare (digitCount c + e) (digitCount d + f) with
    | .eq => compare (c * Nat.pow 10 (e - f).toNat) (d * Nat.pow 10 (f - e).toNat)
    | o => o

/-- The order of two numbers; undefined results have none. -/
def compare? : Decimal → Decimal → Option Ordering
  | .undefined .., _ | _, .undefined .. => none
  | .infinite n, .infinite m => some (compare m.toNat n.toNat)
  | .infinite n, .finite .. => some (if n then .lt else .gt)
  | .finite .., .infinite n => some (if n then .gt else .lt)
  | .finite n c e, .finite m d f =>
    if c = 0 ∧ d = 0 then some .eq
    else
      match n && c != 0, m && d != 0 with
      | false, false => some (compareMagnitude c e d f)
      | true, true => some (compareMagnitude d f c e)
      | true, false => some .lt
      | false, true => some .gt

/-- The integer part of a finite number. -/
def truncate? : Decimal → Option Int
  | .finite negative c e =>
    let n : Nat := if 0 ≤ e then c * Nat.pow 10 e.toNat else c / Nat.pow 10 (-e).toNat
    some (if negative then -(n : Int) else n)
  | _ => none

/-- The number has no fractional part; an infinity has none, an undefined
    result is not whole. -/
def isWhole : Decimal → Bool
  | .finite _ c e => 0 ≤ e || c % Nat.pow 10 (min (-e).toNat (digitCount c)) == 0
  | .infinite _ => true
  | .undefined .. => false

/-- A quotient rounded to the nearest whole number, a half to the even one. -/
def roundQuotient (num den : Nat) : Nat :=
  let q := num / den
  let r := num % den
  if 2 * r < den then q
  else if den < 2 * r then q + 1
  else if q % 2 = 0 then q else q + 1

/-- The number with at most `digits` digits, rounded to the nearest. -/
def rounded (digits : Nat) : Decimal → Decimal
  | .finite negative c e =>
    let extra := digitCount c - digits
    if extra = 0 then .finite negative c e
    else
      let c' := roundQuotient c (Nat.pow 10 extra)
      -- Nines that round up to a power of ten have one digit too many.
      if digitCount c' ≤ digits then .finite negative c' (e + extra)
      else .finite negative (c' / 10) (e + extra + 1)
  | d => d

/-- The sum, rounded to `digits` digits; unlike infinities have none. -/
def add (digits : Nat) : Decimal → Decimal → Decimal
  | .undefined _ n p, _ => .undefined false n p
  | _, .undefined _ n p => .undefined false n p
  | .infinite n, .infinite m => if n = m then .infinite n else .undefined false false 0
  | .infinite n, _ => .infinite n
  | _, .infinite n => .infinite n
  | .finite n c e, .finite m d f =>
    let low := min e f
    let signed (neg : Bool) (k : Nat) : Int := if neg then -(k : Int) else k
    let sum := signed n (c * Nat.pow 10 (e - low).toNat) + signed m (d * Nat.pow 10 (f - low).toNat)
    -- A zero sum is negative only as the sum of negative zeros.
    let negative := if sum = 0 then n && m else sum < 0
    rounded digits (.finite negative sum.natAbs low)

/-- The written form of a finite magnitude: positional while the exponent is
    not positive and at most five zeros follow the point, else scientific. -/
def magnitudeText (c : Nat) (e : Int) : String :=
  let ds := Nat.toDigits 10 c
  -- `left` digits stand before the point in positional form.
  let left : Int := e + ds.length
  let point : Int := if e ≤ 0 ∧ -6 < left then left else 1
  let zeros (n : Int) : List Char := List.replicate n.toNat '0'
  let body : List Char :=
    if point ≤ 0 then '0' :: '.' :: (zeros (-point) ++ ds)
    else if ds.length ≤ point then ds ++ zeros (point - ds.length)
    else ds.take point.toNat ++ '.' :: ds.drop point.toNat
  let shift := left - point
  let tail :=
    if shift = 0 then "" else if 0 < shift then "E+" ++ toString shift else "E" ++ toString shift
  String.ofList body ++ tail

/-- The written form. -/
def text : Decimal → String
  | .finite negative c e => (if negative then "-" else "") ++ magnitudeText c e
  | .infinite negative => if negative then "-Infinity" else "Infinity"
  | .undefined signaling negative payload =>
    (if negative then "-" else "") ++ (if signaling then "sNaN" else "NaN") ++
      (if payload = 0 then "" else toString payload)

/-- Exactly the undefined results have no order. -/
theorem compare?_isSome_iff {a b : Decimal} :
    (compare? a b).isSome = true ↔ a.isUndefined = false ∧ b.isUndefined = false := by
  cases a <;> cases b <;>
      simp only [compare?, isUndefined, Option.isSome_some, Option.isSome_none] <;>
    simp
  split
  · rfl
  · split <;> rfl

end Decimal

end Criteria
