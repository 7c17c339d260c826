import Criteria.Number.Decimal

/-!
# Binary Floating-Point Numbers

The double-precision numbers: a sign, a mantissa of at most 53 bits and a power
of two, with the two infinities and the undefined result.

All arithmetic of this library rounds one exact quotient of whole numbers to the
nearest double, a half to the even mantissa; `Binary64.ofRatio` is that one
operation. Mantissas are kept full (53 bits) unless the exponent is the lowest
one, so a value has one representation.

## Main definitions

* `Binary64`: A double-precision number.
* `Binary64.ofRatio`: The nearest number to a quotient.
* `Binary64.ofDecimal`: The nearest number to a decimal.
* `Binary64.toDecimal`: The exact decimal value.
* `Binary64.compare?`: The order of two numbers, if they have one.
* `Binary64.truncate?`: The integer part.
-/

namespace Criteria

/-- A double-precision number `± mantissa · 2 ^ exponent`, an infinity, or the
    undefined result. -/
inductive Binary64 where
  | finite (negative : Bool) (mantissa : Nat) (exponent : Int)
  | infinite (negative : Bool)
  | undefined
  deriving DecidableEq, Inhabited

namespace Binary64

/-- The lowest exponent. -/
def minExponent : Int := -1074

/-- The highest exponent of a full mantissa. -/
def maxExponent : Int := 971

/-- The whole part and the remainder of `num / den / 2 ^ e`, as a quotient over
    a scaled denominator. -/
def scaled (num den : Nat) (e : Int) : Nat × Nat :=
  if 0 ≤ e then (num, den * Nat.pow 2 e.toNat) else (num * Nat.pow 2 (-e).toNat, den)

/-- The exponent at which the quotient has a full mantissa, or the lowest
    one. -/
def fittingExponent (num den : Nat) : Int :=
  let guess : Int := (Nat.log2 num : Int) - Nat.log2 den - 52
  let (n, d) := scaled num den guess
  max minExponent (if n / d < Nat.pow 2 52 then guess - 1 else guess)

/-- The nearest number to `± num / den`, a half to the even mantissa; beyond the
    largest number it is an infinity. -/
def ofRatio (negative : Bool) (num den : Nat) : Binary64 :=
  if num = 0 ∨ den = 0 then .finite negative 0 minExponent
  else
    let e := fittingExponent num den
    let (n, d) := scaled num den e
    let m := Decimal.roundQuotient n d
    let (m, e) := if m = Nat.pow 2 53 then (Nat.pow 2 52, e + 1) else (m, e)
    if maxExponent < e then .infinite negative else .finite negative m e

/-- The nearest number to a natural number. -/
def ofNat (n : Nat) : Binary64 :=
  ofRatio false n 1

/-- The nearest number to an integer, if it is not beyond the largest one. -/
def ofInt? (n : Int) : Option Binary64 :=
  match ofRatio (n < 0) n.natAbs 1 with
  | .infinite _ => none
  | x => some x

/-- The nearest number to `± c · 10 ^ e`. Powers far outside the range are
    decided by the place of the leading digit. -/
def ofScientific (negative : Bool) (c : Nat) (e : Int) : Binary64 :=
  let leading := Decimal.digitCount c + e
  if c = 0 ∨ leading < -330 then .finite negative 0 minExponent
  else if 310 < leading then .infinite negative
  else if 0 ≤ e then ofRatio negative (c * Nat.pow 10 e.toNat) 1
  else ofRatio negative c (Nat.pow 10 (-e).toNat)

/-- The nearest number to a decimal. -/
def ofDecimal : Decimal → Binary64
  | .finite negative c e => ofScientific negative c e
  | .infinite negative => .infinite negative
  | .undefined .. => .undefined

/-- The exact decimal value. -/
def toDecimal : Binary64 → Decimal
  | .finite negative m e =>
    if 0 ≤ e then .finite negative (m * Nat.pow 2 e.toNat) 0
    else .finite negative (m * Nat.pow 5 (-e).toNat) e
  | .infinite negative => .infinite negative
  | .undefined => .undefined false false 0

/-- The number is the undefined result. -/
def isUndefined : Binary64 → Bool
  | .undefined => true
  | _ => false

/-- The number is zero, of either sign. -/
def isZero : Binary64 → Bool
  | .finite _ m _ => m == 0
  | _ => false

/-- The order of two numbers; the undefined result has none. -/
def compare? (x y : Binary64) : Option Ordering :=
  Decimal.compare? x.toDecimal y.toDecimal

/-- The exact value of a finite number as a signed quotient. -/
def toRatio? : Binary64 → Option (Int × Nat)
  | .finite negative m e =>
    let n : Nat := if 0 ≤ e then m * Nat.pow 2 e.toNat else m
    let d : Nat := if 0 ≤ e then 1 else Nat.pow 2 (-e).toNat
    some (if negative then -(n : Int) else n, d)
  | _ => none

/-- The integer part of a finite number. -/
def truncate? (x : Binary64) : Option Int :=
  x.toRatio?.map fun (n, d) => n.tdiv d

/-- The number has no fractional part and is finite. -/
def isWhole (x : Binary64) : Bool :=
  match x.toRatio? with
  | some (n, d) => n % d == 0
  | none => false

/-- The nearest number to `x · num / den`. -/
def scale (x : Binary64) (num den : Nat) : Binary64 :=
  match x with
  | .finite negative _ _ =>
    match x.toRatio? with
    | some (n, d) => ofRatio negative (n.natAbs * num) (d * den)
    | none => x
  | _ => x

end Binary64

end Criteria
