import Criteria.Number.Binary64

/-!
# Shortest Decimal Digits

The written form of a double: the fewest digits that read back as the same
number, and of those the nearest.

A double stands for an interval of reals that round to it. For one digit, two
digits and so on, the two neighbours of the value on the decimal grid with that
many digits are tried; the first grid with a neighbour in the interval gives the
digits. Seventeen digits always suffice.

## Main definitions

* `Interval`: The reals that round to a number, over a common denominator.
* `neighbours`: The two points of a decimal grid around a value.
* `shortest`: The digits and their exponent.
* `Notation64`: Where positional writing ends and how an exponent is written.
* `Binary64.write`: The written form under a notation.
* `Binary64.text`: The form used in messages and texts.
-/

namespace Criteria

namespace Binary64

/-- The value `value / den` of a positive number and the ends `low / den` and
    `high / den` of the reals that round to it, which belong to the interval
    when the mantissa is even. -/
structure Interval where
  low : Nat
  value : Nat
  high : Nat
  den : Nat
  closed : Bool

/-- The reals that round to `m · 2 ^ e`. The gap below a power of two is half
    as wide. -/
def interval (m : Nat) (e : Int) : Interval :=
  -- Everything is counted in quarters of the last place.
  let below : Nat := if m = Nat.pow 2 52 ∧ minExponent < e then 1 else 2
  let up : Nat := if 0 ≤ e then Nat.pow 2 e.toNat else 1
  let den : Nat := if 0 ≤ e then 4 else 4 * Nat.pow 2 (-e).toNat
  ⟨(4 * m - below) * up, 4 * m * up, (4 * m + 2) * up, den, m % 2 == 0⟩

/-- The point `n · num / den` of a grid lies in the interval. -/
def Interval.holds (i : Interval) (n num den : Nat) : Bool :=
  let p := n * num * i.den
  if i.closed then i.low * den ≤ p && p ≤ i.high * den
  else i.low * den < p && p < i.high * den

/-- The grid of multiples of `10 ^ k`, as a quotient. -/
def grid (k : Int) : Nat × Nat :=
  if 0 ≤ k then (Nat.pow 10 k.toNat, 1) else (1, Nat.pow 10 (-k).toNat)

/-- The point of the grid of multiples of `10 ^ k` that reads back: the nearer
    neighbour of the value, the even one of two equally near, if it is in the
    interval. -/
def pick? (i : Interval) (k : Int) : Option Nat :=
  let (num, den) := grid k
  let unit := num * i.den
  let n := i.value * den / unit
  let rest := i.value * den % unit
  -- Zero reads back as zero, whatever the interval.
  let lowIn := i.holds n num den && n != 0
  let highIn := i.holds (n + 1) num den
  match lowIn, highIn with
  | true, true =>
    if 2 * rest < unit then some n
    else if unit < 2 * rest then some (n + 1)
    else if n % 2 = 0 then some n else some (n + 1)
  | true, false => some n
  | false, true => some (n + 1)
  | false, false => none

/-- The place of the leading digit: the least `p` with `num / den < 10 ^ p`,
    searched upwards from a guess that is not too high. -/
def leadingPlace (num den : Nat) : Nat → Int → Int
  | 0, p => p
  | fuel + 1, p =>
    let (n, d) := grid p
    if num * d < n * den then p else leadingPlace num den fuel (p + 1)

/-- The digits of the first grid that has a point in the interval, from `count`
    digits on. -/
def shortestFrom (i : Interval) (place : Int) : Nat → Nat → Nat × Int
  | 0, count => (i.value / i.den, place - count)
  | fuel + 1, count =>
    let k := place - count
    match pick? i k with
    | some n => (n, k)
    | none => shortestFrom i place fuel (count + 1)

/-- A coefficient without its trailing zeros, and the exponent that makes up
    for them. -/
def stripZeros : Nat → Nat → Int → Nat × Int
  | 0, n, k => (n, k)
  | fuel + 1, n, k => if n ≠ 0 ∧ n % 10 = 0 then stripZeros fuel (n / 10) (k + 1) else (n, k)

/-- The fewest digits that read back as `m · 2 ^ e`, and their exponent. -/
def shortest (m : Nat) (e : Int) : Nat × Int :=
  let i := interval m e
  let guess : Int := (Decimal.digitCount i.value : Int) - Decimal.digitCount i.den - 1
  let place := leadingPlace i.value i.den 4 guess
  let (n, k) := shortestFrom i place 18 1
  stripZeros 20 n k

/-- How a double is written: the leading digit's places between which digits are
    written positionally, the sign and least width of an exponent, and the texts
    of what is not finite. -/
structure Style where
  lowPlace : Int
  highPlace : Int
  plus : String
  exponentWidth : Nat
  infinity : String
  undefined : String

/-- The exponent of scientific writing. -/
def exponentText (s : Style) (x : Int) : String :=
  let ds := Nat.toDigits 10 x.natAbs
  "e" ++ (if x < 0 then "-" else s.plus) ++
    String.ofList (List.replicate (s.exponentWidth - ds.length) '0' ++ ds)

/-- Digits `n` with exponent `k`, written with a point. -/
def positional (n : Nat) (k : Int) : String :=
  let ds := Nat.toDigits 10 n
  let place : Int := ds.length + k
  let zeros (c : Int) : List Char := List.replicate c.toNat '0'
  String.ofList <|
    if place ≤ 0 then '0' :: '.' :: (zeros (-place) ++ ds)
    else if 0 ≤ k then ds ++ zeros k ++ ['.', '0']
    else ds.take place.toNat ++ '.' :: ds.drop place.toNat

/-- Digits `n` with exponent `k`, written with one digit before the point. -/
def scientific (s : Style) (n : Nat) (k : Int) : String :=
  match Nat.toDigits 10 n with
  | [] => ""
  | d :: ds =>
    let fraction := if ds.isEmpty then [] else '.' :: ds
    String.ofList (d :: fraction) ++ exponentText s (k + ds.length)

/-- The written form under a style. -/
def write (s : Style) : Binary64 → String
  | .undefined => s.undefined
  | .infinite negative => (if negative then "-" else "") ++ s.infinity
  | .finite negative m e =>
    (if negative then "-" else "") ++
      if m = 0 then "0.0"
      else
        let (n, k) := shortest m e
        let place : Int := Decimal.digitCount n + k
        if s.lowPlace ≤ place ∧ place ≤ s.highPlace then positional n k else scientific s n k

/-- Displayed doubles are positional from `0.0001` up to sixteen digits before
    the point, and exponents have a sign and two digits. -/
def displayStyle : Style := ⟨-3, 16, "+", 2, "inf", "nan"⟩

/-- Doubles on the wire are positional from `0.00001` up to sixteen digits
    before the point; what is not finite has no number and is null. -/
def wireStyle : Style := ⟨-4, 16, "", 1, "null", "null"⟩

/-- The form used in messages and in the text of values. -/
def text (x : Binary64) : String :=
  write displayStyle x

end Binary64

end Criteria
