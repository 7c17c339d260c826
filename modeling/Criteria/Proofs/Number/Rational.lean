import Criteria.Proofs.Number.Digits
import Mathlib.Algebra.Order.Field.Power
import Mathlib.Data.Rat.Floor

/-!
# Rational Values of Numbers

Finite decimals and doubles as rational numbers, and what being whole and having the
fraction cut off mean there.

The library decides both on digits: a decimal is whole if its coefficient ends in enough
zeros, a double if its mantissa does in binary. Either number is a quotient of whole
numbers, so everything comes down to when such a quotient is whole
(`exists_intCast_div_iff`) and to what its whole part is (`towardZero_div`).

## Main definitions

* `towardZero`: The whole part of a rational number.
* `Decimal.rational?`: The rational number that a finite decimal is.

## Theorems

* `Decimal.truncate?_eq`, `Binary64.truncate?_eq`: What cutting off the fraction leaves.
* `Decimal.isWhole_iff`, `Binary64.isWhole_iff`: The numbers without a fraction.
* `Decimal.isWhole_and_truncate?_iff`, `Binary64.isWhole_and_truncate?_iff`: Numbers
  without a fraction are left as they are.
-/

namespace Criteria

/-- The whole part of a rational number: the next whole number on the side of zero. -/
def towardZero (q : ℚ) : Int :=
  if 0 ≤ q then ⌊q⌋ else ⌈q⌉

section Quotients

theorem towardZero_intCast (n : Int) : towardZero n = n := by
  rw [towardZero, Int.floor_intCast, Int.ceil_intCast, ite_self]

theorem towardZero_neg (q : ℚ) : towardZero (-q) = -towardZero q := by
  rw [towardZero, towardZero, Int.floor_neg, Int.ceil_neg]
  rcases lt_trichotomy q 0 with h | rfl | h
  · rw [if_pos (neg_nonneg.mpr h.le), if_neg (not_le.mpr h)]
  · rw [neg_zero, if_pos le_rfl, if_pos le_rfl, Int.ceil_zero, Int.floor_zero]
  · rw [if_neg (not_le.mpr (neg_neg_of_pos h)), if_pos h.le]

/-- The whole part of a quotient is the quotient that forgets the remainder. -/
theorem towardZero_div (n : Int) (d : Nat) : towardZero (n / d) = n.tdiv d := by
  have hpositive {m : Int} (hm : 0 ≤ m) : towardZero (m / d) = m.tdiv d := by
    have hq : (0 : ℚ) ≤ m / d := div_nonneg (by exact_mod_cast hm) d.cast_nonneg
    rw [towardZero, if_pos hq, Rat.floor_intCast_div_natCast, Int.tdiv_eq_ediv_of_nonneg hm]
  rcases Int.le_total 0 n with hn | hn
  · exact hpositive hn
  · have hneg := hpositive (Int.neg_nonneg_of_nonpos hn)
    rw [Int.cast_neg, neg_div, towardZero_neg, Int.neg_tdiv] at hneg
    exact Int.neg_inj.mp hneg

/-- A quotient is whole exactly when nothing remains. -/
theorem exists_intCast_div_iff (n : Int) {d : Nat} (hd : 0 < d) :
    (∃ m : Int, (n : ℚ) / d = m) ↔ n % d = 0 := by
  have hdq : (d : ℚ) ≠ 0 := by exact_mod_cast hd.ne'
  rw [← Int.dvd_iff_emod_eq_zero]
  constructor
  · rintro ⟨m, hm⟩
    refine ⟨m, ?_⟩
    rw [div_eq_iff hdq, mul_comm] at hm
    exact_mod_cast hm
  · rintro ⟨m, rfl⟩
    refine ⟨m, ?_⟩
    rw [Int.cast_mul, Int.cast_natCast, mul_div_cancel_left₀ _ hdq]

theorem withSign_mul (negative : Bool) (n k : Nat) :
    withSign negative (n * k) = withSign negative n * k := by
  cases negative with
  | true => exact (congrArg Neg.neg (Int.natCast_mul n k)).trans (Int.neg_mul _ _).symm
  | false => exact Int.natCast_mul n k

theorem withSign_tdiv (negative : Bool) (n d : Nat) :
    (withSign negative n).tdiv d = withSign negative (n / d) := by
  cases negative with
  | true => exact Int.neg_tdiv n d
  | false => rfl

theorem withSign_emod_eq_zero_iff (negative : Bool) (n d : Nat) :
    withSign negative n % d = 0 ↔ n % d = 0 := by
  rw [← Int.dvd_iff_emod_eq_zero, ← Nat.dvd_iff_mod_eq_zero, ← Int.natCast_dvd_natCast]
  cases negative with
  | true => exact Int.dvd_neg
  | false => exact Iff.rfl

end Quotients

namespace Decimal

/-- The rational number that a finite decimal is. -/
def rational? : Decimal → Option ℚ
  | .finite negative c e => some (withSign negative c * 10 ^ e)
  | _ => none

theorem rational?_ofInt (n : Int) : (ofInt n).rational? = some (n : ℚ) := by
  rw [ofInt, rational?, withSign_natAbs, zpow_zero, mul_one]

/-- A power of ten multiplies or divides. -/
theorem mul_zpow_ten (n : Int) (e : Int) : (n : ℚ) * 10 ^ e =
    if 0 ≤ e then ((n * (10 ^ e.toNat : Nat) : Int) : ℚ) else n / (10 ^ (-e).toNat : Nat) := by
  split
  · rename_i he
    obtain ⟨k, rfl⟩ := Int.eq_ofNat_of_zero_le he
    rw [zpow_natCast, Int.toNat_natCast]
    push_cast
    rfl
  · rename_i he
    obtain ⟨k, rfl⟩ : ∃ k : Nat, e = -(k : Int) := ⟨(-e).toNat, by omega⟩
    rw [zpow_neg, zpow_natCast, Int.neg_neg, Int.toNat_natCast]
    push_cast
    rfl

section Finite

variable {d : Decimal} {q : ℚ}

/-- Cutting off the fraction of a finite decimal leaves its whole part. -/
theorem truncate?_eq (h : d.rational? = some q) : d.truncate? = some (towardZero q) := by
  rcases d with ⟨negative, c, e⟩ | _ | _
  case infinite | undefined => cases h
  obtain rfl := Option.some.inj h
  rw [truncate?, mul_zpow_ten]
  by_cases he : 0 ≤ e
  · rw [if_pos he, if_pos he, towardZero_intCast, ← withSign_mul]
    rfl
  · rw [if_neg he, if_neg he, towardZero_div, withSign_tdiv]
    rfl

theorem truncate?_eq_none (h : d.rational? = none) : d.truncate? = none := by
  cases d with
  | finite => cases h
  | infinite | undefined => rfl

/-- A finite decimal is whole exactly when its value is a whole number. -/
theorem isWhole_iff (h : d.rational? = some q) : d.isWhole = true ↔ ∃ n : Int, q = n := by
  rcases d with ⟨negative, c, e⟩ | _ | _
  case infinite | undefined => cases h
  obtain rfl := Option.some.inj h
  rw [isWhole, mul_zpow_ten, Bool.or_eq_true, decide_eq_true_eq, beq_iff_eq]
  -- Without a fraction it is whole; else the power of ten has to divide the coefficient, and only
  -- as many zeros are looked for as there are digits.
  split
  · rename_i he
    exact iff_of_true (.inl he) ⟨_, rfl⟩
  · rename_i he
    have hpos : 0 < 10 ^ (-e).toNat := Nat.pow_pos (by decide)
    rw [exists_intCast_div_iff _ hpos, withSign_emod_eq_zero_iff, or_iff_right he]
    rcases Nat.le_total (-e).toNat (digitCount c) with hle | hle
    · rw [Nat.min_eq_left hle]
      rfl
    · -- More zeros than digits are there for zero only.
      have hlt := lt_pow_digitCount c
      have hlt' := Nat.lt_of_lt_of_le hlt (Nat.pow_le_pow_right (by decide) hle)
      rw [Nat.min_eq_right hle, Nat.pow_eq, Nat.mod_eq_of_lt hlt, Nat.mod_eq_of_lt hlt']

/-- Where the value is asked to be whole first, cutting off leaves it. -/
theorem isWhole_and_truncate?_iff {n : Int} :
    d.isWhole = true ∧ d.truncate? = some n ↔ d.rational? = some (n : ℚ) := by
  cases hq : d.rational? with
  | none =>
      rw [truncate?_eq_none hq]
      exact iff_of_false (fun h => Option.some_ne_none n h.2.symm) (Option.some_ne_none _).symm
  | some q =>
      rw [isWhole_iff hq, truncate?_eq hq, Option.some.injEq, Option.some.injEq]
      constructor
      · rintro ⟨⟨m, rfl⟩, hm⟩
        rw [← hm, towardZero_intCast]
      · rintro rfl
        exact ⟨⟨n, rfl⟩, towardZero_intCast n⟩

/-- Only undefined results signal. -/
theorem isSignaling_eq_false (h : d.rational? = some q) : d.isSignaling = false := by
  cases d with
  | finite => rfl
  | infinite | undefined => cases h

end Finite

end Decimal

namespace Binary64

variable {x : Binary64} {q : ℚ}

/-- The decimal value of a double is its quotient. -/
theorem rational?_toDecimal (x : Binary64) :
    x.toDecimal.rational? = x.toRatio?.map fun r => (r.1 : ℚ) / r.2 := by
  rcases x with ⟨negative, m, e⟩ | _ | _
  case infinite | undefined => rfl
  rw [toDecimal, toRatio?]
  split
  · rw [Decimal.rational?, zpow_zero, mul_one, Option.map_some, Nat.cast_one, div_one]
    rfl
  · rename_i he
    obtain ⟨k, rfl⟩ : ∃ k : Nat, e = -(k : Int) := ⟨(-e).toNat, by omega⟩
    -- Five times two makes ten.
    have hten : (withSign negative (m * 5 ^ k) : ℚ) * 10 ^ (-(k : Int)) =
        (withSign negative m : ℚ) / (2 ^ k : Nat) := by
      have htwo : (10 : ℚ) ^ k = 2 ^ k * 5 ^ k := by rw [← mul_pow]; norm_num
      rw [withSign_mul, zpow_neg, zpow_natCast, htwo]
      push_cast
      field_simp
    rw [Int.neg_neg, Int.toNat_natCast, Decimal.rational?, Option.map_some]
    exact congrArg some hten

/-- Cutting off the fraction of a finite double leaves its whole part. -/
theorem truncate?_eq (h : x.toDecimal.rational? = some q) : x.truncate? = some (towardZero q) := by
  rw [rational?_toDecimal] at h
  rcases Option.map_eq_some_iff.mp h with ⟨r, hr, rfl⟩
  rw [truncate?, hr, towardZero_div]
  rfl

theorem toRatio?_pos {r : Int × Nat} (h : x.toRatio? = some r) : 0 < r.2 := by
  rcases x with ⟨negative, m, e⟩ | _ | _
  case infinite | undefined => cases h
  obtain rfl := Option.some.inj h
  dsimp only
  split
  · exact Nat.one_pos
  · exact Nat.pow_pos (by decide)

/-- A double is whole exactly when it is finite and its value is a whole number. -/
theorem isWhole_iff (x : Binary64) :
    x.isWhole = true ↔ ∃ n : Int, x.toDecimal.rational? = some (n : ℚ) := by
  rw [rational?_toDecimal, isWhole]
  cases hr : x.toRatio? with
  | none => simp only [Bool.false_eq_true, Option.map_none, reduceCtorEq, exists_false]
  | some r =>
      dsimp only
      rw [beq_iff_eq, ← exists_intCast_div_iff r.1 (toRatio?_pos hr), Option.map_some]
      simp only [Option.some.injEq]

/-- Where a double is asked to be whole first, cutting off leaves its value. -/
theorem isWhole_and_truncate?_iff {n : Int} :
    x.isWhole = true ∧ x.truncate? = some n ↔ x.toDecimal.rational? = some (n : ℚ) := by
  rw [isWhole_iff]
  constructor
  · rintro ⟨⟨m, hm⟩, hn⟩
    rw [truncate?_eq hm, towardZero_intCast, Option.some.injEq] at hn
    rw [hm, hn]
  · intro h
    exact ⟨⟨n, h⟩, by rw [truncate?_eq h, towardZero_intCast]⟩

end Binary64

end Criteria
