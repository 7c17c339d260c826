import Criteria.Proofs.Number.Digits

/-!
# Whole Numbers as Decimals

Whole numbers keep their order when they are taken as decimals.

Decimals are compared by the places of their leading digits first, and by their digits
only where these are the same. For whole numbers the first step is to compare the
numbers of digits, and the number with more of them is the greater one, so both steps
come to the same.

## Theorems

* `Decimal.compareMagnitude_zero`: Without exponents coefficients are compared.
* `Decimal.compare?_ofInt`: Whole numbers are compared as they are.
* `Decimal.truncate?_ofInt`: They are their own whole part.
-/

namespace Criteria

namespace Decimal

/-- More digits make a greater number. -/
theorem lt_of_digitCount_lt {c d : Nat} (hd : 0 < d) (h : digitCount c < digitCount d) :
    c < d := by
  calc c < 10 ^ digitCount c := lt_pow_digitCount c
    _ ≤ 10 ^ (digitCount d - 1) := Nat.pow_le_pow_right (by decide) (by omega)
    _ ≤ d := pow_digitCount_le hd

/-- Without exponents coefficients are compared. -/
theorem compareMagnitude_zero (c d : Nat) : compareMagnitude c 0 d 0 = compare c d := by
  rw [compareMagnitude]
  split
  · rfl
  · rename_i hzero
    rw [not_or] at hzero
    have hc := Nat.pos_of_ne_zero hzero.1
    have hd := Nat.pos_of_ne_zero hzero.2
    rw [Int.add_zero, Int.add_zero]
    -- At the same scale the one with more digits is greater, and with
    -- equally many the magnitudes decide.
    rcases Nat.lt_trichotomy (digitCount c) (digitCount d) with hlt | heq | hgt
    · have hless := lt_of_digitCount_lt hd hlt
      rw [Int.compare_eq_lt.mpr (Int.ofNat_lt.mpr hlt), Nat.compare_eq_lt.mpr hless]
    · rw [heq, Int.compare_eq_eq.mpr rfl]
      show compare (c * 1) (d * 1) = compare c d
      rw [Nat.mul_one, Nat.mul_one]
    · have hgreater := lt_of_digitCount_lt hc hgt
      rw [Int.compare_eq_gt.mpr (Int.ofNat_lt.mpr hgt), Nat.compare_eq_gt.mpr hgreater]

/-- Whole numbers are compared as they are. -/
theorem compare?_ofInt (m n : Int) : compare? (ofInt m) (ofInt n) = some (compare m n) := by
  -- It is enough that the magnitudes stand as the numbers do.
  have hsame {a b : Nat} (hlt : a < b ↔ m < n) (heq : a = b ↔ m = n) :
      compare a b = compare m n := by
    rcases Int.lt_trichotomy m n with h | h | h
    · rw [Nat.compare_eq_lt.mpr (hlt.mpr h), Int.compare_eq_lt.mpr h]
    · rw [Nat.compare_eq_eq.mpr (heq.mpr h), Int.compare_eq_eq.mpr h]
    · rw [Nat.compare_eq_gt.mpr (by omega), Int.compare_eq_gt.mpr h]
  -- Zero has no negative, so the sign of a whole number is that of its decimal.
  have hsign (k : Int) : (decide (k < 0) && k.natAbs != 0) = decide (k < 0) := by
    by_cases hk : k < 0
    · rw [decide_eq_true hk, Bool.true_and, bne_iff_ne]
      omega
    · rw [decide_eq_false hk, Bool.false_and]
  rw [ofInt, ofInt, compare?]
  split
  · rename_i hzero
    rw [Int.natAbs_eq_zero.mp hzero.1, Int.natAbs_eq_zero.mp hzero.2]
    rfl
  · -- Of two negative numbers the one of the greater magnitude is less.
    rw [hsign, hsign]
    by_cases hm : m < 0 <;> by_cases hn : n < 0 <;>
      simp only [hm, hn, decide_true, decide_false, compareMagnitude_zero, Option.some.injEq]
    · exact hsame (by omega) (by omega)
    · exact (Int.compare_eq_lt.mpr (by omega)).symm
    · exact (Int.compare_eq_gt.mpr (by omega)).symm
    · exact hsame (by omega) (by omega)

/-- The whole part of a whole number is the number. -/
theorem truncate?_ofInt (n : Int) : (ofInt n).truncate? = some n := by
  have hsign := withSign_natAbs n
  rw [ofInt, truncate?, if_pos (Int.le_refl 0)]
  show some (withSign (n < 0) (n.natAbs * 1)) = some n
  rw [Nat.mul_one, hsign]

end Decimal

end Criteria
