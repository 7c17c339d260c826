import Criteria.Number.Shortest
import Criteria.Proofs.Number.Rounding

/-!
# Shortest Digits Are Near

The digits chosen for a double are read as the double.

The search tries the two neighbours of the value on one grid after the other and
takes a neighbour only if it is in the interval of the double, so whatever is
found there reads back. What is to be shown is that something is found before
the search gives up: on the grid of eighteen digits the neighbour below the value
is so close that it lies in the interval for certain. The proof does not need to
know how many digits are found, nor that they are the fewest.

## Theorems

* `interval_low`, `interval_value`, `interval_high`: What an interval stands for.
* `near_of_holds`: A point in the interval of a double is near it.
* `holds_pick?`: A point that is picked is in the interval.
* `isSome_pick?`: A grid that is fine enough has a point to pick.
* `leadingPlace_le`: The place found is not too high.
* `pick?_shortestFrom`: The search ends with a point that was picked.
* `near_shortest`: The digits chosen for a double.
-/

namespace Criteria

namespace Binary64

theorem zpow_ten_pos (k : Int) : (0 : ℚ) < 10 ^ k :=
  zpow_pos (by norm_num) k

section Intervals

variable {m : Nat} {e : Int}

theorem interval_den_pos (m : Nat) (e : Int) : 0 < (interval m e).den := by
  rw [interval]
  by_cases he : 0 ≤ e
  · simp only [if_pos he]
    decide
  · simp only [if_neg he]
    exact Nat.mul_pos (by decide) (Nat.pow_pos (by decide))

/-- Everything is counted in quarters of the last place. -/
theorem quarter_div (e : Int) :
    ((if 0 ≤ e then 2 ^ e.toNat else 1 : Nat) : ℚ) /
      (if 0 ≤ e then 4 else 4 * 2 ^ (-e).toNat : Nat) = 2 ^ e / 4 := by
  by_cases he : 0 ≤ e
  · obtain ⟨k, rfl⟩ := Int.eq_ofNat_of_zero_le he
    rw [if_pos he, if_pos he, Int.toNat_natCast, zpow_natCast]
    push_cast
    rfl
  · obtain ⟨k, rfl⟩ : ∃ k : Nat, e = -(k : Int) := ⟨(-e).toNat, by omega⟩
    rw [if_neg he, if_neg he, neg_neg, Int.toNat_natCast, zpow_neg, zpow_natCast]
    push_cast
    field_simp

theorem interval_value (m : Nat) (e : Int) :
    ((interval m e).value : ℚ) / (interval m e).den = m * 2 ^ e := by
  have hquarter := quarter_div e
  rw [interval]
  simp only [Nat.pow_eq]
  rw [Nat.cast_mul, mul_div_assoc, hquarter]
  push_cast
  ring

theorem interval_high (m : Nat) (e : Int) :
    ((interval m e).high : ℚ) / (interval m e).den = (m + 1 / 2) * 2 ^ e := by
  have hquarter := quarter_div e
  rw [interval]
  simp only [Nat.pow_eq]
  rw [Nat.cast_mul, mul_div_assoc, hquarter]
  push_cast
  ring

theorem interval_low (hm : 0 < m) (e : Int) :
    ((interval m e).low : ℚ) / (interval m e).den = (m - gapBelow m e) * 2 ^ e := by
  have hquarter := quarter_div e
  rw [interval, gapBelow]
  simp only [Nat.pow_eq]
  by_cases hpower : m = 2 ^ 52 ∧ minExponent < e
  · rw [if_pos hpower, if_pos hpower, Nat.cast_mul, mul_div_assoc, hquarter,
      Nat.cast_sub (by omega)]
    push_cast
    ring
  · rw [if_neg hpower, if_neg hpower, Nat.cast_mul, mul_div_assoc, hquarter,
      Nat.cast_sub (by omega)]
    push_cast
    ring

end Intervals

section Grids

variable {i : Interval} {k : Int} {n num den : Nat}

theorem grid_pos (k : Int) : 0 < (grid k).1 ∧ 0 < (grid k).2 := by
  rw [grid]
  split
  · exact ⟨Nat.pow_pos (by decide), Nat.one_pos⟩
  · exact ⟨Nat.one_pos, Nat.pow_pos (by decide)⟩

theorem grid_div (k : Int) : ((grid k).1 : ℚ) / (grid k).2 = 10 ^ k := by
  by_cases hk : 0 ≤ k
  · obtain ⟨j, rfl⟩ := Int.eq_ofNat_of_zero_le hk
    rw [grid, if_pos hk, Int.toNat_natCast, Nat.pow_eq, zpow_natCast]
    push_cast
    rw [div_one]
  · obtain ⟨j, rfl⟩ : ∃ j : Nat, k = -(j : Int) := ⟨(-k).toNat, by omega⟩
    rw [grid, if_neg hk, neg_neg, Int.toNat_natCast, Nat.pow_eq, zpow_neg, zpow_natCast]
    push_cast
    rw [one_div]

/-- A comparison of two quotients, without their denominators. -/
theorem div_le_mul_div_iff {low : Nat} (hi : 0 < i.den) (hden : 0 < den) :
    low * den ≤ n * num * i.den ↔ (low : ℚ) / i.den ≤ n * (num / den) := by
  have hi' : (0 : ℚ) < i.den := by exact_mod_cast hi
  have hden' : (0 : ℚ) < den := by exact_mod_cast hden
  rw [← mul_div_assoc, div_le_div_iff₀ hi' hden']
  norm_cast

/-- The same the other way round. -/
theorem mul_div_le_div_iff {high : Nat} (hi : 0 < i.den) (hden : 0 < den) :
    n * num * i.den ≤ high * den ↔ (n : ℚ) * (num / den) ≤ high / i.den := by
  have hi' : (0 : ℚ) < i.den := by exact_mod_cast hi
  have hden' : (0 : ℚ) < den := by exact_mod_cast hden
  rw [← mul_div_assoc, div_le_div_iff₀ hden' hi']
  norm_cast

/-- A point in the interval of a double is near it. -/
theorem near_of_holds {m : Nat} {e : Int} (hm : 0 < m)
    (h : (interval m e).holds n (grid k).1 (grid k).2 = true) : Near m e (n * 10 ^ k) := by
  have hpos := zpow_two_pos e
  have hi := interval_den_pos m e
  have hden := (grid_pos k).2
  have hclosed : (interval m e).closed = (m % 2 == 0) := rfl
  rw [Interval.holds] at h
  -- The ends included or not, the number lies between them.
  have hle : (interval m e).low * (grid k).2 ≤ n * (grid k).1 * (interval m e).den ∧
      n * (grid k).1 * (interval m e).den ≤ (interval m e).high * (grid k).2 := by
    by_cases hc : (interval m e).closed = true
    · simp only [hc, if_true, Bool.and_eq_true, decide_eq_true_eq] at h
      exact h
    · simp only [hc, Bool.false_eq_true, if_false, Bool.and_eq_true, decide_eq_true_eq] at h
      exact ⟨h.1.le, h.2.le⟩
  have hlow := (div_le_mul_div_iff hi hden).mp hle.1
  have hhigh := (mul_div_le_div_iff hi hden).mp hle.2
  rw [interval_low hm, grid_div] at hlow
  rw [interval_high, grid_div] at hhigh
  -- Strictness is asked only of an odd mantissa, whose interval is open.
  refine ⟨(le_div_iff₀ hpos).mpr hlow, (div_le_iff₀ hpos).mpr hhigh, fun hodd => ?_⟩
  have hnot : ¬(interval m e).closed = true := by
    rw [hclosed, beq_iff_eq]
    omega
  simp only [hnot, Bool.false_eq_true, if_false, Bool.and_eq_true, decide_eq_true_eq] at h
  -- The ends of the interval do not belong to it.
  have hltlow : ¬n * (grid k).1 * (interval m e).den ≤ (interval m e).low * (grid k).2 := by omega
  have hlthigh : ¬(interval m e).high * (grid k).2 ≤ n * (grid k).1 * (interval m e).den := by
    omega
  rw [mul_div_le_div_iff hi hden, interval_low hm, grid_div] at hltlow
  rw [div_le_mul_div_iff hi hden, interval_high, grid_div] at hlthigh
  -- An odd mantissa is no power of two, so the gap below is the full one.
  have hgap : gapBelow m e = 1 / 2 := by
    rw [gapBelow, if_neg]
    rintro ⟨rfl, -⟩
    exact absurd hodd (by decide)
  rw [hgap] at hltlow
  constructor
  · intro heq
    exact hltlow ((div_le_iff₀ hpos).mp heq.symm.le)
  · intro heq
    exact hlthigh ((le_div_iff₀ hpos).mp heq.symm.le)

end Grids

section Search

variable {i : Interval} {k place : Int} {n : Nat}

/-- A point that is picked is in the interval and not zero. -/
theorem holds_pick? (h : pick? i k = some n) :
    0 < n ∧ i.holds n (grid k).1 (grid k).2 = true := by
  -- The candidates are the grid point below the value and the one above it.
  rw [pick?] at h
  simp only at h
  generalize i.value * (grid k).2 / ((grid k).1 * i.den) = low at h
  cases hlow : i.holds low (grid k).1 (grid k).2 && low != 0 with
  | true =>
      rw [Bool.and_eq_true, bne_iff_ne] at hlow
      cases hhigh : i.holds (low + 1) (grid k).1 (grid k).2 with
      | true =>
          simp only [hlow.1, hhigh, Bool.true_and, bne_iff_ne.mpr hlow.2] at h
          -- With both of them inside, the nearer is picked.
          have hn : n = low ∨ n = low + 1 := by
            split_ifs at h <;> simp only [Option.some.injEq] at h <;> omega
          rcases hn with rfl | rfl
          · exact ⟨Nat.pos_of_ne_zero hlow.2, hlow.1⟩
          · exact ⟨Nat.succ_pos low, hhigh⟩
      | false =>
          simp only [hlow.1, hhigh, Bool.true_and, bne_iff_ne.mpr hlow.2, Option.some.injEq] at h
          rw [← h]
          exact ⟨Nat.pos_of_ne_zero hlow.2, hlow.1⟩
  | false =>
      cases hhigh : i.holds (low + 1) (grid k).1 (grid k).2 with
      | true =>
          simp only [hlow, hhigh, Option.some.injEq] at h
          rw [← h]
          exact ⟨Nat.succ_pos low, hhigh⟩
      | false => simp only [hlow, hhigh, reduceCtorEq] at h

/-- A point is picked where the neighbour below the value is in the interval. -/
theorem isSome_pick?
    (hholds : i.holds (i.value * (grid k).2 / ((grid k).1 * i.den)) (grid k).1 (grid k).2 = true)
    (hne : i.value * (grid k).2 / ((grid k).1 * i.den) ≠ 0) : (pick? i k).isSome = true := by
  rw [pick?]
  simp only
  generalize i.value * (grid k).2 / ((grid k).1 * i.den) = low at hholds hne
  cases hhigh : i.holds (low + 1) (grid k).1 (grid k).2 with
  | true =>
      simp only [hholds, bne_iff_ne.mpr hne, Bool.and_self]
      split_ifs <;> rfl
  | false =>
      simp only [hholds, bne_iff_ne.mpr hne, Bool.and_self]
      rfl

/-- The grid of multiples of `10 ^ k` is fine enough where its step is less than
    the way down to the end of the interval. -/
theorem isSome_pick?_interval {m : Nat} {e : Int} (hm : 0 < m)
    (hstep : (10 : ℚ) ^ k < gapBelow m e * 2 ^ e) (hvalue : (10 : ℚ) ^ k ≤ m * 2 ^ e) :
    (pick? (interval m e) k).isSome = true := by
  have hi := interval_den_pos m e
  obtain ⟨hnum, hden⟩ := grid_pos k
  have hunit : 0 < (grid k).1 * (interval m e).den := Nat.mul_pos hnum hi
  -- The grid point below the value.
  set n := (interval m e).value * (grid k).2 / ((grid k).1 * (interval m e).den) with hn
  have hbelow : n * (grid k).1 * (interval m e).den ≤ (interval m e).value * (grid k).2 := by
    rw [Nat.mul_assoc]
    exact Nat.div_mul_le_self _ _
  have habove : (interval m e).value * (grid k).2 <
      (n + 1) * (grid k).1 * (interval m e).den := by
    rw [Nat.mul_assoc]
    exact Nat.lt_mul_of_div_lt (Nat.lt_succ_self _) hunit
  have hle := (mul_div_le_div_iff hi hden).mp hbelow
  have hlt : ¬(n + 1) * (grid k).1 * (interval m e).den ≤ (interval m e).value * (grid k).2 :=
    not_le.mpr habove
  rw [mul_div_le_div_iff hi hden, interval_value, grid_div, not_le] at hlt
  rw [interval_value, grid_div] at hle
  push_cast at hlt
  refine isSome_pick? ?_ fun hzero => ?_
  -- It is above the low end, since a step of the grid is smaller than the gap.
  · have hlow : ¬n * (grid k).1 * (interval m e).den ≤ (interval m e).low * (grid k).2 := by
      rw [mul_div_le_div_iff hi hden, interval_low hm, grid_div, not_le]
      linarith
    have hhigh : ¬(interval m e).high * (grid k).2 ≤ n * (grid k).1 * (interval m e).den := by
      rw [div_le_mul_div_iff hi hden, interval_high, grid_div, not_le]
      have := zpow_two_pos e
      linarith
    rw [not_le] at hlow hhigh
    rw [Interval.holds]
    split
    · rw [Bool.and_eq_true, decide_eq_true_eq, decide_eq_true_eq]
      exact ⟨hlow.le, hhigh.le⟩
    · rw [Bool.and_eq_true, decide_eq_true_eq, decide_eq_true_eq]
      exact ⟨hlow, hhigh⟩
  -- Were it zero, the value would lie below the first step.
  · rw [← hn] at hzero
    rw [hzero, Nat.cast_zero, zero_add, one_mul] at hlt
    exact absurd hvalue (not_le.mpr hlt)

/-- The place found is not above the leading digit: every step up is one that the
    number reaches. -/
theorem leadingPlace_le {num den : Nat} (hden : 0 < den) (fuel : Nat)
    (h : (10 : ℚ) ^ (place - 1) ≤ num / den) :
    (10 : ℚ) ^ (leadingPlace num den fuel place - 1) ≤ num / den := by
  -- Induction on the fuel: the place is only raised past a power of ten that the number reaches.
  induction fuel generalizing place with
  | zero => exact h
  | succ fuel ih =>
      rw [leadingPlace]
      simp only
      split
      · exact h
      · rename_i hreach
        refine ih ?_
        have hden' : (0 : ℚ) < den := by exact_mod_cast hden
        have hgrid : (0 : ℚ) < (grid place).2 := by exact_mod_cast (grid_pos place).2
        rw [add_sub_cancel_right, ← grid_div, div_le_div_iff₀ hgrid hden']
        exact_mod_cast not_lt.mp hreach

/-- The search ends with a point that was picked, if there is one on its way. -/
theorem pick?_shortestFrom {fuel count last : Nat} (hfirst : count ≤ last)
    (hlast : last < count + fuel) (h : (pick? i (place - last)).isSome = true) :
    pick? i (shortestFrom i place fuel count).2 = some (shortestFrom i place fuel count).1 := by
  induction fuel generalizing count with
  | zero => omega
  | succ fuel ih =>
      rw [shortestFrom]
      cases hpick : pick? i (place - count) with
      | some n => exact hpick
      | none =>
          refine ih ?_ (by omega)
          rcases Nat.eq_or_lt_of_le hfirst with rfl | hlt
          · rw [hpick] at h
            exact absurd h (by decide)
          · exact hlt

/-- Zeros at the end are taken off without changing the number. -/
theorem stripZeros_eq (fuel n : Nat) (k : Int) :
    ((stripZeros fuel n k).1 : ℚ) * 10 ^ (stripZeros fuel n k).2 = n * 10 ^ k := by
  induction fuel generalizing n k with
  | zero => rfl
  | succ fuel ih =>
      rw [stripZeros]
      split
      · rename_i h
        have hdiv : n = 10 * (n / 10) := by omega
        rw [ih, zpow_add_one₀ (by norm_num)]
        conv_rhs => rw [hdiv]
        push_cast
        ring
      · rfl

theorem stripZeros_pos (hn : 0 < n) (fuel : Nat) (k : Int) : 0 < (stripZeros fuel n k).1 := by
  induction fuel generalizing n k with
  | zero => exact hn
  | succ fuel ih =>
      rw [stripZeros]
      split
      · exact ih (by omega) _
      · exact hn

end Search

section Choice

variable {m : Nat} {e : Int}

theorem interval_value_pos (hm : 0 < m) : 0 < (interval m e).value := by
  have hquotient : (0 : ℚ) < m * 2 ^ e := mul_pos (by exact_mod_cast hm) (zpow_two_pos e)
  rw [← interval_value] at hquotient
  refine Nat.pos_of_ne_zero fun hzero => ?_
  rw [hzero, Nat.cast_zero, zero_div] at hquotient
  exact lt_irrefl _ hquotient

/-- A guess from the numbers of digits is not above the leading digit of a
    quotient. -/
theorem zpow_guess_le {num den : Nat} (hnum : 0 < num) (hden : 0 < den) :
    (10 : ℚ) ^ ((Decimal.digitCount num : Int) - Decimal.digitCount den - 1 - 1) ≤ num / den := by
  -- A number of `d` digits lies between `10 ^ (d - 1)` and `10 ^ d`.
  rw [le_div_iff₀ (by exact_mod_cast hden)]
  have hcount := digitCount_pos num
  calc (10 : ℚ) ^ ((Decimal.digitCount num : Int) - Decimal.digitCount den - 1 - 1) * den
      ≤ 10 ^ ((Decimal.digitCount num : Int) - Decimal.digitCount den - 1 - 1) *
          10 ^ (Decimal.digitCount den : Int) := by
        refine mul_le_mul_of_nonneg_left ?_ (zpow_ten_pos _).le
        rw [zpow_natCast]
        exact_mod_cast (lt_pow_digitCount _).le
    _ = 10 ^ ((Decimal.digitCount num : Int) - Decimal.digitCount den - 1 - 1 +
          Decimal.digitCount den) := (zpow_add₀ (by norm_num) _ _).symm
    _ ≤ 10 ^ ((Decimal.digitCount num - 1 : Nat) : Int) :=
        zpow_le_zpow_right₀ (by norm_num) (by omega)
    _ ≤ num := by
        rw [zpow_natCast]
        exact_mod_cast pow_digitCount_le hnum

/-- On the grid of eighteen digits the step is small enough for every double. -/
theorem zpow_step_lt {place : Int} (hfits : Fits m e)
    (hplace : (10 : ℚ) ^ (place - 1) ≤ m * 2 ^ e) :
    (10 : ℚ) ^ (place - (18 : Nat)) < gapBelow m e * 2 ^ e := by
  have hpos := zpow_two_pos e
  have hten := zpow_ten_pos (place - (18 : Nat))
  have hmlt : (m : ℚ) + 1 ≤ 2 ^ 53 := by exact_mod_cast hfits.lt
  -- Eighteen places below the leading one are finer than the 53 bits of a mantissa.
  have hfine : (10 : ℚ) ^ (place - (18 : Nat)) * 10 ^ 17 = 10 ^ (place - 1) := by
    rw [← zpow_natCast, ← zpow_add₀ (by norm_num)]
    congr 1
    push_cast
    ring
  have hmul : (10 : ℚ) ^ (place - (18 : Nat)) * 10 ^ 17 < 2 ^ 53 * 2 ^ e := by
    rw [hfine]
    refine lt_of_le_of_lt hplace (mul_lt_mul_of_pos_right ?_ hpos)
    linarith
  -- Even below a power of two the gap is a quarter of a unit.
  have hquarter : (1 : ℚ) / 4 * 2 ^ e ≤ gapBelow m e * 2 ^ e := by
    refine mul_le_mul_of_nonneg_right ?_ hpos.le
    rw [gapBelow]
    split <;> norm_num
  norm_num at hmul hquarter ⊢
  linarith

/-- The digits chosen for a double are near it. -/
theorem near_shortest (hfits : Fits m e) (hm : 0 < m) :
    0 < (shortest m e).1 ∧ Near m e ((shortest m e).1 * 10 ^ (shortest m e).2) := by
  have hden := interval_den_pos m e
  rw [shortest]
  simp only
  -- The search starts at a guess that is never too high, so its finest
  -- grid has a point in the interval.
  set guess : Int := (Decimal.digitCount (interval m e).value : Int) -
    Decimal.digitCount (interval m e).den - 1 with hguess
  set place := leadingPlace (interval m e).value (interval m e).den 4 guess with hplace
  have hvalue : 0 < (interval m e).value := interval_value_pos hm
  have hleading := leadingPlace_le hden 4 (zpow_guess_le hvalue hden)
  rw [← hguess, ← hplace, interval_value] at hleading
  have hgrid : (10 : ℚ) ^ (place - (18 : Nat)) ≤ m * 2 ^ e :=
    (zpow_le_zpow_right₀ (by norm_num) (by omega)).trans hleading
  have hpick := isSome_pick?_interval hm (zpow_step_lt hfits hleading) hgrid
  have hfound : pick? (interval m e) (shortestFrom (interval m e) place 18 1).2 =
      some (shortestFrom (interval m e) place 18 1).1 :=
    pick?_shortestFrom (by decide) (by decide) hpick
  obtain ⟨hn, hholds⟩ := holds_pick? hfound
  refine ⟨stripZeros_pos hn 20 _, ?_⟩
  -- Stripping zeros changes the digits and the exponent but not the number.
  rw [stripZeros_eq]
  exact near_of_holds hm hholds

end Choice

end Binary64

end Criteria
