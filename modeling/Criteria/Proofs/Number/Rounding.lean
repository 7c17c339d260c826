import Criteria.Proofs.Number.Digits
import Mathlib.Algebra.Order.Field.Power
import Mathlib.Data.Rat.Cast.Order
import Mathlib.Tactic.FieldSimp
import Mathlib.Tactic.Linarith
import Mathlib.Tactic.NormNum
import Mathlib.Tactic.Positivity
import Mathlib.Tactic.Ring

/-!
# Rounding to Doubles

Which quotients a double stands for.

A finite double is a mantissa and an exponent that fit each other: the mantissa
has 53 bits, or fewer at the lowest exponent. Every number of the interval
`Near` around `m · 2 ^ e` is rounded to it. The interval reaches half a place up
and half a place down, but below a power of two the doubles lie twice as close,
and there it reaches a quarter of a place down.

Away from a power of two the quotient has the exponent of the double itself
(`fittingExponent_eq_of_near`), also at the lowest exponent, where the mantissa
need not be full. Just below a power of two it has the exponent below, and is
rounded up to a mantissa that is one bit too long (`ofRatio_eq_power`).

## Main definitions

* `Binary64.Fits`: A mantissa and an exponent of a finite double.
* `Binary64.IsCanonical`: A finite double.
* `Binary64.Near`: The numbers that are rounded to a double.

## Theorems

* `roundQuotient_eq`: What is rounded to a whole number.
* `fittingExponent_eq`, `fittingExponent_eq_min`: The exponent of a quotient.
* `ofRatio_eq_finite`: A number near a double is rounded to it.
* `ofScientific_eq_finite`: The same for a number with a power of ten.
* `fits_of_ofRatio`, `fits_of_ofScientific`: What is rounded is a double, if it is
  finite.
-/

namespace Criteria

namespace Binary64

/-- A mantissa and an exponent of a finite double. -/
structure Fits (m : Nat) (e : Int) : Prop where
  lt : m < 2 ^ 53
  low : minExponent ≤ e
  high : e ≤ maxExponent
  full : 2 ^ 52 ≤ m ∨ e = minExponent

/-- A finite double, written in the one way it can be. -/
def IsCanonical : Binary64 → Prop
  | finite _ m e => Fits m e
  | _ => False

/-- How far down the interval of a double reaches, in its last place. -/
def gapBelow (m : Nat) (e : Int) : ℚ :=
  if m = 2 ^ 52 ∧ minExponent < e then 1 / 4 else 1 / 2

/-- The number is rounded to `m · 2 ^ e`; the ends of the interval are, where the
    mantissa is even. -/
structure Near (m : Nat) (e : Int) (x : ℚ) : Prop where
  low : m - gapBelow m e ≤ x / 2 ^ e
  high : x / 2 ^ e ≤ m + 1 / 2
  inside : m % 2 = 1 → (m : ℚ) - 1 / 2 ≠ x / 2 ^ e ∧ x / 2 ^ e ≠ m + 1 / 2

theorem zpow_two_pos (e : Int) : (0 : ℚ) < 2 ^ e :=
  zpow_pos (by norm_num) e

section Quotients

variable {num den : Nat} {m : Nat} {e : Int}

/-- A scaled quotient is a quotient over a power of two. -/
theorem scaled_div (num den : Nat) (e : Int) :
    ((scaled num den e).1 : ℚ) / (scaled num den e).2 = (num : ℚ) / den / 2 ^ e := by
  by_cases he : 0 ≤ e
  · rw [scaled, if_pos he]
    obtain ⟨k, rfl⟩ := Int.eq_ofNat_of_zero_le he
    simp only [Int.toNat_natCast, Nat.pow_eq, Nat.cast_mul, Nat.cast_pow, Nat.cast_ofNat,
      zpow_natCast]
    rw [div_div]
  · rw [scaled, if_neg he]
    obtain ⟨k, hk⟩ : ∃ k : Nat, e = -(k : Int) := ⟨(-e).toNat, by omega⟩
    subst hk
    simp only [neg_neg, Int.toNat_natCast, Nat.pow_eq, Nat.cast_mul, Nat.cast_pow, Nat.cast_ofNat,
      zpow_neg, zpow_natCast]
    rw [div_inv_eq_mul, mul_div_right_comm]

theorem scaled_pos (hden : 0 < den) : 0 < (scaled num den e).2 := by
  rw [scaled]
  split
  · exact Nat.mul_pos hden (Nat.pow_pos (by decide))
  · exact hden

/-- What is at most half a place from a whole number is rounded to it, a half to
    the even one. -/
theorem roundQuotient_eq_of_le (hlow : 2 * m * den ≤ 2 * num + den)
    (hhigh : 2 * num ≤ 2 * m * den + den)
    (hodd : m % 2 = 1 → 2 * m * den ≠ 2 * num + den ∧ 2 * num ≠ 2 * m * den + den)
    (hden : 0 < den) : Decimal.roundQuotient num den = m := by
  have hmod := Nat.mod_lt num hden
  have hdiv := Nat.div_add_mod num den
  -- The whole part is `m` or the number below it.
  have hle : num / den ≤ m := by
    refine Nat.lt_succ_iff.mp ((Nat.div_lt_iff_lt_mul hden).mpr ?_)
    rw [Nat.succ_mul]
    nlinarith
  have hge : m ≤ num / den + 1 := by
    by_contra hlt
    have hmul : (num / den + 2) * den ≤ m * den := Nat.mul_le_mul_right den (by omega)
    nlinarith
  rw [Decimal.roundQuotient]
  -- Either way the rest of the division decides, and the bounds on `num`
  -- say on which side of the half it lies.
  rcases Nat.lt_or_ge (num / den) m with hlt | hge'
  · obtain rfl : m = num / den + 1 := by omega
    have hmul : 2 * (num / den + 1) * den = 2 * (den * (num / den)) + 2 * den := by ring
    rw [hmul] at hlow hhigh hodd
    rw [if_neg (by omega)]
    by_cases hmore : den < 2 * (num % den)
    · rw [if_pos hmore]
    · rw [if_neg hmore, if_neg (by omega)]
  · obtain rfl : m = num / den := by omega
    have hmul : 2 * (num / den) * den = 2 * (den * (num / den)) := by ring
    rw [hmul] at hlow hhigh hodd
    by_cases hless : 2 * (num % den) < den
    · rw [if_pos hless]
    · rw [if_neg hless, if_neg (by omega), if_pos (by omega)]

/-- The same for a quotient. -/
theorem roundQuotient_eq (hden : 0 < den) (hlow : (m : ℚ) - 1 / 2 ≤ num / den)
    (hhigh : (num : ℚ) / den ≤ m + 1 / 2)
    (hodd : m % 2 = 1 → (m : ℚ) - 1 / 2 ≠ num / den ∧ (num : ℚ) / den ≠ m + 1 / 2) :
    Decimal.roundQuotient num den = m := by
  -- The same bounds with the denominators multiplied out, as the
  -- lemma on natural numbers takes them.
  have hpos : (0 : ℚ) < den := by exact_mod_cast hden
  refine roundQuotient_eq_of_le ?_ ?_ (fun hm => ⟨fun heq => ?_, fun heq => ?_⟩) hden
  · rw [le_div_iff₀ hpos] at hlow
    have : (2 * m * den : ℚ) ≤ 2 * num + den := by linarith
    exact_mod_cast this
  · rw [div_le_iff₀ hpos] at hhigh
    have : (2 * num : ℚ) ≤ 2 * m * den + den := by linarith
    exact_mod_cast this
  · refine (hodd hm).1 ?_
    have : (2 * m * den : ℚ) = 2 * num + den := by exact_mod_cast heq
    rw [eq_div_iff hpos.ne']
    linarith
  · refine (hodd hm).2 ?_
    have : (2 * num : ℚ) = 2 * m * den + den := by exact_mod_cast heq
    rw [div_eq_iff hpos.ne']
    linarith

/-- A number between two powers of two that follow each other has one exponent. -/
theorem exponent_unique {x : ℚ} {f : Int} (hlow : (2 : ℚ) ^ e ≤ x) (hhigh : x < 2 ^ (e + 1))
    (hlow' : (2 : ℚ) ^ f ≤ x) (hhigh' : x < 2 ^ (f + 1)) : e = f := by
  have hef := (zpow_lt_zpow_iff_right₀ one_lt_two).mp (hlow.trans_lt hhigh')
  have hfe := (zpow_lt_zpow_iff_right₀ one_lt_two).mp (hlow'.trans_lt hhigh)
  omega

/-- The exponent of a quotient, where its mantissa is full. -/
theorem exists_fittingExponent (hnum : 0 < num) (hden : 0 < den) :
    ∃ e, fittingExponent num den = max minExponent e ∧ (2 : ℚ) ^ (e + 52) ≤ num / den ∧
      (num : ℚ) / den < 2 ^ (e + 53) := by
  set a := Nat.log2 num with ha
  set b := Nat.log2 den with hb
  -- Numerator and denominator lie between consecutive powers of two.
  have hnumlow : (2 : ℚ) ^ (a : Int) ≤ num := by
    rw [zpow_natCast]
    exact_mod_cast Nat.log2_self_le hnum.ne'
  have hnumhigh : (num : ℚ) < 2 ^ ((a : Int) + 1) := by
    rw [← Nat.cast_succ, zpow_natCast]
    exact_mod_cast Nat.lt_log2_self
  have hdenlow : (2 : ℚ) ^ (b : Int) ≤ den := by
    rw [zpow_natCast]
    exact_mod_cast Nat.log2_self_le hden.ne'
  have hdenhigh : (den : ℚ) < 2 ^ ((b : Int) + 1) := by
    rw [← Nat.cast_succ, zpow_natCast]
    exact_mod_cast Nat.lt_log2_self
  have hdenpos : (0 : ℚ) < den := by exact_mod_cast hden
  -- Hence so does their quotient, with one power more of room.
  have hlow : (2 : ℚ) ^ ((a : Int) - b - 1) ≤ num / den := by
    rw [le_div_iff₀ hdenpos]
    calc (2 : ℚ) ^ ((a : Int) - b - 1) * den ≤ 2 ^ ((a : Int) - b - 1) * 2 ^ ((b : Int) + 1) :=
          mul_le_mul_of_nonneg_left hdenhigh.le (zpow_two_pos _).le
      _ = 2 ^ (a : Int) := by rw [← zpow_add₀ two_ne_zero]; congr 1; omega
      _ ≤ num := hnumlow
  have hhigh : (num : ℚ) / den < 2 ^ ((a : Int) - b + 1) := by
    rw [div_lt_iff₀ hdenpos]
    calc (num : ℚ) < 2 ^ ((a : Int) + 1) := hnumhigh
      _ = 2 ^ ((a : Int) - b + 1) * 2 ^ (b : Int) := by
          rw [← zpow_add₀ two_ne_zero]; congr 1; omega
      _ ≤ 2 ^ ((a : Int) - b + 1) * den :=
          mul_le_mul_of_nonneg_left hdenlow (zpow_two_pos _).le
  -- The guess is the exponent or the one above it; the whole part tells.
  set guess : Int := (a : Int) - b - 52 with hguess
  have hpos : 0 < (scaled num den guess).2 := scaled_pos hden
  have hwhole : (scaled num den guess).1 / (scaled num den guess).2 < 2 ^ 52 ↔
      (num : ℚ) / den < 2 ^ (guess + 52) := by
    rw [Nat.div_lt_iff_lt_mul hpos, add_comm guess, zpow_add₀ two_ne_zero,
      ← div_lt_iff₀ (zpow_two_pos guess), ← scaled_div,
      div_lt_iff₀ (by exact_mod_cast hpos : (0 : ℚ) < (scaled num den guess).2)]
    norm_cast
  by_cases hless : (num : ℚ) / den < 2 ^ (guess + 52)
  · refine ⟨guess - 1, ?_, ?_, ?_⟩
    · rw [fittingExponent]
      exact congrArg (max minExponent) (if_pos (hwhole.mpr hless))
    · rwa [show guess - 1 + 52 = (a : Int) - b - 1 by omega]
    · rwa [show guess - 1 + 53 = guess + 52 by omega]
  · refine ⟨guess, ?_, not_lt.mp hless, ?_⟩
    · rw [fittingExponent]
      exact congrArg (max minExponent) (if_neg fun h => hless (hwhole.mp h))
    · rwa [show guess + 53 = (a : Int) - b + 1 by omega]

/-- The exponent of a quotient whose mantissa is full. -/
theorem fittingExponent_eq (hnum : 0 < num) (hden : 0 < den) (he : minExponent ≤ e)
    (hlow : (2 : ℚ) ^ (e + 52) ≤ num / den) (hhigh : (num : ℚ) / den < 2 ^ (e + 53)) :
    fittingExponent num den = e := by
  rcases exists_fittingExponent hnum hden with ⟨f, hf, hlow', hhigh'⟩
  have heq := exponent_unique hlow (by rwa [show e + 52 + 1 = e + 53 by omega]) hlow'
    (by rwa [show f + 52 + 1 = f + 53 by omega])
  rw [hf]
  omega

/-- A quotient below that has the lowest exponent. -/
theorem fittingExponent_eq_min (hnum : 0 < num) (hden : 0 < den)
    (hhigh : (num : ℚ) / den < 2 ^ (minExponent + 53)) :
    fittingExponent num den = minExponent := by
  rcases exists_fittingExponent hnum hden with ⟨f, hf, hlow', -⟩
  have hlt := (zpow_lt_zpow_iff_right₀ one_lt_two).mp (hlow'.trans_lt hhigh)
  rw [hf]
  omega

/-- Rounding, where the exponent and the mantissa are known. -/
theorem ofRatio_eq (negative : Bool) (hnum : 0 < num) (hden : 0 < den)
    (hfit : fittingExponent num den = e)
    (hround : Decimal.roundQuotient (scaled num den e).1 (scaled num den e).2 = m) :
    ofRatio negative num den =
      if maxExponent < (if m = 2 ^ 53 then e + 1 else e) then .infinite negative
      else if m = 2 ^ 53 then .finite negative (2 ^ 52) (e + 1) else .finite negative m e := by
  rw [ofRatio, if_neg (by omega)]
  simp only [hfit, hround, Nat.pow_eq]
  split <;> rfl

end Quotients

section NearbyQuotients

variable {num den m : Nat} {e : Int} (negative : Bool)

/-- A number near a double is less than what a longer mantissa could write. -/
theorem Near.lt_zpow {x : ℚ} (h : Near m e x) (hfits : Fits m e) : x < 2 ^ (e + 53) := by
  have hmlt : (m : ℚ) + 1 ≤ 2 ^ 53 := by exact_mod_cast hfits.lt
  rw [add_comm, zpow_add₀ two_ne_zero, ← div_lt_iff₀ (zpow_two_pos e)]
  have hhigh := h.high
  norm_num at hhigh hmlt ⊢
  linarith

/-- Rounding at the exponent of the double. -/
theorem ofRatio_eq_of_fits (hfits : Fits m e) (hnum : 0 < num) (hden : 0 < den)
    (hfit : fittingExponent num den = e)
    (hround : Decimal.roundQuotient (scaled num den e).1 (scaled num den e).2 = m) :
    ofRatio negative num den = .finite negative m e := by
  have hmax : ¬maxExponent < e := not_lt.mpr hfits.high
  have hne : m ≠ 2 ^ 53 := hfits.lt.ne
  rw [ofRatio_eq negative hnum hden hfit hround, if_neg hne, if_neg hmax, if_neg hne]

/-- A number near a power of two, from above or from below. -/
theorem ofRatio_eq_power (hfits : Fits (2 ^ 52) e) (hmin : minExponent < e) (hnum : 0 < num)
    (hden : 0 < den) (hnear : Near (2 ^ 52) e ((num : ℚ) / den)) :
    ofRatio negative num den = .finite negative (2 ^ 52) e := by
  have hpos := zpow_two_pos e
  have hlow := hnear.low
  rw [gapBelow, if_pos ⟨rfl, hmin⟩] at hlow
  -- Just below a power of two the floats lie twice as close, so a nearby
  -- quotient may have the exponent below.
  rcases le_or_gt ((2 : ℚ) ^ 52) ((num : ℚ) / den / 2 ^ e) with hge | hlt
  · have hfit : fittingExponent num den = e := by
      refine fittingExponent_eq hnum hden hfits.low ?_ (hnear.lt_zpow hfits)
      rw [add_comm, zpow_add₀ two_ne_zero, ← le_div_iff₀ hpos]
      exact_mod_cast hge
    refine ofRatio_eq_of_fits negative hfits hnum hden hfit ?_
    refine roundQuotient_eq (scaled_pos hden) ?_ ?_ (fun h => absurd h (by decide))
    · rw [scaled_div]
      push_cast
      linarith
    · rw [scaled_div]
      exact hnear.high
  · -- The mantissa is rounded up to one that is a bit too long.
    have hhalf : (num : ℚ) / den / 2 ^ (e - 1) = 2 * (num / den / 2 ^ e) := by
      rw [zpow_sub_one₀ two_ne_zero, div_mul_eq_div_div, div_inv_eq_mul]
      ring
    have hfit : fittingExponent num den = e - 1 := by
      refine fittingExponent_eq hnum hden (by omega) ?_ ?_
      · rw [show e - 1 + 52 = 52 + (e - 1) by omega, zpow_add₀ two_ne_zero,
          ← le_div_iff₀ (zpow_two_pos _), hhalf]
        norm_num at hlow ⊢
        linarith
      · rw [show e - 1 + 53 = 52 + e by omega, zpow_add₀ two_ne_zero, ← div_lt_iff₀ hpos]
        exact_mod_cast hlt
    have hround : Decimal.roundQuotient (scaled num den (e - 1)).1 (scaled num den (e - 1)).2 =
        2 ^ 53 := by
      refine roundQuotient_eq (scaled_pos hden) ?_ ?_ (fun h => absurd h (by decide))
      · rw [scaled_div, hhalf]
        norm_num at hlow ⊢
        linarith
      · rw [scaled_div, hhalf]
        norm_num at hlt ⊢
        linarith
    rw [ofRatio_eq negative hnum hden hfit hround, if_pos rfl, if_pos rfl,
      show e - 1 + 1 = e by omega, if_neg (not_lt.mpr hfits.high)]

/-- A number near a double that is no power of two, or at the lowest exponent, has
    the exponent of the double. -/
theorem fittingExponent_eq_of_near (hfits : Fits m e) (hnum : 0 < num) (hden : 0 < den)
    (hnear : Near m e ((num : ℚ) / den)) (hpower : ¬(m = 2 ^ 52 ∧ minExponent < e)) :
    fittingExponent num den = e := by
  have hlow := hnear.low
  rw [gapBelow, if_neg hpower] at hlow
  -- Above the least exponent the mantissa is full and, being no power of two, leaves room below.
  by_cases hmin : minExponent < e
  · have hfull : 2 ^ 52 ≤ m := hfits.full.resolve_right hmin.ne'
    have hmgt : (2 : ℚ) ^ 52 + 1 ≤ m := by
      have hlt : 2 ^ 52 + 1 ≤ m := by
        rcases Nat.lt_or_ge (2 ^ 52) m with h | h
        · exact h
        · exact absurd ⟨le_antisymm h hfull, hmin⟩ hpower
      exact_mod_cast hlt
    refine fittingExponent_eq hnum hden hfits.low ?_ (hnear.lt_zpow hfits)
    rw [add_comm, zpow_add₀ two_ne_zero, ← le_div_iff₀ (zpow_two_pos e)]
    norm_num at hlow ⊢
    linarith
  · obtain rfl : e = minExponent := le_antisymm (not_lt.mp hmin) hfits.low
    exact fittingExponent_eq_min hnum hden (hnear.lt_zpow hfits)

/-- A number near a double is rounded to it. -/
theorem ofRatio_eq_finite (hfits : Fits m e) (hnum : 0 < num) (hden : 0 < den)
    (hnear : Near m e ((num : ℚ) / den)) : ofRatio negative num den = .finite negative m e := by
  by_cases hpower : m = 2 ^ 52 ∧ minExponent < e
  · obtain ⟨rfl, hmin⟩ := hpower
    exact ofRatio_eq_power negative hfits hmin hnum hden hnear
  · have hlow := hnear.low
    rw [gapBelow, if_neg hpower] at hlow
    refine ofRatio_eq_of_fits negative hfits hnum hden
      (fittingExponent_eq_of_near hfits hnum hden hnear hpower) ?_
    refine roundQuotient_eq (scaled_pos hden) ?_ ?_ ?_
    · rwa [scaled_div]
    · rw [scaled_div]
      exact hnear.high
    · rw [scaled_div]
      exact hnear.inside

end NearbyQuotients

/-- Doubles are less than a power of ten. -/
theorem two_zpow_lt : (2 : ℚ) ^ (1024 : Int) < 10 ^ (309 : Int) := by
  have h : (2 : Nat) ^ 1024 < 10 ^ 309 := by decide +kernel
  rw [show (1024 : Int) = ((1024 : Nat) : Int) from rfl,
    show (309 : Int) = ((309 : Nat) : Int) from rfl, zpow_natCast, zpow_natCast]
  exact_mod_cast h

/-- Doubles other than zero are greater than a power of ten. -/
theorem lt_two_zpow : (10 : ℚ) ^ (-324 : Int) < 2 ^ (-1075 : Int) := by
  have h : (2 : Nat) ^ 1075 < 10 ^ 324 := by decide +kernel
  rw [show (-1075 : Int) = -((1075 : Nat) : Int) from rfl,
    show (-324 : Int) = -((324 : Nat) : Int) from rfl, zpow_neg, zpow_neg, zpow_natCast,
    zpow_natCast]
  refine inv_strictAnti₀ (by positivity) ?_
  exact_mod_cast h

/-- Numbers near a double are not so large or small that their leading digit
    decides. -/
theorem Near.bounds {m : Nat} {e : Int} {x : ℚ} (h : Near m e x) (hfits : Fits m e) (hm : 0 < m) :
    (10 : ℚ) ^ (-324 : Int) < x ∧ x < 10 ^ (309 : Int) := by
  -- The mantissa is at least one and below `2 ^ 53`, and the quotient is within half a unit of it.
  have hpos := zpow_two_pos e
  have hmlt : (m : ℚ) + 1 ≤ 2 ^ 53 := by exact_mod_cast hfits.lt
  have hmge : (1 : ℚ) ≤ m := by exact_mod_cast hm
  constructor
  · have hhalf : (1 : ℚ) / 2 ≤ x / 2 ^ e := by
      have hlow := h.low
      rw [gapBelow] at hlow
      split at hlow <;> linarith
    calc (10 : ℚ) ^ (-324 : Int) < 2 ^ (-1075 : Int) := lt_two_zpow
      _ ≤ 2 ^ (e - 1) := zpow_le_zpow_right₀ one_le_two (by
          have := hfits.low
          rw [minExponent] at this
          omega)
      _ = 1 / 2 * 2 ^ e := by rw [zpow_sub_one₀ two_ne_zero]; ring
      _ ≤ x := (le_div_iff₀ hpos).mp hhalf
  · have hless : x / 2 ^ e < 2 ^ 53 := by
      have hhigh := h.high
      norm_num at hhigh hmlt ⊢
      linarith
    calc x < 2 ^ 53 * 2 ^ e := (div_lt_iff₀ hpos).mp hless
      _ = 2 ^ (53 + e) := by rw [zpow_add₀ two_ne_zero]; norm_num
      _ ≤ 2 ^ (1024 : Int) := zpow_le_zpow_right₀ one_le_two (by
          have := hfits.high
          rw [maxExponent] at this
          omega)
      _ < 10 ^ (309 : Int) := two_zpow_lt

/-- A number near a double, written with a power of ten, is read as the double. -/
theorem ofScientific_eq_finite {c m : Nat} {k e : Int} (negative : Bool) (hfits : Fits m e)
    (hm : 0 < m) (hc : 0 < c) (hnear : Near m e ((c : ℚ) * 10 ^ k)) :
    ofScientific negative c k = .finite negative m e := by
  have hten (j : Int) : (0 : ℚ) < 10 ^ j := zpow_pos (by norm_num) j
  obtain ⟨hlow, hhigh⟩ := hnear.bounds hfits hm
  have hcount := digitCount_pos c
  -- The scale of a nearby value is inside the range in which the digits are really converted.
  have hbelow : (-324 : Int) < Decimal.digitCount c + k := by
    refine (zpow_lt_zpow_iff_right₀ (by norm_num : (1 : ℚ) < 10)).mp (hlow.trans ?_)
    rw [zpow_add₀ (by norm_num), zpow_natCast]
    exact mul_lt_mul_of_pos_right (by exact_mod_cast lt_pow_digitCount c) (hten k)
  have habove : ((Decimal.digitCount c - 1 : Nat) : Int) + k < 309 := by
    refine (zpow_lt_zpow_iff_right₀ (by norm_num : (1 : ℚ) < 10)).mp (lt_of_le_of_lt ?_ hhigh)
    rw [zpow_add₀ (by norm_num), zpow_natCast]
    exact mul_le_mul_of_nonneg_right (by exact_mod_cast pow_digitCount_le hc) (hten k).le
  rw [ofScientific]
  simp only [Nat.pow_eq]
  rw [if_neg (by omega), if_neg (by omega)]
  -- By the sign of the exponent: the power of ten belongs to the numerator or to the denominator.
  by_cases hk : 0 ≤ k
  · rw [if_pos hk]
    obtain ⟨n, rfl⟩ := Int.eq_ofNat_of_zero_le hk
    refine ofRatio_eq_finite negative hfits (Nat.mul_pos hc (Nat.pow_pos (by decide))) one_pos ?_
    rw [zpow_natCast] at hnear
    rw [Int.toNat_natCast]
    push_cast
    rwa [div_one]
  · rw [if_neg hk]
    obtain ⟨n, rfl⟩ : ∃ n : Nat, k = -(n : Int) := ⟨(-k).toNat, by omega⟩
    refine ofRatio_eq_finite negative hfits hc (Nat.pow_pos (by decide)) ?_
    rw [zpow_neg, zpow_natCast, ← div_eq_mul_inv] at hnear
    rw [neg_neg, Int.toNat_natCast]
    push_cast
    exact hnear

section Results

variable {negative sign : Bool} {num den m : Nat} {e : Int}

theorem fits_zero : Fits 0 minExponent :=
  ⟨by decide, Int.le_refl _, by decide, .inr rfl⟩

theorem Fits.of_eq {n : Nat} {f : Int} (h : Fits n f)
    (heq : finite negative n f = finite sign m e) : Fits m e := by
  rw [finite.injEq] at heq
  rw [← heq.2.1, ← heq.2.2]
  exact h

/-- A rounded quotient is the whole part or the number above it. -/
theorem roundQuotient_bounds (num den : Nat) :
    num / den ≤ Decimal.roundQuotient num den ∧
      Decimal.roundQuotient num den ≤ num / den + 1 := by
  rw [Decimal.roundQuotient]
  split
  · exact ⟨Nat.le_refl _, Nat.le_succ _⟩
  split
  · exact ⟨Nat.le_succ _, Nat.le_refl _⟩
  split
  · exact ⟨Nat.le_refl _, Nat.le_succ _⟩
  · exact ⟨Nat.le_succ _, Nat.le_refl _⟩

/-- At its exponent a quotient has a mantissa of 53 bits, unless the exponent is
    the lowest one; only rounding can make it one bit longer. -/
theorem mantissa_bounds (hnum : 0 < num) (hden : 0 < den)
    (he : fittingExponent num den = e)
    (hm : Decimal.roundQuotient (scaled num den e).1 (scaled num den e).2 = m) :
    minExponent ≤ e ∧ m ≤ 2 ^ 53 ∧ (2 ^ 52 ≤ m ∨ e = minExponent) := by
  rcases exists_fittingExponent hnum hden with ⟨f, hf, hlow, hhigh⟩
  have hpos := zpow_two_pos e
  have hd : 0 < (scaled num den e).2 := scaled_pos hden
  have hdq : (0 : ℚ) < (scaled num den e).2 := by exact_mod_cast hd
  have hround := roundQuotient_bounds (scaled num den e).1 (scaled num den e).2
  rw [hm] at hround
  have hfe : f ≤ e := by omega
  -- The exponent is chosen so that the whole part has at most fifty-three bits.
  have hlt : (scaled num den e).1 / (scaled num den e).2 < 2 ^ 53 := by
    have hq : ((scaled num den e).1 : ℚ) / (scaled num den e).2 < 2 ^ 53 := by
      rw [scaled_div, div_lt_iff₀ hpos, ← zpow_natCast, ← zpow_add₀ two_ne_zero]
      refine hhigh.trans_le (zpow_le_zpow_right₀ one_le_two ?_)
      push_cast
      omega
    rw [div_lt_iff₀ hdq] at hq
    refine Nat.div_lt_of_lt_mul ?_
    rw [Nat.mul_comm]
    exact_mod_cast hq
  refine ⟨by omega, by omega, ?_⟩
  -- Above the least exponent it has exactly fifty-three.
  rcases lt_or_ge f minExponent with hmin | hmin
  · exact .inr (by omega)
  · have hef : e = f := by omega
    have hq : (2 : ℚ) ^ 52 ≤ ((scaled num den e).1 : ℚ) / (scaled num den e).2 := by
      rw [scaled_div, le_div_iff₀ hpos, ← zpow_natCast, ← zpow_add₀ two_ne_zero, hef, add_comm]
      exact_mod_cast hlow
    rw [le_div_iff₀ hdq] at hq
    have hle : 2 ^ 52 ≤ (scaled num den e).1 / (scaled num den e).2 := by
      rw [Nat.le_div_iff_mul_le hd]
      exact_mod_cast hq
    exact .inl (by omega)

/-- A quotient is rounded to a double, if not to an infinity. -/
theorem fits_of_ofRatio (h : ofRatio negative num den = .finite sign m e) : Fits m e := by
  -- A zero is written with the least exponent.
  rcases Nat.eq_zero_or_pos num with hnum | hnum
  · rw [ofRatio, if_pos (.inl hnum)] at h
    exact fits_zero.of_eq h
  rcases Nat.eq_zero_or_pos den with hden | hden
  · rw [ofRatio, if_pos (.inr hden)] at h
    exact fits_zero.of_eq h
  obtain ⟨f, hf⟩ : ∃ f, fittingExponent num den = f := ⟨_, rfl⟩
  obtain ⟨k, hk⟩ : ∃ k, Decimal.roundQuotient (scaled num den f).1 (scaled num den f).2 = k :=
    ⟨_, rfl⟩
  have hbounds := mantissa_bounds hnum hden hf hk
  rw [ofRatio_eq negative hnum hden hf hk] at h
  -- A mantissa rounded up to `2 ^ 53` is halved and the exponent raised, which may leave the range.
  by_cases hlong : k = 2 ^ 53
  · rw [if_pos hlong, if_pos hlong] at h
    split at h
    · exact absurd h (by simp only [reduceCtorEq, not_false_eq_true])
    · exact Fits.of_eq ⟨by decide, by omega, by omega, .inl (Nat.le_refl _)⟩ h
  · rw [if_neg hlong, if_neg hlong] at h
    split at h
    · exact absurd h (by simp only [reduceCtorEq, not_false_eq_true])
    · exact Fits.of_eq ⟨by omega, hbounds.1, by omega, hbounds.2.2⟩ h

/-- A number with a power of ten is rounded to a double, if not to an infinity. -/
theorem fits_of_ofScientific {c : Nat} {k : Int}
    (h : ofScientific negative c k = .finite sign m e) : Fits m e := by
  rw [ofScientific] at h
  split at h
  · exact fits_zero.of_eq h
  split at h
  · exact absurd h (by simp only [reduceCtorEq, not_false_eq_true])
  split at h
  · exact fits_of_ofRatio h
  · exact fits_of_ofRatio h

end Results

end Binary64

end Criteria
