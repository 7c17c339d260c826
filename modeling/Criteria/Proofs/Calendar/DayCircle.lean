import Criteria.Proofs.Number.Rational
import Criteria.Proofs.Number.Rounding
import Criteria.Value.Temporal

/-!
# The Circle of the Day

Times of day as places on a circle, and the arcs that ranges of times are.

How far one time is behind another is counted around the circle (`TimeOfDay.behind`), so
a range is an arc that begins at one time and ends at another, whether midnight is on it
or not. Tests look at times along the line from midnight to midnight instead. They ask
for both bounds if the first is not after the last, and for one of them otherwise, and
this comes to the same.

A length of time is on the circle as well: its full seconds go around the clock. They are
counted in double precision, which is exact up to `Duration.exactSeconds`. Beyond, what
lies less than half a place below a full second counts as this second.

## Main definitions

* `TimeOfDay.behind`, `TimeOfDay.IsOnArc`: The arcs of the circle.
* `Value.wallMicros?`: The time of day of a temporal value, exactly.
* `Value.IsExact`: The time of day is not rounded.

## Theorems

* `TimeOfDay.isOnArc_of_le`, `TimeOfDay.isOnArc_of_lt`: Ranges are arcs.
* `TimeOfDay.isOnArc_swap`: The rest of the circle is an arc as well.
* `Binary64.truncate?_ofRatio`: When rounding a quotient keeps its whole part.
* `Value.exists_timeOfDay`: The time of day of temporal values.
-/

namespace Criteria

namespace Binary64

variable {num den k m : Nat} {e : Int}

/-- A rounded quotient is at most half a place too great. -/
theorem two_mul_roundQuotient_le (num : Nat) (hden : 0 < den) :
    2 * (Decimal.roundQuotient num den * den) ≤ 2 * num + den := by
  have hdiv := Nat.div_add_mod' num den
  have hmod := Nat.mod_lt num hden
  rw [Decimal.roundQuotient]
  split
  · omega
  split
  · rw [Nat.add_one_mul (num / den)]
    omega
  split
  · omega
  · rw [Nat.add_one_mul (num / den)]
    omega

/-- Rounding at a place that is fine enough leaves the whole part as it is. -/
theorem roundQuotient_div (hden : 0 < den) (hk : den < 2 ^ (k + 1)) :
    Decimal.roundQuotient (num * 2 ^ k) den / 2 ^ k = num / den := by
  have hpos : 0 < 2 ^ k := Nat.two_pow_pos k
  have hdiv := Nat.div_add_mod' num den
  have hmod := Nat.mod_lt num hden
  -- The quotient lies between `num / den` and the next whole number, both scaled: rounding half to
  -- even goes up only past the middle, and the middle is too far while the divisor is below two
  -- scaling steps.
  refine Nat.div_eq_of_lt_le ?_ ?_
  · refine Nat.le_trans ?_ (roundQuotient_bounds (num * 2 ^ k) den).1
    rw [Nat.le_div_iff_mul_le hden, Nat.mul_right_comm]
    exact Nat.mul_le_mul_right _ (Nat.div_mul_le_self num den)
  · refine Nat.lt_of_not_le fun hle => ?_
    have hround := two_mul_roundQuotient_le (num * 2 ^ k) hden
    have hlow : (num / den + 1) * 2 ^ k * den ≤ Decimal.roundQuotient (num * 2 ^ k) den * den :=
      Nat.mul_le_mul_right den hle
    have hnum : (num + 1) * 2 ^ k ≤ (num / den + 1) * den * 2 ^ k :=
      Nat.mul_le_mul_right _ (by rw [Nat.add_one_mul (num / den)]; omega)
    have hcomm : (num / den + 1) * 2 ^ k * den = (num / den + 1) * den * 2 ^ k :=
      Nat.mul_right_comm _ _ _
    rw [Nat.add_one_mul num] at hnum
    rw [Nat.pow_succ] at hk
    omega

/-- The whole part of a double below its places. -/
theorem truncate?_finite (negative : Bool) (m : Nat) (he : e < 0) :
    (finite negative m e).truncate? = some (withSign negative (m / 2 ^ (-e).toNat)) := by
  have hneg : ¬0 ≤ e := by omega
  rw [← withSign_tdiv, truncate?, toRatio?, if_neg hneg, if_neg hneg]
  rfl

/-- A quotient that is small enough for its denominator keeps its whole part when it is
    rounded. -/
theorem truncate?_ofRatio (negative : Bool) (hk : 1 < k) (hk' : k ≤ 53) (hden : 0 < den)
    (hfine : den < 2 ^ (k + 1)) (hsmall : num < 2 ^ (53 - k) * den) :
    (ofRatio negative num den).truncate? = some (withSign negative (num / den)) := by
  rcases Nat.eq_zero_or_pos num with rfl | hnum
  · rw [ofRatio, if_pos (.inl rfl), truncate?_finite negative 0 (by decide), Nat.zero_div,
      Nat.zero_div]
  rcases exists_fittingExponent hnum hden with ⟨f, hfit, hlow, -⟩
  -- A quotient below `2 ^ (53 - k)` has an exponent of `-k` or less, so
  -- the scale has room for the divisor.
  have hlast : f + 52 < 53 - k := by
    have hdenq : (0 : ℚ) < den := by exact_mod_cast hden
    have hquotient : (num : ℚ) / den < 2 ^ ((53 - k : Nat) : Int) := by
      rw [div_lt_iff₀ hdenq, zpow_natCast]
      exact_mod_cast hsmall
    have hlt := (zpow_lt_zpow_iff_right₀ one_lt_two).mp (hlow.trans_lt hquotient)
    omega
  obtain ⟨e, he⟩ : ∃ e, fittingExponent num den = e := ⟨_, rfl⟩
  have hmin : minExponent = -1074 := rfl
  have hmax : maxExponent = 971 := rfl
  have hneg : e ≤ -k := by omega
  obtain ⟨j, rfl⟩ : ∃ j : Nat, e = -((j + 1 : Nat) : Int) := ⟨(-e).toNat - 1, by omega⟩
  obtain ⟨m, hm⟩ : ∃ m, Decimal.roundQuotient (scaled num den (-((j + 1 : Nat) : Int))).1
      (scaled num den (-((j + 1 : Nat) : Int))).2 = m := ⟨_, rfl⟩
  rw [ofRatio_eq negative hnum hden he hm]
  -- The fraction is what the scale of the mantissa cuts off, whichever way the rounding went.
  have hround : m / 2 ^ (j + 1) = num / den := by
    have hscaled : scaled num den (-((j + 1 : Nat) : Int)) = (num * 2 ^ (j + 1), den) := by
      rw [scaled, if_neg (by omega), Int.neg_neg, Int.toNat_natCast]
      rfl
    rw [hscaled] at hm
    rw [← hm]
    exact roundQuotient_div hden
      (Nat.lt_of_lt_of_le hfine (Nat.pow_le_pow_right (by decide) (by omega)))
  by_cases hlong : m = 2 ^ 53
  · -- The mantissa gets a bit too long, and the exponent is the next one.
    rw [if_pos hlong, if_pos hlong, if_neg (by omega),
      truncate?_finite negative _ (by omega : -((j + 1 : Nat) : Int) + 1 < 0), ← hround, hlong]
    have hj : (-(-((j + 1 : Nat) : Int) + 1)).toNat = j := by omega
    rw [hj, Nat.pow_succ 2 j, Nat.pow_succ 2 52, Nat.mul_div_mul_right _ _ (by decide)]
  · rw [if_neg hlong, if_neg hlong, if_neg (by omega),
      truncate?_finite negative _ (by omega : -((j + 1 : Nat) : Int) < 0), Int.neg_neg,
      Int.toNat_natCast, hround]

end Binary64

namespace TimeOfDay

variable {s e t : TimeOfDay}

/-- How long ago the clock showed one time when it shows another. -/
def behind (s t : TimeOfDay) : Int :=
  ((t.micros : Int) - s.micros) % dayMicros

/-- The time is on the arc from one time to another, with its ends or without. -/
def IsOnArc (inclusive : Bool) (s e t : TimeOfDay) : Prop :=
  if inclusive then behind s t ≤ behind s e else 0 < behind s t ∧ behind s t < behind s e

instance (inclusive : Bool) (s e t : TimeOfDay) : Decidable (IsOnArc inclusive s e t) :=
  inferInstanceAs (Decidable (if inclusive then behind s t ≤ behind s e
    else 0 < behind s t ∧ behind s t < behind s e))

/-- On an arc that does not pass midnight both bounds are kept. -/
theorem isOnArc_of_le (inclusive : Bool) (h : s.micros ≤ e.micros) : IsOnArc inclusive s e t ↔
    if inclusive then s.micros ≤ t.micros ∧ t.micros ≤ e.micros
    else s.micros < t.micros ∧ t.micros < e.micros := by
  have he := e.lt_day
  have ht := t.lt_day
  rw [IsOnArc, behind, behind]
  unfold dayMicros at *
  split <;> omega

/-- On an arc that passes midnight one of the bounds is kept. -/
theorem isOnArc_of_lt (inclusive : Bool) (h : e.micros < s.micros) : IsOnArc inclusive s e t ↔
    if inclusive then s.micros ≤ t.micros ∨ t.micros ≤ e.micros
    else s.micros < t.micros ∨ t.micros < e.micros := by
  have hs := s.lt_day
  have ht := t.lt_day
  rw [IsOnArc, behind, behind]
  unfold dayMicros at *
  split <;> omega

/-- Without its ends, the arc back is all that the arc with its ends leaves over. -/
theorem isOnArc_swap (h : s ≠ e) : IsOnArc false e s t ↔ ¬IsOnArc true s e t := by
  have hs := s.lt_day
  have he := e.lt_day
  have ht := t.lt_day
  have hne : s.micros ≠ e.micros := fun heq => h (by cases s; cases e; congr)
  show (0 < behind e t ∧ behind e t < behind e s) ↔ ¬behind s t ≤ behind s e
  rw [behind, behind, behind, behind]
  unfold dayMicros at *
  omega

end TimeOfDay

namespace Duration

/-- The length of time is short enough for its seconds to be counted exactly. -/
def IsExact (d : Duration) : Prop :=
  d.micros.natAbs < 2 ^ 34 * secondMicros

instance (d : Duration) : Decidable d.IsExact :=
  inferInstanceAs (Decidable (d.micros.natAbs < 2 ^ 34 * secondMicros))

end Duration

namespace Value

/-- The time of day of a temporal value in microseconds: that on the clock, or the full
    seconds of a length of time around the clock. -/
def wallMicros? : Value → Option Int
  | moment m => some m.time.micros
  | clock c => some c.time.micros
  | duration d => some (d.micros.tdiv secondMicros % 86400 * secondMicros)
  | _ => none

/-- The value is not a length of time whose seconds are not counted exactly. -/
def IsExact : Value → Prop
  | duration d => d.IsExact
  | _ => True

/-- The clock that shows a length of time shows its full seconds. -/
theorem micros_durationClock {d : Duration} (h : d.IsExact) :
    ((durationClock d).micros : Int) = d.micros.tdiv secondMicros % 86400 * secondMicros := by
  have hwhole : (Binary64.ofRatio (d.micros < 0) d.micros.natAbs secondMicros).truncate? =
      some (d.micros.tdiv secondMicros) := by
    rw [Binary64.truncate?_ofRatio (k := 19) _ (by decide) (by decide) (by decide) (by decide) h,
      ← withSign_tdiv, withSign_natAbs]
  rw [durationClock, hwhole]
  show (((d.micros.tdiv secondMicros % 86400).toNat * secondMicros % dayMicros : Nat) : Int) = _
  unfold secondMicros dayMicros
  omega

/-- A value of a temporal type has a time of day. -/
theorem exists_timeOfDay {v : Value} (h : v.wallMicros?.isSome = true) :
    ∃ t : TimeOfDay, v.timeOfDay = .clock ⟨t, none⟩ ∧
      (v.IsExact → v.wallMicros? = some (t.micros : Int)) := by
  cases v with
  | moment m => exact ⟨m.time, rfl, fun _ => rfl⟩
  | clock c => exact ⟨c.time, rfl, fun _ => rfl⟩
  | duration d =>
      exact ⟨durationClock d, rfl, fun hd => congrArg some (micros_durationClock hd).symm⟩
  | _ => cases h

end Value

end Criteria
