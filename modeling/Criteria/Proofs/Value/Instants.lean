import Criteria.Proofs.Schema.Trichotomy

/-!
# Dates and Moments Compared

How dates and moments stand to each other.

Two moments are brought to clocks that can be compared, and then they stand to each other
as their instants do. An offset that is missing counts as none, so bringing the clocks
together does not move the instants, and one formula covers all four cases. A date beside
a moment is the start of its day on that moment's clock, and a moment beside a date is its
day, so these two are not the same question.

Nothing else can be compared with a date or a moment.

## Main definitions

* `Moment.Comparable`: The clocks of two moments can be brought together.

## Theorems

* `Value.ordered_of_moments`, `Value.ordered_of_moment_date`,
  `Value.ordered_of_date_moment`: The order of what is aligned.
* `Value.eq_of_relate_align`: What can be compared with a date or a moment.
-/

namespace Criteria

namespace Moment

variable {a b : Moment}

/-- The clocks of two moments can be brought together. -/
def Comparable (a b : Moment) : Prop :=
  (Value.alignMoments a b).1.meets (Value.alignMoments a b).2 = true

/-- Moments with an offset each, or without one, stand to each other as their instants. -/
theorem compare?_eq_instant (h : a.offset.isSome = b.offset.isSome) :
    compare? a b = some (compare a.instant b.instant) := by
  cases ha : a.offset <;> cases hb : b.offset <;> rw [ha, hb] at h
  · simp only [compare?, ha, hb, instant, offsetMicros, Option.map_none, Option.getD_none,
      Int.sub_zero]
  · cases h
  · cases h
  · simp only [compare?, ha, hb]

/-- Bringing clocks together does not move the instants. -/
theorem instant_alignMoments (a b : Moment) :
    (Value.alignMoments a b).1.instant = a.instant ∧
      (Value.alignMoments a b).2.instant = b.instant := by
  have hutc {m : Moment} (hm : m.offset = none) :
      ({ m with offset := some .utc } : Moment).instant = m.instant := by
    simp only [instant, offsetMicros, hm]
    rfl
  cases ha : a.offset <;> cases hb : b.offset <;> simp only [Value.alignMoments, ha, hb, hutc,
    and_self]

/-- Only the offsets matter to whether moments can be compared. -/
theorem comparable_congr {c : Moment} (h : b.offset = c.offset) :
    a.Comparable b ↔ a.Comparable c := by
  rw [Comparable, Comparable]
  cases ha : a.offset <;> cases hb : b.offset <;> rw [hb] at h <;>
    simp only [Value.alignMoments, ha, hb, ← h, meets, isProper]

/-- A proper offset can be compared with none. -/
theorem comparable_of_offset_eq_none (ha : a.isProper = true) (hb : b.offset = none) :
    a.Comparable b := by
  have hproper : b.isProper = true := by
    rw [isProper, hb]
    rfl
  have hspec := Value.alignMoments_spec a b
  exact meets_of_isProper (hspec.2.1 ha) (hspec.2.2 hproper)

end Moment

namespace Value

variable {a b m : Moment} {d e : Date} {y : Value} {r : Relation}

/-- Moments stand to each other as their instants. -/
theorem ordered_of_moments (h : a.Comparable b) :
    Ordered (align (.moment a) (.moment b)).1 (align (.moment a) (.moment b)).2
      (compare a.instant b.instant) := by
  have hinstants := Moment.instant_alignMoments a b
  have hcompare := Moment.compare?_eq_instant (alignMoments_spec a b).1
  rw [hinstants.1, hinstants.2] at hcompare
  exact ordered_of_moment h hcompare

/-- Moments that are found to stand to each other can be compared. -/
theorem comparable_of_relate
    (h : relate (align (.moment a) (.moment b)).1 (align (.moment a) (.moment b)).2 = .ok r) :
    a.Comparable b := by
  have hmoments : (if (alignMoments a b).1.meets (alignMoments a b).2 then
      relation? (Moment.compare? (alignMoments a b).1 (alignMoments a b).2)
    else .error .unreadable) = .ok r := h
  split at hmoments
  · assumption
  · cases hmoments

/-- A date beside a moment is the start of its day on the moment's clock. -/
theorem ordered_of_moment_date (m : Moment) (d : Date) :
    Ordered (align (.moment m) (.date d)).1 (align (.moment m) (.date d)).2
      (compare m.wall (d.ordinal * dayMicros)) := by
  have hcompare : Moment.compare? m (.ofDate d m.offset) =
      some (compare m.wall (d.ordinal * dayMicros)) := by
    have hoffsets : m.offset.isSome = (Moment.ofDate d m.offset).offset.isSome := rfl
    have hstart : (Moment.ofDate d m.offset).instant = d.ordinal * dayMicros - m.offsetMicros := by
      show (d.ordinal * dayMicros + (TimeOfDay.midnight.micros : Int)) - m.offsetMicros = _
      exact congrArg (· - m.offsetMicros) (Int.add_zero _)
    rw [Moment.compare?_eq_instant hoffsets, hstart, Moment.instant]
    refine congrArg some ?_
    simp only [compare, compareOfLessAndEq, Int.sub_lt_sub_right_iff, Int.sub_left_inj]
  refine ordered_of_moment ?_ hcompare
  rw [Moment.meets, Moment.ofDate, beq_self_eq_true, Bool.true_or]

/-- A moment beside a date is its day. -/
theorem ordered_of_date_moment (d : Date) (m : Moment) :
    Ordered (align (.date d) (.moment m)).1 (align (.date d) (.moment m)).2
      (compare d.ordinal m.date.ordinal) :=
  ordered_of_date d m.date

/-- A value that is neither a date nor a moment stays as it is. -/
theorem align_of_other (hd : ∀ d, y ≠ .date d) (hm : ∀ m, y ≠ .moment m) (x : Value) :
    align y x = (y, x) := by
  cases y with
  | date d => exact absurd rfl (hd d)
  | moment m => exact absurd rfl (hm m)
  | _ => rfl

/-- Nothing else can be compared with a date or a moment. -/
theorem relateScalars_of_other {x : Value} (hd : ∀ d, y ≠ .date d) (hm : ∀ m, y ≠ .moment m)
    (hx : (∃ d, x = .date d) ∨ ∃ m, x = .moment m) : relateScalars y x = .error .mismatch := by
  -- A date or a moment is neither a number nor a text, so only the rule for its own kind is left.
  have hplain : x.number? = none ∧ x.text? = none := by
    rcases hx with ⟨d, rfl⟩ | ⟨m, rfl⟩ <;> exact ⟨rfl, rfl⟩
  rw [relateScalars.eq_def]
  split
  · rename_i hnumber
    rw [hplain.1] at hnumber
    cases hnumber
  · rename_i htext _
    rw [hplain.2] at htext
    cases htext
  -- The other side may not be of the same kind.
  · rcases hx with ⟨e, rfl⟩ | ⟨m, rfl⟩ <;> cases y with
      | date d => exact absurd rfl (hd d)
      | moment m => exact absurd rfl (hm m)
      | _ => rfl

/-- Only dates and moments can be compared with a date or a moment. -/
theorem eq_of_relate_align {x : Value} (hx : (∃ d, x = .date d) ∨ ∃ m, x = .moment m)
    (h : relate (align y x).1 (align y x).2 = .ok r) :
    (∃ d, y = .date d) ∨ ∃ m, y = .moment m := by
  by_cases hd : ∃ d, y = .date d
  · exact .inl hd
  by_cases hm : ∃ m, y = .moment m
  · exact .inr hm
  have hd' : ∀ d, y ≠ .date d := fun d hy => hd ⟨d, hy⟩
  have hm' : ∀ m, y ≠ .moment m := fun m hy => hm ⟨m, hy⟩
  -- Collections have an order of their own only beside collections.
  have hrelate : relate y x = relateScalars y x := by
    rcases hx with ⟨e, rfl⟩ | ⟨m, rfl⟩ <;> cases y <;> rfl
  rw [align_of_other hd' hm', hrelate, relateScalars_of_other hd' hm' hx] at h
  cases h

end Value

end Criteria
