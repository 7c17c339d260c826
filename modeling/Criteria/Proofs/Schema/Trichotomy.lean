import Criteria.Proofs.Calendar.Ordinal
import Criteria.Proofs.Number.Whole
import Criteria.Proofs.Schema.Scales
import Mathlib.Data.Int.Order.Basic
import Mathlib.Data.Nat.Basic
import Mathlib.Order.Compare

/-!
# Equality and Order

Two values of one type are equal, or one of them is less than the other.

Whether values are equal and how they stand to each other are asked in two different
ways, and each kind of value has its own rules for both. That they agree means that
there is one ordering from which both answers can be told (`Value.Ordered`). For most
kinds the rules are close to each other. Dates are equal part by part and ordered by
their numbers, so it matters that a day is told by its number.

Members of enumerations are the hard case. Equality takes the members, order what they
are replaced by: the whole number that a member stands for, or its place among the
members. For the two to agree, different members must not have one rank, and that takes
that the members of an enumeration all stand for whole numbers or none does, and that
no two of them stand for equal values.

Undefined numbers are not even equal to themselves.

## Main definitions

* `Value.isDefined`: The value is no undefined number.
* `Value.Ordered`: Equality and order of two values are told by one ordering.
* `EnumType.IsDistinct`, `EnumType.IsUniform`: What is asked of an enumeration.
* `EnumMember.rank`: The number that a member is ordered by.

## Theorems

* `Scale.exists_ordered`: Values on a scale.
* `EnumType.IsDistinct.rank_injective`: A member is told by its rank.
* `EnumType.IsDistinct.exists_ordered`: Members of one enumeration.
-/

namespace Criteria

namespace Value

/-- The value is no undefined number. -/
def isDefined (v : Value) : Bool :=
  v.number?.all fun d => !d.isUndefined

/-- One ordering tells whether two values are equal and how they stand to each other. -/
structure Ordered (a b : Value) (o : Ordering) : Prop where
  equal : equal? a b = .ok (o == .eq)
  relate : relate a b = .ok (.ofOrdering o)

/-- Equality of two values that nothing keeps apart. -/
theorem equal?_of_meets {a b : Value} (ha : a.signals = false) (hb : b.signals = false)
    (h : a.meets b = true) : equal? a b = .ok (equal a b) := by
  rw [equal?, ha, hb, Bool.false_and, Bool.false_and, Bool.false_or, if_neg Bool.false_ne_true,
    if_pos h]

/-- Values that can be asked whether they are equal are told so. -/
theorem equal_of_equal? {a b : Value} {r : Bool} (h : equal? a b = .ok r) : equal a b = r := by
  rw [equal?] at h
  split at h
  · cases h
  · split at h
    · exact Except.ok.inj h
    · cases h

section Kinds

variable {a b : Value} {o : Ordering}

/-- A number that has an order does not signal. -/
theorem signals_eq_false_of_number {d : Decimal} (hd : a.number? = some d)
    (h : d.isUndefined = false) : a.signals = false := by
  cases a with
  | decimal e =>
      rw [← Option.some.inj hd] at h
      cases e with
      | undefined => cases h
      | _ => rfl
  | _ => rfl

/-- Numbers are equal and ordered by value. -/
theorem ordered_of_number {x y : Decimal} (hx : a.number? = some x) (hy : b.number? = some y)
    (h : Decimal.compare? x y = some o) : Ordered a b o := by
  -- Numbers that compare are no NaNs, so neither side signals.
  have hdefined := Decimal.compare?_isSome_iff.mp (Option.isSome_iff_exists.mpr ⟨o, h⟩)
  have hsa := signals_eq_false_of_number hx hdefined.1
  have hsb := signals_eq_false_of_number hy hdefined.2
  -- Equality and order look at the same comparison.
  have hscalar : equalScalar a b = (o == .eq) := by
    rw [equalScalar.eq_def, hx, hy]
    dsimp only
    rw [h]
    rfl
  have hrelate : relateScalars a b = .ok (.ofOrdering o) := by
    rw [relateScalars.eq_def, hx, hy]
    dsimp only
    rw [relateNumbers, h]
  -- Only these five kinds of values are numbers.
  cases a with
  | bool | int | float | decimal | member =>
      exact ⟨(equal?_of_meets hsa hsb rfl).trans (congrArg _ hscalar), hrelate⟩
  | _ => cases hx

/-- Nothing is done to align a number with anything else. -/
theorem align_of_number {d : Decimal} (ha : a.number? = some d) (b : Value) :
    align a b = (a, b) := by
  cases a with
  | bool | int | float | decimal | member => rfl
  | _ => cases ha

/-- Numbers that are defined have an order. -/
theorem exists_ordered_of_number {x y : Decimal} (hx : a.number? = some x)
    (hy : b.number? = some y) (hda : a.isDefined = true) (hdb : b.isDefined = true) :
    ∃ o, Ordered (align a b).1 (align a b).2 o := by
  rw [isDefined, hx, Option.all_some, Bool.not_eq_true'] at hda
  rw [isDefined, hy, Option.all_some, Bool.not_eq_true'] at hdb
  rcases Option.isSome_iff_exists.mp (Decimal.compare?_isSome_iff.mpr ⟨hda, hdb⟩) with ⟨o, ho⟩
  rw [align_of_number hx]
  exact ⟨o, ordered_of_number hx hy ho⟩

theorem compareTexts_eq_iff (s t : String) : (s == t) = (compareTexts s t == .eq) := by
  rw [compareTexts]
  split
  · rename_i hlt
    have hne : s ≠ t := fun h => String.lt_irrefl t (h ▸ hlt)
    rw [beq_eq_false_iff_ne.mpr hne]
    rfl
  · split
    · rename_i heq
      rw [beq_iff_eq.mpr heq]
      rfl
    · rename_i hne
      rw [beq_eq_false_iff_ne.mpr hne]
      rfl

/-- Texts are equal and ordered character by character. -/
theorem ordered_of_text {s t : String} (hna : a.number? = none) (hnb : b.number? = none)
    (hs : a.text? = some s) (ht : b.text? = some t) : Ordered a b (compareTexts s t) := by
  -- A value that signals is a decimal, and these are no texts.
  have hsignals {v : Value} (h : v.number? = none) : v.signals = false := by
    cases v with
    | decimal => cases h
    | _ => rfl
  have hscalar : equalScalar a b = (compareTexts s t == .eq) := by
    rw [equalScalar.eq_def, hna, hs, ht]
    exact compareTexts_eq_iff s t
  have hrelate : relateScalars a b = .ok (.ofOrdering (compareTexts s t)) := by
    rw [relateScalars.eq_def, hna, hs, ht]
  cases a with
  | text | member =>
      exact ⟨(equal?_of_meets (hsignals hna) (hsignals hnb) rfl).trans (congrArg _ hscalar),
        hrelate⟩
  | _ => cases hs

theorem ordered_of_moment {x y : Moment} (hmeets : x.meets y = true)
    (h : Moment.compare? x y = some o) : Ordered (.moment x) (.moment y) o := by
  have hequal : equal? (.moment x) (.moment y) = .ok (equal (.moment x) (.moment y)) :=
    equal?_of_meets rfl rfl hmeets
  refine ⟨hequal.trans ?_, ?_⟩
  · show Except.ok (Moment.compare? x y == some .eq) = _
    rw [h]
    rfl
  · show (if x.meets y then relation? (Moment.compare? x y) else .error .unreadable) = _
    rw [if_pos hmeets, h]
    rfl

/-- Things that are told by a number are equal where their numbers do not differ. -/
theorem beq_eq_compare {α β : Type} [BEq α] [LawfulBEq α] [LinearOrder β] {f : α → β}
    (hf : Function.Injective f) (x y : α) : (x == y) = (compare (f x) (f y) == .eq) := by
  rw [Bool.eq_iff_iff, beq_iff_eq, beq_iff_eq, compare_eq_iff_eq]
  exact hf.eq_iff.symm

theorem ordered_of_date (x y : Date) :
    Ordered (.date x) (.date y) (compare x.ordinal y.ordinal) :=
  ⟨(equal?_of_meets rfl rfl rfl).trans
    (congrArg _ (beq_eq_compare (fun _ _ => Date.ordinal_injective) x y)), rfl⟩

theorem ordered_of_duration (x y : Duration) :
    Ordered (.duration x) (.duration y) (compare x.micros y.micros) := by
  have hinjective : Function.Injective Duration.micros := by
    rintro ⟨m⟩ ⟨n⟩ rfl
    rfl
  exact ⟨(equal?_of_meets rfl rfl rfl).trans (congrArg _ (beq_eq_compare hinjective x y)), rfl⟩

theorem ordered_of_uuid (x y : Uuid) : Ordered (.uuid x) (.uuid y) (compare x.value y.value) := by
  have hinjective : Function.Injective Uuid.value := by
    rintro ⟨m, hm⟩ ⟨n, hn⟩ rfl
    rfl
  exact ⟨(equal?_of_meets rfl rfl rfl).trans (congrArg _ (beq_eq_compare hinjective x y)), rfl⟩

end Kinds

end Value

/-- Two values on a scale are equal, or one is less than the other, once they are
    aligned. -/
theorem Scale.exists_ordered {scale : Scale} {a b : Value} (ha : scale.Has a) (hb : scale.Has b)
    (hda : a.isDefined = true) (hdb : b.isDefined = true) (hpa : a.isProper = true)
    (hpb : b.isProper = true) :
    ∃ o, Value.Ordered (Value.align a b).1 (Value.align a b).2 o := by
  -- One case for each scale; on a calendar, dates and moments may meet.
  cases scale with
  | number =>
      rcases ha with ⟨-, x, hx⟩
      rcases hb with ⟨-, y, hy⟩
      exact Value.exists_ordered_of_number hx hy hda hdb
  | text =>
      rcases ha with ⟨hna, s, hs⟩
      rcases hb with ⟨hnb, t, ht⟩
      have hordered := Value.ordered_of_text hna hnb hs ht
      cases a with
      | text | member => exact ⟨_, hordered⟩
      | _ => cases hs
  | calendar =>
      rcases ha with ⟨d, rfl⟩ | ⟨m, rfl⟩ <;> rcases hb with ⟨e, rfl⟩ | ⟨n, rfl⟩
      · exact ⟨_, Value.ordered_of_date d e⟩
      · exact ⟨_, Value.ordered_of_date d n.date⟩
      · -- The date becomes a moment on the same clock.
        rcases Moment.exists_compare? (a := m) (b := .ofDate e m.offset) rfl with ⟨o, ho⟩
        refine ⟨o, Value.ordered_of_moment ?_ ho⟩
        -- Two moments are first put on a common clock.
        rw [Moment.meets, Moment.ofDate, beq_self_eq_true, Bool.true_or]
      · have hspec := Value.alignMoments_spec m n
        rcases Moment.exists_compare? hspec.1 with ⟨o, ho⟩
        exact ⟨o, Value.ordered_of_moment
          (Moment.meets_of_isProper (hspec.2.1 hpa) (hspec.2.2 hpb)) ho⟩
  | duration =>
      rcases ha with ⟨d, rfl⟩
      rcases hb with ⟨e, rfl⟩
      exact ⟨_, Value.ordered_of_duration d e⟩
  | identifier =>
      rcases ha with ⟨u, rfl⟩
      rcases hb with ⟨w, rfl⟩
      exact ⟨_, Value.ordered_of_uuid u w⟩

/-- The number that a member is ordered by: the whole number it stands for, or else its
    place among the members. -/
def EnumMember.rank (m : EnumMember) : Int :=
  m.value.int?.getD m.ordinal

theorem EnumMember.number?_ordinal (m : EnumMember) :
    (Value.ordinal (.member m)).number? = some (.ofInt m.rank) := by
  rcases m with ⟨type, kind, name, ordinal, value⟩
  cases value <;> rfl

/-- A member of an enumeration of whole numbers is one, too. -/
theorem EnumMember.number?_of_integral {m : EnumMember} (hkind : m.kind = .integral)
    (hvalue : m.value.int?.isSome = true) : (Value.member m).number? = some (.ofInt m.rank) := by
  rcases m with ⟨type, kind, name, ordinal, value⟩
  dsimp only at hkind
  subst hkind
  cases value with
  | int | bool => rfl
  | text | float => cases hvalue

theorem EnumKind.eq_text_of_admits {k : EnumKind} {x : EnumValue}
    (hk : k = .textual ∨ k = .wire) (h : k.admits x = true) : ∃ w, x = .text w := by
  cases x with
  | text w => exact ⟨w, rfl⟩
  | _ => rcases hk with rfl | rfl <;> cases h

/-- A member of an enumeration of texts is one, too. -/
theorem EnumMember.text?_of_textual {m : EnumMember} {w : String}
    (hkind : m.kind = .textual ∨ m.kind = .wire) (hvalue : m.value = .text w) :
    (Value.member m).number? = none ∧ (Value.member m).text? = some w := by
  rcases m with ⟨type, kind, name, ordinal, value⟩
  dsimp only at hkind hvalue
  subst hvalue
  rcases hkind with rfl | rfl <;> exact ⟨rfl, rfl⟩

/-- Members are ordered by rank. -/
theorem Value.ordered_ordinal (m n : EnumMember) :
    Value.Ordered (ordinal (.member m)) (ordinal (.member n)) (compare m.rank n.rank) :=
  Value.ordered_of_number m.number?_ordinal n.number?_ordinal (Decimal.compare?_ofInt _ _)

namespace EnumType

/-- The members have names of their own and stand for different values. Of names for
    equal values all but one are further names of one member. -/
structure IsDistinct (e : EnumType) : Prop where
  names : (e.entries.map Prod.fst).Nodup
  values : ∀ a ∈ e.entries, ∀ b ∈ e.entries,
    Value.equal a.2.toValue b.2.toValue = true → a = b

/-- The members all stand for whole numbers, or none does. -/
def IsUniform (e : EnumType) : Prop :=
  (∀ entry ∈ e.entries, entry.2.int?.isSome = true) ∨ ∀ entry ∈ e.entries, entry.2.int? = none

variable {e : EnumType} {m n : EnumMember}

theorem getElem?_ordinal (h : m ∈ e.members) :
    e.entries[m.ordinal]? = some (m.name, m.value) := by
  rcases List.mem_map.mp h with ⟨x, hx, rfl⟩
  exact List.mem_zipIdx_iff_getElem?.mp hx

/-- A member is told by its place. -/
theorem eq_of_ordinal (hm : m ∈ e.members) (hn : n ∈ e.members) (h : m.ordinal = n.ordinal) :
    m = n := by
  have hentry := (getElem?_ordinal hm).symm.trans (h ▸ getElem?_ordinal hn)
  have htype := (type_of_mem_members hm).trans (type_of_mem_members hn).symm
  have hkind := (kind_of_mem_members hm).trans (kind_of_mem_members hn).symm
  rcases m with ⟨type, kind, name, ordinal, value⟩
  rcases n with ⟨type', kind', name', ordinal', value'⟩
  rw [Option.some.injEq, Prod.mk.injEq] at hentry
  dsimp only at h hentry htype hkind
  rw [h, hentry.1, hentry.2, htype, hkind]

/-- A member is told by its name. -/
theorem IsDistinct.eq_of_name (he : e.IsDistinct) (hm : m ∈ e.members) (hn : n ∈ e.members)
    (h : m.name = n.name) : m = n := by
  refine eq_of_ordinal hm hn ?_
  have hplace {k : EnumMember} (hk : k ∈ e.members) :
      (e.entries.map Prod.fst)[k.ordinal]? = some k.name := by
    rw [List.getElem?_map, getElem?_ordinal hk]
    rfl
  have hlt := (List.getElem?_eq_some_iff.mp (hplace hm)).1
  rw [← List.getElem?_inj hlt he.names, hplace hm, hplace hn, h]

/-- A member is told by what it stands for. -/
theorem IsDistinct.eq_of_value (he : e.IsDistinct) (hm : m ∈ e.members) (hn : n ∈ e.members)
    (h : Value.equal m.value.toValue n.value.toValue = true) : m = n := by
  have hentry := he.values _ (mem_entries_of_mem_members hm) _ (mem_entries_of_mem_members hn) h
  exact he.eq_of_name hm hn (Prod.mk.inj hentry).1

/-- Of two members that stand for whole numbers neither has the rank of the other. -/
theorem IsDistinct.eq_of_rank (he : e.IsDistinct) (hm : m ∈ e.members) (hn : n ∈ e.members)
    (hmi : m.value.int?.isSome = true) (hni : n.value.int?.isSome = true)
    (h : m.rank = n.rank) : m = n := by
  have hnumber {k : EnumMember} (hk : k.value.int?.isSome = true) :
      k.value.toValue.number? = some (.ofInt k.rank) := by
    rcases k with ⟨type, kind, name, ordinal, value⟩
    cases value with
    | int | bool => rfl
    | text | float => cases hk
  have hordered := Value.ordered_of_number (hnumber hmi) (hnumber hni) (Decimal.compare?_ofInt _ _)
  rw [Int.compare_eq_eq.mpr h] at hordered
  exact he.eq_of_value hm hn (Value.equal_of_equal? hordered.equal)

/-- A member is told by its rank. -/
theorem IsDistinct.rank_injective (he : e.IsDistinct) (hu : e.IsUniform) (hm : m ∈ e.members)
    (hn : n ∈ e.members) (h : m.rank = n.rank) : m = n := by
  have hmem := mem_entries_of_mem_members hm
  have hmem' := mem_entries_of_mem_members hn
  rcases hu with hall | hnone
  · exact he.eq_of_rank hm hn (hall _ hmem) (hall _ hmem') h
  · rw [EnumMember.rank, EnumMember.rank, hnone _ hmem, hnone _ hmem'] at h
    exact eq_of_ordinal hm hn (Int.ofNat.inj h)

/-- Members that stand for nothing in comparisons are equal by name. -/
theorem IsDistinct.equal?_plain (he : e.IsDistinct) (hm : m ∈ e.members) (hn : n ∈ e.members)
    (hkind : e.kind = .plain) :
    ∃ b, Value.equal? (.member m) (.member n) = .ok b ∧ (b = true ↔ m = n) := by
  have hmk := (kind_of_mem_members hm).trans hkind
  have hnk := (kind_of_mem_members hn).trans hkind
  refine ⟨m.type == n.type && m.name == n.name, ?_, ?_⟩
  · rcases m with ⟨type, kind, name, ordinal, value⟩
    rcases n with ⟨type', kind', name', ordinal', value'⟩
    dsimp only at hmk hnk
    subst hmk hnk
    rfl
  · rw [Bool.and_eq_true, beq_iff_eq, beq_iff_eq]
    exact ⟨fun h => he.eq_of_name hm hn h.2, fun h => by rw [h]; exact ⟨rfl, rfl⟩⟩

/-- Members that are whole numbers are equal by rank. -/
theorem IsDistinct.equal?_integral (he : e.IsDistinct) (hm : m ∈ e.members) (hn : n ∈ e.members)
    (hkind : e.kind = .integral) (hmi : m.value.int?.isSome = true)
    (hni : n.value.int?.isSome = true) :
    ∃ b, Value.equal? (.member m) (.member n) = .ok b ∧ (b = true ↔ m = n) := by
  have hmn := EnumMember.number?_of_integral ((kind_of_mem_members hm).trans hkind) hmi
  have hnn := EnumMember.number?_of_integral ((kind_of_mem_members hn).trans hkind) hni
  have hordered := Value.ordered_of_number hmn hnn (Decimal.compare?_ofInt _ _)
  refine ⟨_, hordered.equal, ?_⟩
  rw [beq_iff_eq, Int.compare_eq_eq]
  exact ⟨he.eq_of_rank hm hn hmi hni, fun h => by rw [h]⟩

/-- Members that are texts are equal as texts. -/
theorem IsDistinct.equal?_textual (he : e.IsDistinct) (hm : m ∈ e.members) (hn : n ∈ e.members)
    (hkind : e.kind = .textual ∨ e.kind = .wire) {w x : String} (hmv : m.value = .text w)
    (hnv : n.value = .text x) :
    ∃ b, Value.equal? (.member m) (.member n) = .ok b ∧ (b = true ↔ m = n) := by
  have hmt := EnumMember.text?_of_textual (kind_of_mem_members hm ▸ hkind) hmv
  have hnt := EnumMember.text?_of_textual (kind_of_mem_members hn ▸ hkind) hnv
  have hordered := Value.ordered_of_text hmt.1 hnt.1 hmt.2 hnt.2
  refine ⟨_, hordered.equal, ?_⟩
  rw [← Value.compareTexts_eq_iff]
  refine ⟨fun h => he.eq_of_value hm hn ?_, fun h => ?_⟩
  · rw [hmv, hnv]
    exact h
  · rw [h, hnv] at hmv
    rw [EnumValue.text.inj hmv]
    exact beq_self_eq_true w

/-- Members of one enumeration are equal only where they are one member. -/
theorem IsDistinct.equal?_eq (he : e.IsDistinct)
    (hadmits : ∀ entry ∈ e.entries, e.kind.admits entry.2 = true) (hm : m ∈ e.members)
    (hn : n ∈ e.members) : Value.equal? (.member m) (.member n) = .ok (m == n) := by
  have hmvalue := hadmits _ (mem_entries_of_mem_members hm)
  have hnvalue := hadmits _ (mem_entries_of_mem_members hn)
  -- The values of the members decide, and what they are depends on the kind of the enumeration.
  have hequal : ∃ b, Value.equal? (.member m) (.member n) = .ok b ∧ (b = true ↔ m = n) := by
    have htextual (hkind : e.kind = .textual ∨ e.kind = .wire) :
        ∃ b, Value.equal? (.member m) (.member n) = .ok b ∧ (b = true ↔ m = n) := by
      rcases EnumKind.eq_text_of_admits hkind hmvalue with ⟨w, hw⟩
      rcases EnumKind.eq_text_of_admits hkind hnvalue with ⟨x, hx⟩
      exact he.equal?_textual hm hn hkind hw hx
    cases hkind : e.kind with
    | plain => exact he.equal?_plain hm hn hkind
    | integral =>
        rw [hkind] at hmvalue hnvalue
        exact he.equal?_integral hm hn hkind hmvalue hnvalue
    | textual => exact htextual (.inl hkind)
    | wire => exact htextual (.inr hkind)
  -- The comparison tells whether the members are the same.
  rcases hequal with ⟨b, hb, hsame⟩
  rw [hb, Bool.eq_iff_iff.mpr (hsame.trans beq_iff_eq.symm)]

/-- Equality and order of the members of an enumeration agree, though order takes ranks
    in their place. -/
theorem IsDistinct.exists_ordered (he : e.IsDistinct) (hu : e.IsUniform)
    (hadmits : ∀ entry ∈ e.entries, e.kind.admits entry.2 = true) (hm : m ∈ e.members)
    (hn : n ∈ e.members) :
    ∃ o : Ordering, Value.equal? (.member m) (.member n) = .ok (o == .eq) ∧
      Value.relate (Value.ordinal (.member m)) (Value.ordinal (.member n)) =
        .ok (.ofOrdering o) := by
  refine ⟨compare m.rank n.rank, ?_, (Value.ordered_ordinal m n).relate⟩
  have hsame : (m == n) = (compare m.rank n.rank == .eq) := by
    rw [Bool.eq_iff_iff, beq_iff_eq, beq_iff_eq, Int.compare_eq_eq]
    exact ⟨fun h => by rw [h], he.rank_injective hu hm hn⟩
  rw [he.equal?_eq hadmits hm hn, hsame]

end EnumType

end Criteria
