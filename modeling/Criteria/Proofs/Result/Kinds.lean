import Criteria.Proofs.Result.Ordering
import Criteria.Proofs.Schema.Trichotomy

/-!
# Kinds of Sort Keys

Which values can be sorted with each other, and how they then stand.

Unlike a comparison, a sort takes values as they are: it brings nothing to one kind,
except that it replaces members of enumerations by their ranks. So numbers can be sorted
with each other, and so can texts, but a date has no place among moments, nor a moment
with an offset among moments without one, nor a member among texts, even where it stands
for a text. The values of most types are of one kind (`Value.sortKind?`), but dates,
moments and texts are not.

Values of different kinds cannot be sorted (`relateKeys_isOk_iff`). Values of one kind
are sorted by a number, or by the text where they are texts, and this is an order
(`totallyOrdered_of_sortKind`). Comparisons go by the same order, since aligning changes
nothing about two values of one kind (`SortKind.align_eq`).

## Main definitions

* `SortKind`, `Value.sortKind?`: Kinds of values that can be sorted with each other.
* `SortKind.Has`: What the values of a kind look like.
* `SortKind.IsKey`: Values that are sorted as they are.
* `Value.sortOrder`: The order of the values of one kind.

## Theorems

* `SortKind.ordered`: Values of one kind stand in their order.
* `SortKind.IsKey.eq_of_equal`, `SortKind.IsKey.eq_of_relate`: What is equal or in a
  relation is of one kind.
* `relateKeys_isOk_iff`: What can be sorted with each other.
* `totallyOrdered_of_sortKind`: Values of one kind can be sorted.
* `pairwise_of_checkComparable`: Values that pass the check for it can be compared.
-/

namespace Criteria

/-- Kinds of values that can be sorted with each other. -/
inductive SortKind where
  | number | text | date | wall | instant | duration | identifier
  deriving DecidableEq

namespace Value

/-- The kind of a value. -/
def sortKind? : Value → Option SortKind
  | bool _ | int _ | member _ => some .number
  | text _ => some .text
  | date _ => some .date
  | moment m => some (if m.offset.isSome then .instant else .wall)
  | duration _ => some .duration
  | uuid _ => some .identifier
  | _ => none

/-- The number that a value is sorted by; texts have none. -/
def sortNumber : Value → Int
  | bool b => b.toInt
  | int n => n
  | member m => m.rank
  | date d => d.ordinal
  | moment m => m.instant
  | duration d => d.micros
  | uuid u => u.value
  | _ => 0

/-- The text that a text is sorted by. -/
def sortText : Value → String
  | text s => s
  | _ => ""

/-- How two values of one kind stand to each other. -/
def sortOrder : Value → Value → Ordering :=
  compareLex (compareOn sortNumber) (compareOn sortText)

instance : Std.TransCmp sortOrder :=
  inferInstanceAs (Std.TransCmp (compareLex (compareOn sortNumber) (compareOn sortText)))

variable {a b : Value} {k l : SortKind}

theorem sortOrder_eq (a b : Value) :
    sortOrder a b = (compare a.sortNumber b.sortNumber).then (compare a.sortText b.sortText) :=
  rfl

/-- All but texts are sorted by number. -/
theorem sortOrder_of_sortText (h : a.sortText = b.sortText) :
    sortOrder a b = compare a.sortNumber b.sortNumber := by
  have hsame : compare b.sortText b.sortText = .eq := Std.ReflCmp.compare_self
  rw [sortOrder_eq, h, hsame, Ordering.then_eq]

/-- A rank is the number of its member. -/
theorem sortOrder_ordinal (a b : Value) : sortOrder a.ordinal b.ordinal = sortOrder a b := by
  have hnumber (v : Value) : v.ordinal.sortNumber = v.sortNumber := by
    cases v with
    | member m =>
        rcases m with ⟨type, kind, name, ordinal, value⟩
        cases value <;> rfl
    | _ => rfl
  have htext (v : Value) : v.ordinal.sortText = v.sortText := by
    cases v with
    | member m =>
        rcases m with ⟨type, kind, name, ordinal, value⟩
        cases value <;> rfl
    | _ => rfl
  rw [sortOrder_eq, sortOrder_eq, hnumber, hnumber, htext, htext]

theorem compare_cast (m n : Nat) : compare (m : Int) (n : Int) = compare m n := by
  rcases Nat.lt_trichotomy m n with h | rfl | h
  · rw [Nat.compare_eq_lt.mpr h, Int.compare_eq_lt.mpr (Int.ofNat_lt.mpr h)]
  · rw [Nat.compare_eq_eq.mpr rfl, Int.compare_eq_eq.mpr rfl]
  · rw [Nat.compare_eq_gt.mpr h, Int.compare_eq_gt.mpr (Int.ofNat_lt.mpr h)]

end Value

namespace SortKind

/-- What the values of a kind look like. -/
def Has : SortKind → Value → Prop
  | number, v => (∃ b, v = .bool b) ∨ (∃ n, v = .int n) ∨ ∃ m, v = .member m
  | text, v => ∃ s, v = .text s
  | date, v => ∃ d, v = .date d
  | wall, v => ∃ m : Moment, v = .moment m ∧ m.offset = none
  | instant, v => ∃ (m : Moment) (o : Offset), v = .moment m ∧ m.offset = some o
  | duration, v => ∃ d, v = .duration d
  | identifier, v => ∃ u, v = .uuid u

variable {a b : Value} {k : SortKind}

theorem has_of_sortKind (h : a.sortKind? = some k) : k.Has a := by
  -- Only a moment has two kinds, by whether it has an offset.
  cases a with
  | bool b => exact Option.some.inj h ▸ .inl ⟨b, rfl⟩
  | int n => exact Option.some.inj h ▸ .inr (.inl ⟨n, rfl⟩)
  | member m => exact Option.some.inj h ▸ .inr (.inr ⟨m, rfl⟩)
  | text s => exact Option.some.inj h ▸ ⟨s, rfl⟩
  | date d => exact Option.some.inj h ▸ ⟨d, rfl⟩
  | duration d => exact Option.some.inj h ▸ ⟨d, rfl⟩
  | uuid u => exact Option.some.inj h ▸ ⟨u, rfl⟩
  | moment m =>
      cases ho : m.offset with
      | none =>
          rw [Value.sortKind?, ho] at h
          exact Option.some.inj h ▸ ⟨m, rfl, ho⟩
      | some o =>
          rw [Value.sortKind?, ho] at h
          exact Option.some.inj h ▸ ⟨m, o, rfl, ho⟩
  | _ => cases h

/-- What is sorted in place of a number or a member. -/
theorem number?_ordinal (h : number.Has a) :
    a.ordinal.number? = some (.ofInt a.sortNumber) ∧ a.sortText = "" := by
  rcases h with ⟨b, rfl⟩ | ⟨n, rfl⟩ | ⟨m, rfl⟩
  · exact ⟨rfl, rfl⟩
  · exact ⟨rfl, rfl⟩
  · exact ⟨m.number?_ordinal, rfl⟩

/-- Aligning changes nothing about two values of one kind. -/
theorem align_eq (ha : k.Has a) (hb : k.Has b) : Value.align a b = (a, b) := by
  cases k with
  | number => rcases ha with ⟨_, rfl⟩ | ⟨_, rfl⟩ | ⟨_, rfl⟩ <;> rfl
  | wall =>
      rcases ha with ⟨x, rfl, hx⟩
      rcases hb with ⟨y, rfl, hy⟩
      rw [Value.align, Value.alignMoments, hx, hy]
  | instant =>
      rcases ha with ⟨x, o, rfl, hx⟩
      rcases hb with ⟨y, o', rfl, hy⟩
      rw [Value.align, Value.alignMoments, hx, hy]
  | text | date | duration | identifier =>
      rcases ha with ⟨x, rfl⟩
      rcases hb with ⟨y, rfl⟩
      rfl

/-- Two numbers stand in the order of the numbers that they are sorted by. -/
theorem ordered_of_number {x y : Value} (ha : number.Has a) (hb : number.Has b)
    (hx : x.number? = some (.ofInt a.sortNumber)) (hy : y.number? = some (.ofInt b.sortNumber)) :
    Value.Ordered x y (Value.sortOrder a b) := by
  rw [Value.sortOrder_of_sortText ((number?_ordinal ha).2.trans (number?_ordinal hb).2.symm)]
  exact Value.ordered_of_number hx hy (Decimal.compare?_ofInt _ _)

/-- Values of one kind stand in their order, once members are replaced by their ranks. -/
theorem ordered (ha : k.Has a) (hb : k.Has b) (hpa : a.isProper = true)
    (hpb : b.isProper = true) : Value.Ordered a.ordinal b.ordinal (Value.sortOrder a b) := by
  -- Moments of one kind meet, so their instants decide.
  have hmoments {x y : Moment} (hpx : x.isProper = true) (hpy : y.isProper = true)
      (h : Moment.compare? x y = some (compare x.instant y.instant)) :
      Value.Ordered (.moment x) (.moment y) (Value.sortOrder (.moment x) (.moment y)) := by
    rw [Value.sortOrder_of_sortText (a := .moment x) (b := .moment y) rfl]
    exact Value.ordered_of_moment (Moment.meets_of_isProper hpx hpy) h
  -- One case for each kind of value, with what is sorted by in each of them.
  cases k with
  | number => exact ordered_of_number ha hb (number?_ordinal ha).1 (number?_ordinal hb).1
  | text =>
      rcases ha with ⟨x, rfl⟩
      rcases hb with ⟨y, rfl⟩
      exact Value.ordered_of_text rfl rfl rfl rfl
  | date =>
      rcases ha with ⟨x, rfl⟩
      rcases hb with ⟨y, rfl⟩
      rw [Value.sortOrder_of_sortText (a := .date x) (b := .date y) rfl]
      exact Value.compare_cast x.ordinal y.ordinal ▸ Value.ordered_of_date x y
  | wall =>
      rcases ha with ⟨x, rfl, hx⟩
      rcases hb with ⟨y, rfl, hy⟩
      refine hmoments hpa hpb ?_
      -- Without an offset the instant is what the clock shows.
      rw [Moment.compare?, Moment.instant, Moment.instant, Moment.offsetMicros,
        Moment.offsetMicros, hx, hy]
      dsimp only [Option.map_none, Option.getD_none]
      rw [Int.sub_zero, Int.sub_zero]
  | instant =>
      rcases ha with ⟨x, o, rfl, hx⟩
      rcases hb with ⟨y, o', rfl, hy⟩
      refine hmoments hpa hpb ?_
      rw [Moment.compare?, hx, hy]
  | duration =>
      rcases ha with ⟨x, rfl⟩
      rcases hb with ⟨y, rfl⟩
      rw [Value.sortOrder_of_sortText (a := .duration x) (b := .duration y) rfl]
      exact Value.ordered_of_duration x y
  | identifier =>
      rcases ha with ⟨x, rfl⟩
      rcases hb with ⟨y, rfl⟩
      rw [Value.sortOrder_of_sortText (a := .uuid x) (b := .uuid y) rfl]
      exact Value.compare_cast x.value y.value ▸ Value.ordered_of_uuid x y

end SortKind

section Keys

variable {a b x y : Value} {k l : SortKind} {o : Ordering}

/-- A value of a kind that is sorted as it is. -/
structure SortKind.IsKey (k : SortKind) (x : Value) : Prop where
  kind : x.sortKind? = some k
  ordinal : x.ordinal = x

namespace SortKind.IsKey

theorem of_sortKind (h : a.sortKind? = some k) : k.IsKey a.ordinal := by
  cases a with
  | member m =>
      rcases m with ⟨type, kind, name, ordinal, value⟩
      cases value <;> exact ⟨h, rfl⟩
  | _ => exact ⟨h, rfl⟩

theorem ne_member (h : k.IsKey x) (m : EnumMember) : x ≠ .member m := by
  rintro rfl
  rcases m with ⟨type, kind, name, ordinal, value⟩
  cases value <;> cases h.ordinal

theorem eq_number {d : Decimal} (h : k.IsKey x) (hd : x.number? = some d) : k = .number := by
  cases x with
  | bool | int => exact (Option.some.inj h.kind).symm
  | member m => exact absurd rfl (h.ne_member m)
  | float | decimal => cases h.kind
  | _ => cases hd

theorem eq_text {s : String} (h : k.IsKey x) (hs : x.text? = some s) : k = .text := by
  cases x with
  | text => exact (Option.some.inj h.kind).symm
  | member m => exact absurd rfl (h.ne_member m)
  | _ => cases hs

theorem eq_of_moments {m n : Moment} (hm : k.IsKey (.moment m)) (hn : l.IsKey (.moment n))
    (h : Moment.compare? m n = some o) : k = l := by
  have hk := hm.kind
  have hl := hn.kind
  rcases m with ⟨d, t, none | z⟩ <;> rcases n with ⟨d', t', none | z'⟩
  · exact (Option.some.inj hk).symm.trans (Option.some.inj hl)
  · cases h
  · cases h
  · exact (Option.some.inj hk).symm.trans (Option.some.inj hl)

/-- Equal keys are of one kind. -/
theorem eq_of_equal (hx : k.IsKey x) (hy : l.IsKey y) (h : Value.equal x y = true) : k = l := by
  -- Values with a kind are scalars, and for these equality is that of scalars.
  have hscalar : Value.equalScalar x y = true := by
    cases x with
    | list | tuple | set | dict | entity => cases hx.kind
    | _ => exact h
  -- Two numbers, two texts, or two values of one constructor, of which only the keys stay.
  rw [Value.equalScalar.eq_def] at hscalar
  split at hscalar
  · rename_i hd he
    rw [hx.eq_number hd, hy.eq_number he]
  · rename_i hs ht _
    rw [hx.eq_text hs, hy.eq_text ht]
  · split at hscalar
    · cases hx.kind
    · cases hx.kind
    · exact (Option.some.inj hx.kind).symm.trans (Option.some.inj hy.kind)
    · exact eq_of_moments hx hy (beq_iff_eq.mp hscalar)
    · cases hx.kind
    · exact (Option.some.inj hx.kind).symm.trans (Option.some.inj hy.kind)
    · exact (Option.some.inj hx.kind).symm.trans (Option.some.inj hy.kind)
    · exact absurd rfl (hx.ne_member _)
    · cases hscalar

/-- Keys that stand in a relation are of one kind. -/
theorem eq_of_relate {r : Relation} (hx : k.IsKey x) (hy : l.IsKey y)
    (h : Value.relate x y = .ok r) : k = l := by
  have hscalars : Value.relateScalars x y = .ok r := by
    cases x with
    | list | tuple | set | dict | entity => cases hx.kind
    | _ => exact h
  -- The cases are those of equality, except that moments can fail to meet.
  rw [Value.relateScalars.eq_def] at hscalars
  split at hscalars
  · rename_i hd he
    rw [hx.eq_number hd, hy.eq_number he]
  · rename_i hs ht _
    rw [hx.eq_text hs, hy.eq_text ht]
  · split at hscalars
    · cases hx.kind
    · exact (Option.some.inj hx.kind).symm.trans (Option.some.inj hy.kind)
    · rename_i m n _ _
      split at hscalars
      · cases ho : Moment.compare? m n with
        | none =>
            rw [ho] at hscalars
            cases hscalars
        | some o => exact eq_of_moments hx hy ho
      · cases hscalars
    · cases hx.kind
    · exact (Option.some.inj hx.kind).symm.trans (Option.some.inj hy.kind)
    · exact (Option.some.inj hx.kind).symm.trans (Option.some.inj hy.kind)
    · cases hscalars

end SortKind.IsKey

/-- Values that have an order are sorted by it. -/
theorem Value.Ordered.relateKeys (h : Ordered x y o) (hx : x.isNull = false)
    (hy : y.isNull = false) : relateKeys x y = .ok (.ofOrdering o) := by
  rw [Criteria.relateKeys, hx, hy]
  show (Value.equal? x y >>= fun e => if e then .ok .equal else Value.relate x y) = _
  rw [h.equal]
  cases o with
  | eq => rfl
  | lt | gt => exact h.relate

theorem isNull_ordinal (a : Value) : a.ordinal.isNull = a.isNull := by
  cases a with
  | member m =>
      rcases m with ⟨type, kind, name, ordinal, value⟩
      cases value <;> rfl
  | _ => rfl

theorem isNull_of_sortKind (h : a.sortKind? = some k) : a.isNull = false := by
  cases a with
  | null => cases h
  | _ => rfl

/-- Values of one kind are sorted by their order. -/
theorem relateKeys_eq_ok (ha : a.sortKind? = some k) (hb : b.sortKind? = some k)
    (hpa : a.isProper = true) (hpb : b.isProper = true) :
    relateKeys a.ordinal b.ordinal = .ok (.ofOrdering (Value.sortOrder a b)) := by
  have hordered := SortKind.ordered (SortKind.has_of_sortKind ha) (SortKind.has_of_sortKind hb)
    hpa hpb
  refine hordered.relateKeys ?_ ?_
  · rw [isNull_ordinal, isNull_of_sortKind ha]
  · rw [isNull_ordinal, isNull_of_sortKind hb]

/-- Values can be sorted with each other where they are of one kind. -/
theorem relateKeys_isOk_iff (ha : a.sortKind? = some k) (hb : b.sortKind? = some l)
    (hpa : a.isProper = true) (hpb : b.isProper = true) :
    (∃ r, relateKeys a.ordinal b.ordinal = .ok r) ↔ k = l := by
  refine ⟨fun ⟨r, hr⟩ => ?_, fun h => ?_⟩
  · have hx := SortKind.IsKey.of_sortKind ha
    have hy := SortKind.IsKey.of_sortKind hb
    rw [relateKeys, isNull_ordinal, isNull_ordinal, isNull_of_sortKind ha,
      isNull_of_sortKind hb] at hr
    rcases bind_eq_ok_iff.mp hr with ⟨equal, hequal, hr⟩
    cases equal with
    | true => exact hx.eq_of_equal hy (Value.equal_of_equal? hequal)
    | false => exact hx.eq_of_relate hy hr
  · exact ⟨_, relateKeys_eq_ok ha (h ▸ hb) hpa hpb⟩

end Keys

section Lists

variable {α : Type} {vs ws : List Value} {k : SortKind}

theorem Relation.flip_ofOrdering (o : Ordering) :
    (ofOrdering o).flip = ofOrdering o.swap := by
  cases o <;> rfl

/-- What stands as an order says is ordered. -/
theorem orders_of_cmp {rel : α → α → Relation} (cmp : α → α → Ordering) [Std.TransCmp cmp]
    {xs : List α} (h : ∀ a ∈ xs, ∀ b ∈ xs, rel a b = .ofOrdering (cmp a b)) : Orders rel xs := by
  have hle {a b : α} (ha : a ∈ xs) (hb : b ∈ xs) :
      rel a b ≠ .greater ↔ (cmp a b).isLE = true := by
    rw [h a ha b hb]
    cases cmp a b <;> decide
  refine ⟨fun a ha b hb => ?_, fun a ha b hb => ?_, fun a ha b hb c hc hab hbc => ?_⟩
  · rw [h a ha b hb]
    cases cmp a b <;> decide
  · rw [h a ha b hb, h b hb a ha, Relation.flip_ofOrdering, ← Std.OrientedCmp.eq_swap]
  · rw [hle ha hb] at hab
    rw [hle hb hc] at hbc
    rw [hle ha hc]
    exact Std.TransCmp.isLE_trans hab hbc

/-- Values of one kind can be sorted. -/
theorem totallyOrdered_of_sortKind
    (h : ∀ w ∈ ws, ∃ v : Value, w = v.ordinal ∧ v.sortKind? = some k ∧ v.isProper = true) :
    TotallyOrdered ws := by
  have hrelate : ∀ a ∈ ws, ∀ b ∈ ws, relateKeys a b = .ok (.ofOrdering (Value.sortOrder a b)) := by
    intro a ha b hb
    rcases h a ha with ⟨v, rfl, hv, hpv⟩
    rcases h b hb with ⟨w, rfl, hw, hpw⟩
    rw [relateKeys_eq_ok hv hw hpv hpw, Value.sortOrder_ordinal]
  refine ⟨fun a ha b hb => ?_, orders_of_cmp Value.sortOrder fun a ha b hb => ?_⟩
  · rw [hrelate a ha b hb]
    rfl
  · exact relation_of_relateKeys (hrelate a ha b hb)

/-- Values that pass the check for it can be compared with those that come later. -/
theorem pairwise_of_checkComparable (h : checkComparable vs = .ok ()) :
    vs.Pairwise fun a b => ∃ r, relateKeys a b = .ok r := by
  -- Each value is put to all that follow it.
  have hrow (a : Value) (bs : List Value)
      (hbs : (bs.forM fun b => discard (relateKeys a b)) = .ok ()) :
      ∀ b ∈ bs, ∃ r, relateKeys a b = .ok r := by
    induction bs with
    | nil => exact fun b hb => absurd hb List.not_mem_nil
    | cons b bs ih =>
        rcases bind_eq_ok_iff.mp hbs with ⟨⟨⟩, hb, hrest⟩
        rcases map_eq_ok_iff.mp hb with ⟨r, hr, -⟩
        exact List.forall_mem_cons.mpr ⟨⟨r, hr⟩, ih hrest⟩
  induction vs with
  | nil => exact .nil
  | cons a as ih =>
      rcases bind_eq_ok_iff.mp h with ⟨⟨⟩, ha, hrest⟩
      exact .cons (hrow a as ha) (ih hrest)

end Lists

end Criteria
