import Criteria.Value.Order
import Mathlib.Data.List.Basic

/-!
# Stable Sorting

What it means that a list is another one, stably sorted, and how sorting by one
relation after the other amounts to sorting by both at once.

The relation answers how two elements stand to each other. `Orders` asks that it
orders the elements of one list; nothing is said about elements that are not in
the list, since values of unlike types have no order at all.

A list is stably sorted when it is a permutation, no element stands before a
lesser one, and the elements equal to any given one are the same list as before.
The last condition is stated with `filter`, so it also speaks of lists in which
an element occurs several times. It leaves no choice: `IsStableSort.unique`.

`IsStableSort.thenBy` is the step of sorting by several keys. The second sort
puts elements in the order of its own relation and, being stable, leaves the
elements that this relation does not tell apart in the order of the first.

## Main definitions

* `Orders`: A relation orders the elements of a list.
* `IsStableSort`: A list is another one, stably sorted.
* `thenBy`: The first relation that tells two elements apart decides.

## Theorems

* `isStableSort_mergeSort`: Merge sort is a stable sort.
* `IsStableSort.unique`: A list has one stable sort.
* `Orders.thenBy`: Two orders one after the other are an order.
* `IsStableSort.thenBy`: Sorting by the lesser relation and then by the greater
  one sorts by both.
-/

namespace Criteria

variable {α β : Type}

/-- The relation orders the elements of the list. -/
structure Orders (rel : α → α → Relation) (xs : List α) : Prop where
  compares : ∀ a ∈ xs, ∀ b ∈ xs, rel a b ≠ .unordered
  flips : ∀ a ∈ xs, ∀ b ∈ xs, rel b a = (rel a b).flip
  trans : ∀ a ∈ xs, ∀ b ∈ xs, ∀ c ∈ xs,
    rel a b ≠ .greater → rel b c ≠ .greater → rel a c ≠ .greater

/-- The list `ys` is the list `xs`, stably sorted: no element stands before a
    lesser one, and elements equal to each other stand as they did. -/
structure IsStableSort (rel : α → α → Relation) (xs ys : List α) : Prop where
  perm : ys.Perm xs
  sorted : ys.Pairwise fun a b => rel a b = .less ∨ rel a b = .equal
  stable : ∀ a ∈ xs, (ys.filter fun b => rel a b == .equal) = xs.filter fun b => rel a b == .equal

/-- The first relation that tells two elements apart decides. -/
def thenBy (rel₁ rel₂ : α → α → Relation) (a b : α) : Relation :=
  match rel₁ a b with
  | .equal => rel₂ a b
  | r => r

theorem thenBy_of_equal {rel₁ rel₂ : α → α → Relation} {a b : α} (h : rel₁ a b = .equal) :
    thenBy rel₁ rel₂ a b = rel₂ a b := by
  rw [thenBy, h]

theorem thenBy_of_ne_equal {rel₁ rel₂ : α → α → Relation} {a b : α} (h : rel₁ a b ≠ .equal) :
    thenBy rel₁ rel₂ a b = rel₁ a b := by
  rw [thenBy]
  cases hr : rel₁ a b with
  | equal => exact absurd hr h
  | _ => rfl

theorem thenBy_eq_equal_iff {rel₁ rel₂ : α → α → Relation} {a b : α} :
    thenBy rel₁ rel₂ a b = .equal ↔ rel₁ a b = .equal ∧ rel₂ a b = .equal := by
  by_cases h : rel₁ a b = .equal
  · rw [thenBy_of_equal h]
    exact ⟨fun h2 => ⟨h, h2⟩, And.right⟩
  · rw [thenBy_of_ne_equal h]
    exact iff_of_false h fun hc => h hc.1

namespace Orders

variable {rel rel₁ rel₂ : α → α → Relation} {xs ys : List α} {a b c : α}

/-- Fewer elements are ordered too. -/
theorem mono (h : Orders rel xs) (hsub : ∀ a ∈ ys, a ∈ xs) : Orders rel ys :=
  ⟨fun a ha b hb => h.compares a (hsub a ha) b (hsub b hb),
    fun a ha b hb => h.flips a (hsub a ha) b (hsub b hb),
    fun a ha b hb c hc => h.trans a (hsub a ha) b (hsub b hb) c (hsub c hc)⟩

/-- Elements are ordered by what they are mapped to. -/
theorem comap {rel : β → β → Relation} {f : α → β} (h : Orders rel (xs.map f)) :
    Orders (fun a b => rel (f a) (f b)) xs := by
  have hmem {a : α} (ha : a ∈ xs) : f a ∈ xs.map f := List.mem_map_of_mem ha
  exact ⟨fun a ha b hb => h.compares _ (hmem ha) _ (hmem hb),
    fun a ha b hb => h.flips _ (hmem ha) _ (hmem hb),
    fun a ha b hb c hc => h.trans _ (hmem ha) _ (hmem hb) _ (hmem hc)⟩

theorem refl (h : Orders rel xs) (ha : a ∈ xs) : rel a a = .equal := by
  have hflip := h.flips a ha a ha
  have hcomp := h.compares a ha a ha
  cases hr : rel a a with
  | equal => rfl
  | unordered => exact absurd hr hcomp
  | _ =>
      rw [hr] at hflip
      exact absurd hflip (by decide)

theorem greater_of_less (h : Orders rel xs) (ha : a ∈ xs) (hb : b ∈ xs)
    (hab : rel a b = .less) : rel b a = .greater := by
  rw [h.flips a ha b hb, hab]
  rfl

theorem equal_symm (h : Orders rel xs) (ha : a ∈ xs) (hb : b ∈ xs) (hab : rel a b = .equal) :
    rel b a = .equal := by
  rw [h.flips a ha b hb, hab]
  rfl

/-- Of two elements one is not greater than the other. -/
theorem total (h : Orders rel xs) (ha : a ∈ xs) (hb : b ∈ xs) :
    rel a b ≠ .greater ∨ rel b a ≠ .greater := by
  by_cases hab : rel a b = .greater
  · refine Or.inr ?_
    rw [h.flips a ha b hb, hab]
    decide
  · exact Or.inl hab

/-- Elements that are not greater than each other are equal. -/
theorem equal_of_not_greater (h : Orders rel xs) (ha : a ∈ xs) (hb : b ∈ xs)
    (hab : rel a b ≠ .greater) (hba : rel b a ≠ .greater) : rel a b = .equal := by
  have hcomp := h.compares a ha b hb
  cases hr : rel a b with
  | less => exact absurd (h.greater_of_less ha hb hr) hba
  | equal => rfl
  | greater => exact absurd hr hab
  | unordered => exact absurd hr hcomp

/-- What is not greater is less or equal. -/
theorem less_or_equal (h : Orders rel xs) (ha : a ∈ xs) (hb : b ∈ xs)
    (hab : rel a b ≠ .greater) : rel a b = .less ∨ rel a b = .equal := by
  by_cases hba : rel b a = .greater
  · refine Or.inl ?_
    rw [h.flips b hb a ha, hba]
    rfl
  · exact Or.inr (h.equal_of_not_greater ha hb hab hba)

/-- Two steps up of which neither goes down and not both stay end higher. -/
theorem less_trans (h : Orders rel xs) (ha : a ∈ xs) (hb : b ∈ xs) (hc : c ∈ xs)
    (hab : rel a b ≠ .greater) (hbc : rel b c ≠ .greater)
    (hne : rel a b = .less ∨ rel b c = .less) : rel a c = .less := by
  rcases h.less_or_equal ha hc (h.trans a ha b hb c hc hab hbc) with hac | hac
  · exact hac
  · -- With `a` and `c` equal the two steps would lead back to where they began.
    have hca : rel c a ≠ .greater := by rw [h.equal_symm ha hc hac]; decide
    rcases hne with hlt | hlt
    · exact absurd (h.greater_of_less ha hb hlt) (h.trans b hb c hc a ha hbc hca)
    · exact absurd (h.greater_of_less hb hc hlt) (h.trans c hc a ha b hb hca hab)

theorem equal_trans (h : Orders rel xs) (ha : a ∈ xs) (hb : b ∈ xs) (hc : c ∈ xs)
    (hab : rel a b = .equal) (hbc : rel b c = .equal) : rel a c = .equal := by
  refine h.equal_of_not_greater ha hc ?_ ?_
  · exact h.trans a ha b hb c hc (by rw [hab]; decide) (by rw [hbc]; decide)
  · exact h.trans c hc b hb a ha (by rw [h.equal_symm hb hc hbc]; decide)
      (by rw [h.equal_symm ha hb hab]; decide)

/-- Two orders one after the other are an order. -/
theorem thenBy (h₁ : Orders rel₁ xs) (h₂ : Orders rel₂ xs) :
    Orders (Criteria.thenBy rel₁ rel₂) xs := by
  -- The first relation decides unless it says equal, and then the second one does.
  refine ⟨fun a ha b hb => ?_, fun a ha b hb => ?_, fun a ha b hb c hc hab hbc => ?_⟩
  · by_cases h : rel₁ a b = .equal
    · rw [thenBy_of_equal h]
      exact h₂.compares a ha b hb
    · rw [thenBy_of_ne_equal h]
      exact h₁.compares a ha b hb
  · by_cases h : rel₁ a b = .equal
    · rw [thenBy_of_equal h, thenBy_of_equal (h₁.equal_symm ha hb h)]
      exact h₂.flips a ha b hb
    · rw [thenBy_of_ne_equal h, thenBy_of_ne_equal fun hba => h (h₁.equal_symm hb ha hba)]
      exact h₁.flips a ha b hb
  -- If the composed relation does not put `x` above `y`, the first relation does not either.
  · have hnot {x y : α} (h : Criteria.thenBy rel₁ rel₂ x y ≠ .greater) : rel₁ x y ≠ .greater :=
      fun hg => h (by rw [thenBy_of_ne_equal (by rw [hg]; decide), hg])
    rcases h₁.less_or_equal ha hb (hnot hab) with h1ab | h1ab
    · have h1ac := h₁.less_trans ha hb hc (hnot hab) (hnot hbc) (Or.inl h1ab)
      rw [thenBy_of_ne_equal (by rw [h1ac]; decide), h1ac]
      decide
    rcases h₁.less_or_equal hb hc (hnot hbc) with h1bc | h1bc
    · have h1ac := h₁.less_trans ha hb hc (hnot hab) (hnot hbc) (Or.inr h1bc)
      rw [thenBy_of_ne_equal (by rw [h1ac]; decide), h1ac]
      decide
    -- Both steps are ties of the first relation, so the second one has to be transitive.
    · rw [thenBy_of_equal h1ab] at hab
      rw [thenBy_of_equal h1bc] at hbc
      rw [thenBy_of_equal (h₁.equal_trans ha hb hc h1ab h1bc)]
      exact h₂.trans a ha b hb c hc hab hbc

end Orders

section

variable {rel rel₁ rel₂ : α → α → Relation} {xs ys zs : List α}

/-- Merge sort is a stable sort. The library's lemmas on it ask for an order on the
    whole type, so they are used on the type of the list's elements. -/
theorem isStableSort_mergeSort (h : Orders rel xs) :
    IsStableSort rel xs (xs.mergeSort fun a b => rel a b != .greater) := by
  -- The sort is on the elements of the list, where the laws hold; they are attached to say so.
  have htrans (a b c : {x // x ∈ xs}) (hab : (rel a b != .greater) = true)
      (hbc : (rel b c != .greater) = true) : (rel a c != .greater) = true := by
    rw [bne_iff_ne] at hab hbc ⊢
    exact h.trans a a.2 b b.2 c c.2 hab hbc
  have htotal (a b : {x // x ∈ xs}) :
      ((rel a b != .greater) || (rel b a != .greater)) = true := by
    rw [Bool.or_eq_true, bne_iff_ne, bne_iff_ne]
    exact h.total a.2 b.2
  have hmap : (xs.attach.mergeSort fun a b => rel a b != .greater).map Subtype.val =
      xs.mergeSort fun a b => rel a b != .greater := by
    rw [List.map_mergeSort (s := fun a b => rel a b != .greater) fun _ _ _ _ => rfl,
      List.attach_map_subtype_val]
  have hperm := List.mergeSort_perm xs fun a b => rel a b != .greater
  refine ⟨hperm, ?_, fun a ha => ?_⟩
  · rw [← hmap, List.pairwise_map]
    refine (List.pairwise_mergeSort htrans htotal xs.attach).imp fun {a b} hab => ?_
    exact h.less_or_equal a.2 b.2 (bne_iff_ne.mp hab)
  · -- The elements equal to `a` are a sorted sublist, which sorting keeps.
    have hequal : (xs.attach.filter fun b : {x // x ∈ xs} => rel a b == .equal).Pairwise
        fun b c : {x // x ∈ xs} => (rel b c != .greater) = true := by
      refine List.pairwise_of_forall_mem_list fun b hb c hc => ?_
      have hab := beq_iff_eq.mp (List.mem_filter.mp hb).2
      have hac := beq_iff_eq.mp (List.mem_filter.mp hc).2
      have hbc := h.equal_trans b.2 ha c.2 (h.equal_symm ha b.2 hab) hac
      rw [bne_iff_ne, hbc]
      decide
    have hsub := (List.sublist_mergeSort htrans htotal hequal List.filter_sublist).map Subtype.val
    rw [hmap] at hsub
    -- Detaching turns the ties of `a` among the elements into its ties in the list.
    have hval : (xs.attach.filter fun b : {x // x ∈ xs} => rel a b == .equal).map Subtype.val =
        xs.filter fun b => rel a b == .equal := by
      conv_rhs => rw [← List.attach_map_subtype_val xs]
      rw [List.filter_map]
      rfl
    rw [hval] at hsub
    -- The sorted list has as many ties of `a` as the list, so the sublist is all of them.
    have hsub' := hsub.filter fun b => rel a b == .equal
    simp only [List.filter_filter, Bool.and_self] at hsub'
    exact (hsub'.eq_of_length (hperm.filter _).length_eq.symm).symm

/-- A list sorted by one relation, in which the elements that it does not tell
    apart are sorted by another one, is sorted by both. -/
theorem pairwise_thenBy (h : ys.Pairwise fun a b => rel₁ a b = .less ∨ rel₁ a b = .equal)
    (hrefl : ∀ a ∈ ys, rel₁ a a = .equal)
    (hfilter : ∀ a ∈ ys, (ys.filter fun b => rel₁ a b == .equal).Pairwise
      fun a b => rel₂ a b = .less ∨ rel₂ a b = .equal) :
    ys.Pairwise fun a b => thenBy rel₁ rel₂ a b = .less ∨ thenBy rel₁ rel₂ a b = .equal := by
  -- Induction on the list: its first element is compared with the rest.
  induction ys with
  | nil => exact .nil
  | cons y ys ih =>
      rw [List.pairwise_cons] at h ⊢
      refine ⟨fun b hb => ?_, ?_⟩
      · rcases h.1 b hb with hlt | heq
        · rw [thenBy_of_ne_equal (by rw [hlt]; decide)]
          exact Or.inl hlt
        -- Elements equal to the first by `rel₁` are in its filter,
        -- where `rel₂` has been established.
        · have hy := hfilter y List.mem_cons_self
          rw [List.filter_cons_of_pos (by rw [hrefl y List.mem_cons_self]; rfl)] at hy
          rw [thenBy_of_equal heq]
          exact (List.pairwise_cons.mp hy).1 b (List.mem_filter.mpr ⟨hb, beq_iff_eq.mpr heq⟩)
      · refine ih h.2 (fun a ha => hrefl a (List.mem_cons_of_mem y ha)) fun a ha => ?_
        exact (hfilter a (List.mem_cons_of_mem y ha)).sublist
          ((List.sublist_cons_self y ys).filter _)

/-- Sorting by the lesser relation and then by the greater one sorts by both. -/
theorem IsStableSort.thenBy (h₂ : IsStableSort rel₂ xs ys) (h₁ : IsStableSort rel₁ ys zs)
    (horder : Orders rel₁ xs) : IsStableSort (thenBy rel₁ rel₂) xs zs := by
  have hmem {a : α} : a ∈ zs ↔ a ∈ xs := (h₁.perm.trans h₂.perm).mem_iff
  refine ⟨h₁.perm.trans h₂.perm, ?_, fun a ha => ?_⟩
  -- Ties of the first relation keep the order that the second one gave them.
  · refine pairwise_thenBy h₁.sorted (fun a ha => horder.refl (hmem.mp ha)) fun a ha => ?_
    rw [h₁.stable a (h₁.perm.mem_iff.mp ha)]
    exact h₂.sorted.sublist List.filter_sublist
  · have hboth (l : List α) : (l.filter fun b => Criteria.thenBy rel₁ rel₂ a b == .equal) =
        (l.filter fun b => rel₁ a b == .equal).filter fun b => rel₂ a b == .equal := by
      rw [List.filter_filter]
      refine List.filter_congr fun b _ => ?_
      rw [Bool.eq_iff_iff, Bool.and_eq_true, beq_iff_eq, beq_iff_eq, beq_iff_eq,
        thenBy_eq_equal_iff, and_comm]
    have hys : a ∈ ys := h₂.perm.mem_iff.mpr ha
    -- Both filters keep the order, one by stability of the later
    -- sort and one by that of the earlier.
    calc (zs.filter fun b => Criteria.thenBy rel₁ rel₂ a b == .equal)
        = (ys.filter fun b => rel₁ a b == .equal).filter fun b => rel₂ a b == .equal := by
          rw [hboth, h₁.stable a hys]
      _ = (ys.filter fun b => rel₂ a b == .equal).filter fun b => rel₁ a b == .equal :=
          List.filter_comm ..
      _ = (xs.filter fun b => rel₂ a b == .equal).filter fun b => rel₁ a b == .equal := by
          rw [h₂.stable a ha]
      _ = xs.filter fun b => Criteria.thenBy rel₁ rel₂ a b == .equal := by
          rw [List.filter_comm, hboth]

/-- A list has one stable sort. Two of them begin with the same element, since
    their first elements are equal and equal elements stand as they did. -/
theorem IsStableSort.unique (horder : Orders rel xs) (hy : IsStableSort rel xs ys)
    (hz : IsStableSort rel xs zs) : ys = zs := by
  have hstable : ∀ a ∈ ys,
      (ys.filter fun b => rel a b == .equal) = zs.filter fun b => rel a b == .equal :=
    fun a ha => (hy.stable a (hy.perm.mem_iff.mp ha)).trans
      (hz.stable a (hy.perm.mem_iff.mp ha)).symm
  have hperm : ys.Perm zs := hy.perm.trans hz.perm.symm
  have hys := hy.sorted
  have hzs := hz.sorted
  replace horder : Orders rel ys := horder.mono fun a ha => hy.perm.mem_iff.mp ha
  clear hy hz
  -- Induction on one of the lists. Both heads are minimal, so they are equal in the order.
  induction ys generalizing zs with
  | nil => exact (List.nil_perm.mp hperm).symm
  | cons y ys ih =>
      rcases zs with _ | ⟨z, zs⟩
      · exact absurd hperm.symm.nil_eq (List.cons_ne_nil y ys).symm
      have hymem : y ∈ y :: ys := List.mem_cons_self
      have hzmem : z ∈ y :: ys := hperm.mem_iff.mpr List.mem_cons_self
      have hfirst {a : α} {as : List α}
          (h : (a :: as).Pairwise fun a b => rel a b = .less ∨ rel a b = .equal) (b : α)
          (ha : a ∈ y :: ys) (hb : b ∈ a :: as) : rel a b ≠ .greater := by
        rcases List.mem_cons.mp hb with rfl | hb
        · rw [horder.refl ha]
          decide
        · rcases (List.pairwise_cons.mp h).1 b hb with hr | hr <;> rw [hr] <;> decide
      have hyz : rel y z = .equal := horder.equal_of_not_greater hymem hzmem
        (hfirst hys z hymem hzmem) (hfirst hzs y hzmem (hperm.mem_iff.mp hymem))
      -- The elements tied with `y` appear in one order in both lists, so the heads are the same.
      have hheads := hstable y hymem
      rw [List.filter_cons_of_pos (by rw [horder.refl hymem]; rfl),
        List.filter_cons_of_pos (by rw [hyz]; rfl), List.cons.injEq] at hheads
      rcases hheads with ⟨rfl, -⟩
      congr 1
      refine ih (fun a ha => ?_) (List.perm_cons y |>.mp hperm) (List.pairwise_cons.mp hys).2
        (List.pairwise_cons.mp hzs).2 (horder.mono fun a ha => List.mem_cons_of_mem y ha)
      have hfull := hstable a (List.mem_cons_of_mem y ha)
      rw [List.filter_cons, List.filter_cons] at hfull
      split at hfull
      · exact (List.cons.inj hfull).2
      · exact hfull

end

end Criteria
