import Criteria.Proofs.Result.Repeated
import Mathlib.Data.List.Induction

/-!
# Merging Result Shapes

Result shapes merge like the elements of a monoid, but for what they list twice.

A shape has seven parts, and most of them are merged by a choice between two
values: the first page that is set, the first hierarchy, whether all or any of the
shapes ask for something. These are associative and idempotent one by one, and a
new shape leaves them alone. What needs an argument are the two lists. They are
put one behind the other, and then what repeats an earlier element goes. A list
that has been through this may have lost elements, so it matters that those would
have been lost in any case: `uniqueBy_append` says what becomes of the second list,
and everything else follows from it.

Whether an element is a repetition can also be seen from its place, without looking
at the lists that it came from. This is how `firstsBy` puts it, and a merge with
nothing new in it drops just these.

## Main definitions

* `firstsBy`: The elements whose key no earlier element has.
* `ResultShape.withoutRepeats`: A shape that lists nothing twice.

## Theorems

* `uniqueBy_append`: Of the second list that stays whose key the first one lacks.
* `uniqueBy_eq_self`: Where no key is repeated every element stays.
* `uniqueBy_eq_firstsBy`: Those that stay are the first ones of their keys.
* `ResultShape.merge_monoid`: The laws of merging.
-/

namespace Criteria

variable {α : Type}

/-- The elements whose key no earlier element of the list has. -/
def firstsBy (key : α → String) (xs : List α) : List α :=
  (xs.zipIdx.filter fun p => !((xs.take p.2).any fun y => key y == key p.1)).map Prod.fst

/-- The shape without the sort keys and inclusions that repeat an earlier one. -/
def ResultShape.withoutRepeats (r : ResultShape) : ResultShape :=
  { r with
    orders := firstsBy (·.field) r.orders
    includes := firstsBy (·.path) r.includes }

section Unique

variable {key : α → String} {xs ys : List α}

theorem uniqueBy_append : uniqueBy key (xs ++ ys) =
    uniqueBy key xs ++ (uniqueBy key ys).filter fun y => !(xs.any fun x => key x == key y) := by
  induction xs with
  | nil => simp only [List.nil_append, uniqueBy, List.any_nil, Bool.not_false, List.filter_true]
  | cons x xs ih =>
      rw [List.cons_append, uniqueBy, ih, List.filter_append, List.filter_filter, uniqueBy,
        List.cons_append]
      -- What is left of the second list goes through one more test, that of the head.
      congr 2
      refine List.filter_congr fun y _ => ?_
      rw [List.any_cons, Bool.not_or, BEq.comm (a := key x)]
      rfl

/-- A key is in the list if it is in what stays of it. -/
theorem any_uniqueBy (k : String) :
    ((uniqueBy key xs).any fun x => key x == k) = xs.any fun x => key x == k := by
  have hfind := find?_uniqueBy key xs k
  rw [Bool.eq_iff_iff, List.any_eq_true, List.any_eq_true, ← List.find?_isSome,
    ← List.find?_isSome, hfind]

/-- Where no key is repeated every element stays. -/
theorem uniqueBy_eq_self (h : (xs.map key).Nodup) : uniqueBy key xs = xs := by
  induction xs with
  | nil => rfl
  | cons x xs ih =>
      rw [List.map_cons, List.nodup_cons] at h
      rw [uniqueBy, ih h.2]
      have hrest : (xs.filter fun y => key y != key x) = xs := by
        rw [List.filter_eq_self]
        intro y hy
        rw [bne_iff_ne]
        intro hkey
        exact h.1 (hkey ▸ List.mem_map_of_mem hy)
      rw [hrest]

theorem uniqueBy_uniqueBy (key : α → String) (xs : List α) :
    uniqueBy key (uniqueBy key xs) = uniqueBy key xs :=
  uniqueBy_eq_self (nodup_map_uniqueBy key xs)

/-- It does not matter whether repetitions of the first list go first. -/
theorem uniqueBy_uniqueBy_append :
    uniqueBy key (uniqueBy key xs ++ ys) = uniqueBy key (xs ++ ys) := by
  rw [uniqueBy_append, uniqueBy_append, uniqueBy_uniqueBy]
  simp only [any_uniqueBy]

/-- Nor whether those of the second list do. -/
theorem uniqueBy_append_uniqueBy :
    uniqueBy key (xs ++ uniqueBy key ys) = uniqueBy key (xs ++ ys) := by
  rw [uniqueBy_append, uniqueBy_append, uniqueBy_uniqueBy]

/-- A list behind itself adds nothing. -/
theorem uniqueBy_append_self : uniqueBy key (xs ++ xs) = uniqueBy key xs := by
  rw [uniqueBy_append]
  have hnone : ((uniqueBy key xs).filter fun y => !(xs.any fun x => key x == key y)) = [] := by
    rw [List.filter_eq_nil_iff]
    intro y hy hnot
    have hmem : y ∈ xs := (uniqueBy_sublist key xs).subset hy
    have hany : (xs.any fun x => key x == key y) = true :=
      List.any_eq_true.mpr ⟨y, hmem, beq_self_eq_true _⟩
    rw [hany] at hnot
    exact Bool.false_ne_true hnot
  rw [hnone, List.append_nil]

/-- An element at the end is the first of its key if no other element has it. -/
theorem firstsBy_concat (x : α) : firstsBy key (xs ++ [x]) =
    firstsBy key xs ++ [x].filter fun y => !(xs.any fun z => key z == key y) := by
  -- The last one stays when its key is not among those before it.
  have hlast : (([x].zipIdx xs.length).filter fun p =>
      !(((xs ++ [x]).take p.2).any fun y => key y == key p.1)).map Prod.fst =
        [x].filter fun y => !(xs.any fun z => key z == key y) := by
    simp only [List.zipIdx_singleton, List.filter_singleton, List.take_left']
    cases !(xs.any fun z => key z == key x) <;> rfl
  -- Elements before it have the same elements in front of them as they had.
  have hfirst : (xs.zipIdx.filter fun p =>
      !(((xs ++ [x]).take p.2).any fun y => key y == key p.1)).map Prod.fst = firstsBy key xs := by
    unfold firstsBy
    congr 1
    refine List.filter_congr fun p hp => ?_
    have hlt : p.2 < xs.length := by
      have hrange := List.mem_zipIdx hp
      omega
    rw [List.take_append_of_le_length (Nat.le_of_lt hlt)]
  rw [firstsBy, List.zipIdx_append, Nat.zero_add, List.filter_append, List.map_append, hfirst,
    hlast]

/-- Those that stay are the first ones of their keys. -/
theorem uniqueBy_eq_firstsBy (key : α → String) (xs : List α) :
    uniqueBy key xs = firstsBy key xs := by
  induction xs using List.reverseRecOn with
  | nil => rfl
  | append_singleton xs x ih =>
      rw [firstsBy_concat, ← ih, uniqueBy_append]
      rfl

end Unique

section Choices

variable {β : Type} (x y z : Option β)

theorem orElse_orElse :
    ((x.orElse fun _ => y).orElse fun _ => z) = x.orElse fun _ => y.orElse fun _ => z := by
  cases x <;> rfl

theorem orElse_self : (x.orElse fun _ => x) = x := by
  cases x <;> rfl

theorem orElse_nothing : (x.orElse fun _ => none) = x := by
  cases x <;> rfl

end Choices

namespace ResultShape

theorem merge_self_eq (r : ResultShape) : r.merge r = r.withoutRepeats := by
  simp only [merge, withoutRepeats, uniqueBy_append_self, orElse_self, Bool.and_self, Bool.or_self,
    ← uniqueBy_eq_firstsBy]

theorem merge_new_eq (r : ResultShape) : r.merge {} = r.withoutRepeats := by
  simp only [merge, withoutRepeats, List.append_nil, orElse_nothing, Bool.and_true, Bool.or_false,
    ← uniqueBy_eq_firstsBy]

theorem new_merge_eq (r : ResultShape) : ({} : ResultShape).merge r = r.withoutRepeats := by
  simp only [merge, withoutRepeats, List.nil_append, Option.orElse, Bool.true_and, Bool.false_or,
    ← uniqueBy_eq_firstsBy]

/-- The laws of merging. Of three shapes any two may be merged first; a merged shape
    lists no field and no path twice; and a shape that is merged with itself, or on
    either side with a new one, only loses what it lists twice. -/
theorem merge_monoid (a b c : ResultShape) :
    (a.merge b).merge c = a.merge (b.merge c) ∧
      ((a.merge b).orders.map (·.field)).Nodup ∧ ((a.merge b).includes.map (·.path)).Nodup ∧
      a.merge a = a.withoutRepeats ∧ a.merge {} = a.withoutRepeats ∧
      ({} : ResultShape).merge a = a.withoutRepeats := by
  refine ⟨?_, nodup_map_uniqueBy _ _, nodup_map_uniqueBy _ _, a.merge_self_eq, a.merge_new_eq,
    a.new_merge_eq⟩
  simp only [merge, orElse_orElse, uniqueBy_uniqueBy_append, uniqueBy_append_uniqueBy,
    List.append_assoc, Bool.and_assoc, Bool.or_assoc]

end ResultShape

end Criteria
