import Criteria.Proofs.Query.Merge

/-!
# What a Merge Leaves of the Criteria

Which criteria a merged query has, in which order, for any two queries.

The criteria of the incoming query are put in one at a time, and each one removes
what it replaces from all that is there by then. That is more than the existing
criteria: the incoming ones put in before are there as well. So of the existing
criteria those are left that no incoming one replaces, as one would expect, but of
the incoming ones only those that no later incoming one replaces.

`unsuperseded` names that second part, and `mergeFilters_eq` is the whole answer.
It asks nothing of the criteria: the relation need not be symmetric or transitive,
since a criterion is gone as soon as one incoming criterion behind it replaces it,
whatever became of that one.

The incoming query is therefore kept in full exactly when none of its criteria
replaces an earlier one, and `merge_loses_alternative` is a query that is not. It
asks for one of two states, joined by "or". Put into any query, the second
alternative takes the place of the first, and what was a choice is none any more.

## Main definitions

* `unreplaced`: The criteria that none of some others replaces.
* `unsuperseded`: The criteria that no later one replaces.

## Theorems

* `mergeFilters_eq`: Merged criteria, in closed form.
* `unsuperseded_eq_self_iff`: Nothing is superseded if nothing replaces an earlier
  criterion.
* `Query.filters_merge`: The criteria of a merged query, and when the incoming ones
  are kept in full.
* `Query.merge_loses_alternative`: They are not always.
-/

namespace Criteria

/-- The criteria that none of some others replaces. -/
def unreplaced (existing incoming : List Criterion) : List Criterion :=
  existing.filter fun x => !incoming.any fun y => y.replaces x

/-- The criteria that no later one replaces. -/
def unsuperseded : List Criterion → List Criterion
  | [] => []
  | x :: xs => if xs.any fun y => y.replaces x then unsuperseded xs else x :: unsuperseded xs

variable {as bs : List Criterion}

/-- What one criterion and then others do not replace, is what all of them do
    not. -/
theorem unreplaced_cons (as : List Criterion) (b : Criterion) (bs : List Criterion) :
    unreplaced as (b :: bs) = unreplaced (as.filter fun x => !b.replaces x) bs := by
  rw [unreplaced, unreplaced, List.filter_filter]
  refine List.filter_congr fun x _ => ?_
  rw [List.any_cons, Bool.not_or, Bool.and_comm]

theorem unreplaced_append (as cs bs : List Criterion) :
    unreplaced (as ++ cs) bs = unreplaced as bs ++ unreplaced cs bs :=
  List.filter_append ..

/-- Of the existing criteria those are left that no incoming one replaces, of the
    incoming ones those that no later incoming one does. -/
theorem mergeFilters_eq (as bs : List Criterion) :
    mergeFilters as bs = unreplaced as bs ++ unsuperseded bs := by
  -- On the incoming list, whatever is there: each step adds one to what is there.
  induction bs generalizing as with
  | nil =>
      have hall : unreplaced as [] = as := List.filter_eq_self.mpr fun _ _ => rfl
      rw [hall, unsuperseded, List.append_nil]
      rfl
  | cons b bs ih =>
      rw [mergeFilters_cons, ih, supersede, unreplaced_append, ← unreplaced_cons, unsuperseded,
        List.append_assoc]
      -- From here on `b` is one of the criteria that are there.
      congr 1
      by_cases hb : (bs.any fun y => y.replaces b) = true
      · have hgone : unreplaced [b] bs = [] := by
          rw [unreplaced, List.filter_cons, hb, Bool.not_true, if_neg Bool.false_ne_true]
          rfl
        rw [if_pos hb, hgone, List.nil_append]
      · have hkept : unreplaced [b] bs = [b] := by
          rw [unreplaced, List.filter_cons, Bool.not_eq_true _ |>.mp hb, Bool.not_false, if_pos rfl]
          rfl
        rw [if_neg hb, hkept, List.singleton_append]

/-- Criteria that are left stand in their order. -/
theorem unsuperseded_sublist (bs : List Criterion) : (unsuperseded bs).Sublist bs := by
  induction bs with
  | nil => exact .slnil
  | cons b bs ih =>
      rw [unsuperseded]
      split
      · exact ih.cons b
      · exact ih.cons_cons b

/-- Nothing is superseded if and only if nothing replaces an earlier criterion. -/
theorem unsuperseded_eq_self_iff :
    unsuperseded bs = bs ↔ bs.Pairwise fun x y => y.replaces x = false := by
  -- By the list: the tail decides whether more is dropped, the head whether it is itself replaced.
  induction bs with
  | nil => simp only [unsuperseded, List.Pairwise.nil]
  | cons b bs ih =>
      rw [unsuperseded, List.pairwise_cons]
      by_cases hb : (bs.any fun y => y.replaces b) = true
      · -- One criterion is missing, so the lists are not even of one length.
        have hne : unsuperseded bs ≠ b :: bs := by
          intro h
          have hlength := (unsuperseded_sublist bs).length_le
          rw [h, List.length_cons] at hlength
          omega
        rcases List.any_eq_true.mp hb with ⟨y, hy, hyb⟩
        rw [if_pos hb]
        refine iff_of_false hne fun h => ?_
        rw [h.1 y hy] at hyb
        exact Bool.false_ne_true hyb
      · rw [if_neg hb, List.cons.injEq, ih, eq_self_iff_true, true_and]
        refine (and_iff_right fun y hy => ?_).symm
        rw [Bool.not_eq_true, List.any_eq_false] at hb
        exact Bool.not_eq_true _ |>.mp (hb y hy)

namespace Query

/-- A merged query has the existing criteria that no incoming one replaces, and
    then the incoming ones that no later incoming one replaces, all of them as they
    were and in their order. So all incoming criteria are kept exactly when none of
    them replaces an earlier one. -/
theorem filters_merge (base other : Query) :
    (base.merge other).filters =
        unreplaced base.filters other.filters ++ unsuperseded other.filters ∧
      ((base.merge other).filters = unreplaced base.filters other.filters ++ other.filters ↔
        other.filters.Pairwise fun x y => y.replaces x = false) := by
  have hmerged : (base.merge other).filters =
      unreplaced base.filters other.filters ++ unsuperseded other.filters :=
    mergeFilters_eq base.filters other.filters
  refine ⟨hmerged, ?_⟩
  rw [hmerged, List.append_cancel_left_eq, unsuperseded_eq_self_iff]

/-- Everyone whose employment has ended. -/
def terminated : Query where
  filters := [{ field := some "status", operand := .literal (.text "terminated") }]

/-- Everyone who is active or on leave. -/
def activeOrOnLeave : Query where
  filters := [
    { field := some "status", operand := .literal (.text "active"), logic := .or },
    { field := some "status", operand := .literal (.text "on_leave") }]

/-- An incoming criterion is lost when a later one of the same query replaces it: of
    two alternatives only the second one arrives. -/
theorem merge_loses_alternative :
    ¬ ∀ base other : Query,
      (base.merge other).filters = unreplaced base.filters other.filters ++ other.filters := by
  intro h
  have hmerged := congrArg List.length (h terminated activeOrOnLeave)
  -- One criterion is there, where none is left of the first query and two come in.
  exact absurd hmerged (by decide)

end Query

end Criteria
