import Criteria.Proofs.Query.Superseded

/-!
# Merging a Query Again

Merging the same query a second time changes nothing.

The second merge does a lot on the way. Each incoming criterion removes the one that
the first merge has put at the end, and takes its place behind those that are still
to be removed; so in between the criteria are in no order that means anything. That
all is as before at the end follows from the closed form of a merge
(`mergeFilters_eq`): what is there consists of criteria that no incoming one replaces,
which stay, and of incoming ones, each of which replaces at least itself. Without the
latter it fails, since a criterion that does not replace itself is put in twice.

Orderings are set in place. A query may set one field in two directions, and then the
second merge sets the first direction for a while. It may do so since the field has
its place by then: setting a direction first and others of the same query afterwards
leaves no trace of it (`setDirection_mergeOrderings_setDirection`).

## Theorems

* `mergeCount_mergeCount`: A number that is merged again.
* `mergeOrderings_mergeOrderings`: Orderings that are merged again.
* `unreplaced_unsuperseded`: Criteria that replace themselves make room for
  themselves.
* `mergeFilters_mergeFilters`: Criteria that are merged again.
* `mergeIncludes_mergeIncludes`: Paths that are merged again.
* `Query.merge_merge`: Queries that are merged again.
-/

namespace Criteria

theorem mergeCount_mergeCount {existing incoming fallback : Int} (h : 0 < fallback) :
    mergeCount (mergeCount existing incoming fallback) incoming fallback =
      mergeCount existing incoming fallback := by
  by_cases hin : 0 < incoming
  · rw [mergeCount, if_pos hin, mergeCount, if_pos hin]
  · have hpos : 0 < mergeCount existing incoming fallback := by
      rw [mergeCount, if_neg hin]
      split <;> assumption
    rw [mergeCount, if_neg hin, if_pos hpos]

section Orderings

variable {f : String} {d e : Direction} {os incoming : List OrderBy}

/-- A direction that is set before others leaves no trace where it is set again
    afterwards, if all of the fields have their places already. -/
theorem setDirection_mergeOrderings_setDirection
    (h : ∀ o ∈ incoming, o.field ∈ os.map (·.field)) :
    setDirection f d (mergeOrderings (setDirection f e os) incoming) =
      setDirection f d (mergeOrderings os incoming) := by
  -- Setting the direction first has no effect in the end, whatever the incoming keys do with it.
  induction incoming generalizing os with
  | nil => exact setDirection_setDirection
  | cons o rest ih =>
      have ho := h o List.mem_cons_self
      have hrest : ∀ p ∈ rest, p.field ∈ (setDirection o.field o.direction os).map (·.field) := by
        intro p hp
        rw [map_field_setDirection]
        exact mem_addText_of_mem o.field (h p (List.mem_cons_of_mem o hp))
      show setDirection f d
          (mergeOrderings (setDirection o.field o.direction (setDirection f e os)) rest) =
        setDirection f d (mergeOrderings (setDirection o.field o.direction os) rest)
      -- The next one overwrites the direction, or is about another field.
      by_cases hf : f = o.field
      · rw [hf, setDirection_setDirection]
      · rw [setDirection_comm hf ho, ih hrest]

/-- All fields of incoming orderings have their places in the merged ones. -/
theorem field_mem_mergeOrderings {o : OrderBy} (h : o ∈ incoming) :
    o.field ∈ (mergeOrderings os incoming).map (·.field) := by
  rw [map_field_mergeOrderings]
  exact mem_mergeIncludes (.inr (List.mem_map_of_mem h))

/-- Orderings that are merged again change nothing, not even the order of fields that
    are there several times. -/
theorem mergeOrderings_mergeOrderings (os incoming : List OrderBy) :
    mergeOrderings (mergeOrderings os incoming) incoming = mergeOrderings os incoming := by
  -- From the end, as it is the last direction of a field that counts.
  induction incoming using List.reverseRecOn with
  | nil => rfl
  | append_singleton rest o ih =>
      have hsnoc (as : List OrderBy) : mergeOrderings as (rest ++ [o]) =
          setDirection o.field o.direction (mergeOrderings as rest) := by
        rw [mergeOrderings, List.foldl_append]
        rfl
      have hplaces : ∀ p ∈ rest, p.field ∈ (mergeOrderings os rest).map (·.field) :=
        fun _ hp => field_mem_mergeOrderings hp
      rw [hsnoc, hsnoc, setDirection_mergeOrderings_setDirection hplaces, ih]

end Orderings

section Filters

variable {as bs : List Criterion}

/-- What is not replaced is not replaced when it is looked at again. -/
theorem unreplaced_unreplaced (as bs : List Criterion) :
    unreplaced (unreplaced as bs) bs = unreplaced as bs := by
  rw [unreplaced, List.filter_eq_self]
  exact fun x hx => (List.mem_filter.mp hx).2

/-- Of criteria that replace themselves none is left when they come in again. -/
theorem unreplaced_unsuperseded (h : ∀ b ∈ bs, b.replaces b = true) :
    unreplaced (unsuperseded bs) bs = [] := by
  rw [unreplaced, List.filter_eq_nil_iff]
  intro x hx
  have hmem := (unsuperseded_sublist bs).subset hx
  have hreplaced : (bs.any fun y => y.replaces x) = true :=
    List.any_eq_true.mpr ⟨x, hmem, h x hmem⟩
  rw [hreplaced]
  exact Bool.false_ne_true

/-- Criteria that replace themselves may be merged again. -/
theorem mergeFilters_mergeFilters (as : List Criterion) (h : ∀ b ∈ bs, b.replaces b = true) :
    mergeFilters (mergeFilters as bs) bs = mergeFilters as bs := by
  rw [mergeFilters_eq (mergeFilters as bs), mergeFilters_eq as, unreplaced_append,
    unreplaced_unreplaced, unreplaced_unsuperseded h, List.append_nil]

end Filters

section Includes

variable {as bs : List String}

/-- Paths that are there already are not added. -/
theorem mergeIncludes_of_subset (h : ∀ x ∈ bs, x ∈ as) : mergeIncludes as bs = as := by
  induction bs with
  | nil => rfl
  | cons b bs ih =>
      show mergeIncludes (addText as b) bs = as
      rw [addText_of_mem (h b List.mem_cons_self)]
      exact ih fun x hx => h x (List.mem_cons_of_mem b hx)

theorem mergeIncludes_mergeIncludes (as bs : List String) :
    mergeIncludes (mergeIncludes as bs) bs = mergeIncludes as bs :=
  mergeIncludes_of_subset fun _ hx => mem_mergeIncludes (.inr hx)

end Includes

namespace Query

/-- Merging is idempotent: a query that has been merged into another one may be merged
    again, and everything stays as it is. All that is asked for is that each of its
    criteria replaces itself; neither of the two queries need be free of repetitions. -/
theorem merge_merge (base other : Query) (h : ∀ c ∈ other.filters, c.replaces c = true) :
    (base.merge other).merge other = base.merge other := by
  rw [merge.eq_def (base.merge other) other, merge.eq_def base other]
  have hagain {α : Type} (p : Bool) (x y : α) : (if p then x else if p then x else y) =
      if p then x else y := by
    cases p <;> rfl
  rw [mk.injEq]
  refine ⟨mergeCount_mergeCount (by decide), mergeCount_mergeCount (by decide), hagain .., ?_,
    mergeOrderings_mergeOrderings .., mergeFilters_mergeFilters base.filters h,
    mergeIncludes_mergeIncludes .., hagain .., hagain ..⟩
  rw [Bool.or_assoc, Bool.or_self]

/-- Everyone who is employed, by name in one direction and then in the other. -/
def employed : Query where
  page := 0
  orderings := [⟨"name", .ascending⟩, ⟨"age", .ascending⟩, ⟨"name", .descending⟩]
  filters := [
    { field := some "status", operand := .literal (.text "active"), logic := .or },
    { type := .named, specification := some "late" },
    { field := some "status", operand := .literal (.text "on_leave") }]
  includes := ["orders", "orders"]
  hierarchy := some "manager"

/-- Two criteria and two orderings of one key each are merged twice into a query that
    repeats itself as well. -/
theorem merge_merge_employed :
    (∀ c ∈ employed.filters, c.replaces c = true) ∧
      ((employed.merge employed).merge employed = employed.merge employed) ∧
      ((activeOrOnLeave.merge employed).merge employed = activeOrOnLeave.merge employed) := by
  have hself : ∀ c ∈ employed.filters, c.replaces c = true := by decide
  exact ⟨hself, merge_merge employed employed hself, merge_merge activeOrOnLeave employed hself⟩

end Query

end Criteria
