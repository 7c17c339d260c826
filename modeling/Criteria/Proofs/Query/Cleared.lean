import Criteria.Proofs.Query.Merge

/-!
# Queries Without a Field

What is left of a query once a field is cleared, and when it may be cleared.

It does not matter whether a field is cleared before queries are merged or after,
as long as a criterion is about a field in one way only: simple criteria by their
field, custom filters by the text that their parameters name. Then whatever
replaces a criterion about a field is about that field itself, so superseding and
clearing cut along the same lines. Orderings and included paths need no condition.
All three parts of a query are merged by a fold, and `clear_foldl` is the one
argument about them: putting an element in and clearing afterwards is the same as
clearing first and putting in what is left of the element, or nothing.

That nothing about the field is left is another matter. Of the criteria that stay,
clearing looks at the further ones and not at the operand, but looking for criteria
about a field finds both. So `Query.criteriaOn_clearField` is the true account for
criteria that nest at most one level deep: what is found after clearing are the
operands about the field of criteria that are not about it. `clearField_keeps_operand`
is a query with such an operand.

## Main definitions

* `Criterion.IsTidy`: A criterion is about a field in the way of its kind only.
* `clearFilters`: Criteria without those about a field.
* `Query.NestsOnce`: No criterion in another one has criteria in it.
* `Query.operandsOn`: The operands about a field of criteria that are not about it.

## Theorems

* `clear_foldl`: Clearing what has been put in one by one.
* `Criterion.references_of_replaces`: What replaces a criterion is about the same
  fields.
* `clearFilters_mergeFilters`, `filter_mergeOrderings`, `filter_mergeIncludes`: Parts
  of merged queries without a field.
* `Query.clearField_merge`: Merged queries without a field.
* `Query.criteriaOn_clearField`: What is left about a field that has been cleared.
* `Query.clearField_keeps_operand`: It need not be nothing.
-/

namespace Criteria

/-- If elements are put in one by one, and clearing after one has been put in is the
    same as putting in what is left of it after clearing, or nothing where it is not
    kept, then it does not matter whether clearing comes first or last. -/
theorem clear_foldl {σ β : Type} {put : σ → β → σ} {clear : σ → σ} {keep : β → Bool}
    {left : β → β} {bs : List β} (Inv : σ → Prop)
    (hinv : ∀ a, Inv a → ∀ b ∈ bs, Inv (put a b))
    (hput : ∀ a, Inv a → ∀ b ∈ bs,
      clear (put a b) = if keep b then put (clear a) (left b) else clear a)
    {a : σ} (ha : Inv a) :
    clear (bs.foldl put a) = ((bs.filter keep).map left).foldl put (clear a) := by
  -- Induction on the elements that are put in.
  induction bs generalizing a with
  | nil => rfl
  | cons b bs ih =>
      have hb : b ∈ b :: bs := List.mem_cons_self
      -- The others are put into what this one leaves, where `Inv` holds again.
      rw [List.foldl_cons, ih (fun a ha x hx => hinv a ha x (List.mem_cons_of_mem b hx))
        (fun a ha x hx => hput a ha x (List.mem_cons_of_mem b hx)) (hinv a ha b hb),
        hput a ha b hb, List.filter_cons]
      cases keep b with
      | true => rfl
      | false => rfl

section Filters

namespace Criterion

/-- A criterion is about a field in the way of its kind only: a simple one by its
    field, and a custom filter by a text that its parameters name. -/
structure IsTidy (c : Criterion) : Prop where
  field : c.field ≠ none → c.kind = .simple
  target : c.target ≠ .null → c.kind = .custom ∧ ∃ s, c.target = .text s

variable {x y : Criterion}

theorem IsTidy.field_eq_none (h : x.IsTidy) (hkind : x.kind ≠ .simple) : x.field = none :=
  not_not.mp fun hfield => hkind (h.field hfield)

theorem IsTidy.target_eq_null (h : x.IsTidy) (hkind : x.kind ≠ .custom) : x.target = .null :=
  not_not.mp fun htarget => hkind (h.target htarget).1

/-- Tidy criteria that replace one another agree in field and target. -/
theorem field_eq_and_target_eq_of_replaces (hx : x.IsTidy) (hy : y.IsTidy)
    (h : x.replaces y = true) : x.field = y.field ∧ x.target = y.target := by
  rw [replaces, Bool.and_eq_true, beq_iff_eq] at h
  rcases h with ⟨htype, h⟩
  have hkind : y.kind = x.kind := by rw [kind, kind, htype]
  -- By the kind of the criterion: a simple one is replaced by its
  -- field, a custom one by its target.
  cases hk : x.kind with
  | simple =>
      simp only [hk, Bool.and_eq_true, beq_iff_eq] at h
      have hne : x.kind ≠ .custom := by rw [hk]; decide
      rw [hx.target_eq_null hne, hy.target_eq_null (hkind ▸ hne)]
      exact ⟨h.1, rfl⟩
  | named =>
      have hsimple : x.kind ≠ .simple := by rw [hk]; decide
      have hcustom : x.kind ≠ .custom := by rw [hk]; decide
      rw [hx.field_eq_none hsimple, hy.field_eq_none (hkind ▸ hsimple),
        hx.target_eq_null hcustom, hy.target_eq_null (hkind ▸ hcustom)]
      exact ⟨rfl, rfl⟩
  | custom =>
      simp only [hk, Bool.and_eq_true, Bool.not_eq_true'] at h
      have hne : x.kind ≠ .simple := by rw [hk]; decide
      refine ⟨by rw [hx.field_eq_none hne, hy.field_eq_none (hkind ▸ hne)], ?_⟩
      -- What is not null names a text, and equal texts are the same.
      have hnull : x.target ≠ .null := by
        intro hnull
        rw [hnull] at h
        exact absurd h.1 Bool.noConfusion
      rcases (hx.target hnull).2 with ⟨s, hs⟩
      have hnull' : y.target ≠ .null := by
        intro hnull'
        rw [hs, hnull'] at h
        exact absurd h.2 Bool.noConfusion
      rcases (hy.target hnull').2 with ⟨t, ht⟩
      rw [hs, ht] at h
      rw [hs, ht, beq_iff_eq.mp h.2]
  | composite =>
      rw [hk] at h
      exact absurd h Bool.false_ne_true

/-- What replaces a criterion is about the same fields. -/
theorem references_of_replaces (hx : x.IsTidy) (hy : y.IsTidy) (h : x.replaces y = true)
    (field : String) : x.references field = y.references field := by
  rcases field_eq_and_target_eq_of_replaces hx hy h with ⟨hfield, htarget⟩
  rw [references, references, hfield, htarget]

@[simp] theorem references_withoutField (cleared field : String) (c : Criterion) :
    (Query.withoutField cleared c).references field = c.references field := rfl

theorem replaces_withoutField (field : String) (x y : Criterion) :
    (Query.withoutField field x).replaces (Query.withoutField field y) = x.replaces y := rfl

end Criterion

/-- Criteria without those about a field, and the others without their further
    criteria about it. -/
def clearFilters (field : String) (cs : List Criterion) : List Criterion :=
  (cs.filter fun c => !c.references field).map (Query.withoutField field)

/-- A criterion that is put in and about the field goes again, and it has replaced
    nothing that would have stayed. -/
theorem clearFilters_supersede (field : String) {as : List Criterion} {b : Criterion}
    (has : ∀ a ∈ as, a.IsTidy) (hb : b.IsTidy) :
    clearFilters field (supersede as b) = if !b.references field then
      supersede (clearFilters field as) (Query.withoutField field b)
      else clearFilters field as := by
  rw [clearFilters, supersede, List.filter_append, List.map_append, List.filter_filter]
  -- The incoming criterion is about the field and goes away, or it stays.
  cases hfield : b.references field with
  | true =>
      -- Whatever it replaces is about the field as well.
      have hgone : [b].filter (fun c => !c.references field) = [] := by
        rw [List.filter_cons, hfield]
        rfl
      rw [hgone, List.map_nil, List.append_nil, clearFilters]
      congr 1
      refine List.filter_congr fun a ha => ?_
      cases hreplaces : b.replaces a with
      | false => rw [Bool.not_false, Bool.and_true]
      | true =>
          rw [← Criterion.references_of_replaces hb (has a ha) hreplaces, hfield]
          rfl
  | false =>
      -- It replaces the same before its further criteria are cleared and after.
      have hkept : [b].filter (fun c => !c.references field) = [b] := by
        rw [List.filter_cons, hfield]
        rfl
      rw [hkept, Bool.not_false, if_pos rfl, supersede, clearFilters, List.filter_map,
        List.filter_filter]
      congr 2
      refine List.filter_congr fun a _ => ?_
      rw [Function.comp_apply, Criterion.replaces_withoutField, Bool.and_comm]

/-- Merged criteria without a field, where the field is cleared first or last. -/
theorem clearFilters_mergeFilters (field : String) {as bs : List Criterion}
    (has : ∀ a ∈ as, a.IsTidy) (hbs : ∀ b ∈ bs, b.IsTidy) :
    clearFilters field (mergeFilters as bs) =
      mergeFilters (clearFilters field as) (clearFilters field bs) := by
  refine clear_foldl (fun cs => ∀ c ∈ cs, c.IsTidy) (fun cs hcs b hb c hc => ?_)
    (fun cs hcs b hb => clearFilters_supersede field hcs (hbs b hb)) has
  rcases List.mem_append.mp hc with hc | hc
  · exact hcs c (List.mem_of_mem_filter hc)
  · rw [List.mem_singleton.mp hc]
    exact hbs b hb

end Filters

section Orderings

variable {field : String}

/-- A direction that is set goes again if its field is cleared, and has its place among
    the other fields if not. -/
theorem filter_setDirection (f : String) (d : Direction) (os : List OrderBy) :
    (setDirection f d os).filter (·.field != field) =
      if f != field then setDirection f d (os.filter (·.field != field))
      else os.filter (·.field != field) := by
  -- Induction on the orderings, along the search for the one with this field.
  induction os with
  | nil =>
      rw [setDirection, List.filter_cons]
      rfl
  | cons o os ih =>
      rw [setDirection]
      -- The direction is set here or further on, and this field stays or goes.
      by_cases hof : o.field = f
      · rw [if_pos hof, List.filter_cons, List.filter_cons, hof]
        cases f != field with
        | true => rw [if_pos rfl, if_pos rfl, if_pos rfl, setDirection, if_pos hof]
        | false => rfl
      · rw [if_neg hof, List.filter_cons, ih, List.filter_cons]
        cases o.field != field with
        | true =>
            rw [if_pos rfl, if_pos rfl, setDirection, if_neg hof]
            cases f != field <;> rfl
        | false => rfl

/-- Merged orderings without a field, where the field is cleared first or last. -/
theorem filter_mergeOrderings (os incoming : List OrderBy) :
    (mergeOrderings os incoming).filter (·.field != field) =
      mergeOrderings (os.filter (·.field != field)) (incoming.filter (·.field != field)) := by
  rw [← List.map_id (incoming.filter (·.field != field))]
  exact clear_foldl (fun _ => True) (fun _ _ _ _ => trivial)
    (fun os _ o _ => filter_setDirection o.field o.direction os) trivial

end Orderings

section Includes

variable {field : String}

theorem filter_addText (xs : List String) (x : String) :
    (addText xs x).filter (· != field) =
      if x != field then addText (xs.filter (· != field)) x else xs.filter (· != field) := by
  by_cases hx : x ∈ xs
  · rw [addText_of_mem hx]
    cases hfield : x != field with
    | true => rw [if_pos rfl, addText_of_mem (List.mem_filter.mpr ⟨hx, hfield⟩)]
    | false => rfl
  · rw [addText_of_notMem hx, List.filter_append, List.filter_cons]
    cases x != field with
    | true =>
        rw [if_pos rfl, if_pos rfl,
          addText_of_notMem fun hmem => hx (List.mem_of_mem_filter hmem)]
        rfl
    | false => exact List.append_nil _

/-- Merged paths without one of them, where it is cleared first or last. -/
theorem filter_mergeIncludes (xs incoming : List String) :
    (mergeIncludes xs incoming).filter (· != field) =
      mergeIncludes (xs.filter (· != field)) (incoming.filter (· != field)) := by
  rw [← List.map_id (incoming.filter (· != field))]
  exact clear_foldl (fun _ => True) (fun _ _ _ _ => trivial)
    (fun xs _ x _ => filter_addText xs x) trivial

end Includes

namespace Query

/-- Clearing a field and merging may change places: criteria with their further
    criteria, orderings and included paths come out the same, and in the same order. -/
theorem clearField_merge (base other : Query) (field : String)
    (hbase : ∀ c ∈ base.filters, c.IsTidy) (hother : ∀ c ∈ other.filters, c.IsTidy) :
    ((base.merge other).clearField field).filters =
        ((base.clearField field).merge (other.clearField field)).filters ∧
      ((base.merge other).clearField field).orderings =
        ((base.clearField field).merge (other.clearField field)).orderings ∧
      ((base.merge other).clearField field).includes =
        ((base.clearField field).merge (other.clearField field)).includes :=
  ⟨clearFilters_mergeFilters field hbase hother,
    filter_mergeOrderings base.orderings other.orderings,
    filter_mergeIncludes base.includes other.includes⟩

/-- Late orders with an address in the city, and who has them. -/
def lateInCity : Query where
  orderings := [⟨"status", .descending⟩, ⟨"city", .ascending⟩]
  filters := [
    { type := .textIn, parameters := [("Field", .text "status"), ("values", .text "late")] },
    { field := some "addresses"
      op := .any
      filters := [
        { field := some "city", operand := .literal (.text "Berlin") },
        { field := some "status", operand := .literal (.text "main") }] },
    { type := .named, specification := some "late" }]
  includes := ["status", "addresses"]

/-- The status goes from both queries at all levels, whether they are merged yet or
    not. -/
theorem clearField_merge_adults_lateInCity :
    (∀ c ∈ adults.filters, c.IsTidy) ∧ (∀ c ∈ lateInCity.filters, c.IsTidy) ∧
      ((adults.merge lateInCity).clearField "status").filters =
        ((adults.clearField "status").merge (lateInCity.clearField "status")).filters := by
  have hadults : ∀ c ∈ adults.filters, c.IsTidy := by
    intro c hc
    simp only [adults, List.mem_cons, List.not_mem_nil, or_false] at hc
    rcases hc with rfl | rfl
    · exact ⟨fun _ => rfl, fun h => absurd rfl h⟩
    · exact ⟨fun h => absurd rfl h, fun _ => ⟨rfl, "status", rfl⟩⟩
  have hlate : ∀ c ∈ lateInCity.filters, c.IsTidy := by
    intro c hc
    simp only [lateInCity, List.mem_cons, List.not_mem_nil, or_false] at hc
    rcases hc with rfl | rfl | rfl
    · exact ⟨fun h => absurd rfl h, fun _ => ⟨rfl, "status", rfl⟩⟩
    · exact ⟨fun _ => rfl, fun h => absurd rfl h⟩
    · exact ⟨fun h => absurd rfl h, fun h => absurd rfl h⟩
  -- The filters of both queries are tidy, so the theorem applies.
  exact ⟨hadults, hlate, (clearField_merge adults lateInCity "status" hadults hlate).1⟩

end Query

namespace Criterion

theorem walkAll_eq_flatMap (cs : List Criterion) : walkAll cs = cs.flatMap walk := by
  induction cs with
  | nil => rfl
  | cons c cs ih => rw [walkAll, ih, List.flatMap_cons]

theorem walk_eq (c : Criterion) :
    c.walk = c :: (walkOperand c.operand ++ c.filters.flatMap walk) := by
  rw [← walkAll_eq_flatMap]
  cases c
  rfl

/-- The criterion that is the operand, if it is one. -/
def operand? (c : Criterion) : Option Criterion :=
  match c.operand with
  | .nested n => some n
  | .literal _ => none

/-- There are no criteria in a criterion. -/
def IsLeaf (c : Criterion) : Prop :=
  c.operand? = none ∧ c.filters = []

/-- No criterion in this one has criteria in it. -/
def NestsOnce (c : Criterion) : Prop :=
  ∀ n, n ∈ c.operand? ∨ n ∈ c.filters → n.IsLeaf

theorem walkOperand_eq (c : Criterion) :
    walkOperand c.operand = c.operand?.toList.flatMap walk := by
  rw [operand?]
  cases c.operand with
  | literal v => rfl
  | nested n =>
      dsimp only
      rw [Option.toList_some, List.flatMap_cons, List.flatMap_nil, List.append_nil]
      rfl

theorem walk_of_isLeaf {c : Criterion} (h : c.IsLeaf) : c.walk = [c] := by
  rw [walk_eq, walkOperand_eq, h.1, h.2]
  rfl

/-- A criterion that nests once is followed by its operand, where that is a criterion,
    and by its further criteria. -/
theorem walk_of_nestsOnce {c : Criterion} (h : c.NestsOnce) :
    c.walk = c :: (c.operand?.toList ++ c.filters) := by
  have hself {ns : List Criterion} (hns : ∀ n ∈ ns, n.IsLeaf) : ns.flatMap walk = ns := by
    induction ns with
    | nil => rfl
    | cons n ns ih =>
        rw [List.flatMap_cons, walk_of_isLeaf (hns n List.mem_cons_self),
          ih fun m hm => hns m (List.mem_cons_of_mem n hm), List.singleton_append]
  rw [walk_eq, walkOperand_eq, hself fun n hn => h n (.inl (Option.mem_toList.mp hn)),
    hself fun n hn => h n (.inr hn)]

@[simp] theorem operand?_withoutField (field : String) (c : Criterion) :
    (Query.withoutField field c).operand? = c.operand? := rfl

theorem NestsOnce.withoutField {c : Criterion} (h : c.NestsOnce) (field : String) :
    (Query.withoutField field c).NestsOnce :=
  fun n hn => h n (hn.imp_right List.mem_of_mem_filter)

/-- What is about a field in a criterion that stays when the field is cleared: its
    operand, if at all. -/
theorem filter_walk_withoutField {field : String} {c : Criterion} (h : c.NestsOnce)
    (hc : c.references field = false) :
    (Query.withoutField field c).walk.filter (·.references field) =
      c.operand?.toList.filter (·.references field) := by
  -- Further criteria about the field are what clearing takes out.
  have hfilters : (Query.withoutField field c).filters.filter (·.references field) = [] := by
    show (c.filters.filter fun n => !n.references field).filter (·.references field) = []
    simp only [List.filter_filter, Bool.and_not_self, List.filter_false]
  rw [walk_of_nestsOnce (h.withoutField field), operand?_withoutField, List.filter_cons,
    references_withoutField, hc, if_neg Bool.false_ne_true, List.filter_append, hfilters,
    List.append_nil]

end Criterion

namespace Query

/-- Criteria nest at most one level deep. -/
def NestsOnce (q : Query) : Prop :=
  ∀ c ∈ q.filters, c.NestsOnce

/-- The operands about a field of criteria that are not about it. -/
def operandsOn (q : Query) (field : String) : List Criterion :=
  ((q.filters.filter fun c => !c.references field).filterMap Criterion.operand?).filter
    (·.references field)

theorem operandsOn_eq_nil_iff {q : Query} {field : String} :
    q.operandsOn field = [] ↔ ∀ c ∈ q.filters, c.references field = false →
      ∀ n ∈ c.operand?, n.references field = false := by
  rw [operandsOn, List.filter_eq_nil_iff]
  simp only [List.mem_filterMap, List.mem_filter, Bool.not_eq_true', Bool.not_eq_true,
    forall_exists_index, and_imp, Option.mem_def]
  exact ⟨fun h c hc hfield n hn => h n c hc hfield hn, fun h n c hc hfield hn => h c hc hfield n hn⟩

/-- What is found about a field once it has been cleared are the operands of criteria
    that are not about it themselves, each in its place. So nothing is found if and only
    if there are none. No ordering, no included path and no hierarchy of the field is
    left in any case. -/
theorem criteriaOn_clearField (q : Query) (field : String) (h : q.NestsOnce) :
    (q.clearField field).criteriaOn field = q.operandsOn field ∧
      ((q.clearField field).criteriaOn field = [] ∧
          (q.clearField field).criterionOn? field none = none ↔
        ∀ c ∈ q.filters, c.references field = false →
          ∀ n ∈ c.operand?, n.references field = false) ∧
      (q.clearField field).ordersBy field = false ∧
      field ∉ (q.clearField field).includes ∧
      (q.clearField field).hierarchy ≠ some field := by
  -- Walking the criteria that are left finds only what stands inside their operands.
  have hleft : (q.clearField field).criteriaOn field = q.operandsOn field := by
    show (Criterion.walkAll (clearFilters field q.filters)).filter (·.references field) = _
    rw [Criterion.walkAll_eq_flatMap, clearFilters, List.flatMap_map, List.filter_flatMap,
      operandsOn, List.filterMap_eq_flatMap_toList, List.filter_flatMap]
    refine List.flatMap_congr fun c hc => ?_
    rcases List.mem_filter.mp hc with ⟨hmem, hkept⟩
    rw [Bool.not_eq_true'] at hkept
    exact Criterion.filter_walk_withoutField (h c hmem) hkept
  refine ⟨hleft, ?_, ?_, ?_, ?_⟩
  · rw [criterionOn?, hleft, ← operandsOn_eq_nil_iff]
    exact and_iff_left_of_imp fun hnil => by rw [hnil]; rfl
  -- Orderings, includes and the hierarchy are simply filtered.
  · show (q.orderings.filter (·.field != field)).any (·.field == field) = false
    simp only [List.any_filter, bne, Bool.not_and_self, List.any_eq_false, Bool.false_eq_true,
      not_false_eq_true, implies_true]
  · show field ∉ q.includes.filter (· != field)
    simp only [List.mem_filter, bne_self_eq_false, Bool.false_eq_true, and_false,
      not_false_eq_true]
  · show (if q.hierarchy == some field then none else q.hierarchy) ≠ some field
    by_cases hfield : q.hierarchy = some field
    · rw [if_pos (beq_iff_eq.mpr hfield)]
      exact fun h => by cases h
    · rw [if_neg fun h => hfield (beq_iff_eq.mp h)]
      exact hfield

/-- Late orders with an address in the city are about the status in three places, and
    none of them is an operand. -/
theorem criteriaOn_clearField_lateInCity :
    lateInCity.NestsOnce ∧ (lateInCity.clearField "status").criteriaOn "status" = [] := by
  have hnests : lateInCity.NestsOnce := by
    intro c hc n hn
    simp only [lateInCity, List.mem_cons, List.not_mem_nil, or_false] at hc
    rcases hc with rfl | rfl | rfl
    · exact absurd hn (by simp only [Criterion.operand?, Option.mem_def, reduceCtorEq,
        List.not_mem_nil, or_false, not_false_eq_true])
    · simp only [Criterion.operand?, Option.mem_def, reduceCtorEq, false_or, List.mem_cons,
        List.not_mem_nil, or_false] at hn
      rcases hn with rfl | rfl
      · exact ⟨rfl, rfl⟩
      · exact ⟨rfl, rfl⟩
    · exact absurd hn (by simp only [Criterion.operand?, Option.mem_def, reduceCtorEq,
        List.not_mem_nil, or_false, not_false_eq_true])
  refine ⟨hnests, ((criteriaOn_clearField lateInCity "status" hnests).2.1.mpr ?_).1⟩
  intro c hc _ n hn
  simp only [lateInCity, List.mem_cons, List.not_mem_nil, or_false] at hc
  rcases hc with rfl | rfl | rfl <;> cases hn

/-- People with an address in Berlin, asked for by the operand of a quantifier. -/
def somewhereInBerlin : Query where
  filters := [
    { field := some "addresses"
      op := .any
      operand := .nested { field := some "city", operand := .literal (.text "Berlin") } }]

/-- The city is still asked for once it has been cleared. -/
theorem clearField_keeps_operand :
    ¬ ∀ (q : Query) (field : String), q.NestsOnce →
      (q.clearField field).criteriaOn field = [] ∧
        (q.clearField field).criterionOn? field none = none ∧
        (q.clearField field).ordersBy field = false ∧
        field ∉ (q.clearField field).includes ∧
        (q.clearField field).hierarchy ≠ some field := by
  intro h
  -- The only criterion holds another one as its operand, and nothing is nested below that.
  have hnests : somewhereInBerlin.NestsOnce := by
    intro c hc n hn
    rw [List.mem_singleton.mp hc] at hn
    rcases hn with hn | hn
    · cases hn
      exact ⟨rfl, rfl⟩
    · exact absurd hn List.not_mem_nil
  have hnone := congrArg List.length (h somewhereInBerlin "city" hnests).1
  exact absurd hnone (by decide)

end Query

end Criteria
