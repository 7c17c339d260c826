import Criteria.Query.Merge
import Mathlib.Data.List.Induction
import Mathlib.Data.List.Nodup

/-!
# Merging Query after Query

When several queries are merged it does not matter which two are merged first.

Every part of a query is merged by a rule of its own, and the rules that work on
lists are folds: the incoming elements are put in one at a time. So two ways of
bracketing agree as soon as merging a list that an element has been put into is
the same as merging the list and putting the element in then. This is shown for
each rule by an induction on the list, and the induction on the last query is
the same for all of them.

For orderings the step holds where the fields of the list are distinct: putting
one in changes the first ordering of its field, and a second one of the field
would still bring the old direction along. For criteria it holds because
superseding is transitive. Custom filters supersede one another by equality of
what their parameters name, and equality of values is transitive where the value
in the middle is a text.

## Main definitions

* `Criterion.NamesText`: A custom filter names its field by a text or not at all.

## Theorems

* `mergeCount_assoc`: Merging numbers.
* `nodup_foldl_addText`, `foldl_addText_eq_append`: Texts that are added one by
  one.
* `mergeOrderings_setDirection`, `mergeOrderings_assoc`: Merging orderings.
* `Criterion.replaces_trans`: Superseding is transitive.
* `mergeFilters_supersede`, `mergeFilters_assoc`: Merging criteria.
* `mergeFilters_eq_append`: Criteria that supersede nothing are put at the end.
* `mergeIncludes_addText`, `mergeIncludes_assoc`: Merging included paths.
* `Query.merge_assoc`: Merging queries.
-/

namespace Criteria

section Counts

/-- A positive number in the middle leaves no room for the one before it. -/
theorem mergeCount_assoc {a b c fallback : Int} (hb : 0 < b) :
    mergeCount (mergeCount a b fallback) c fallback =
      mergeCount a (mergeCount b c fallback) fallback := by
  have hleft : mergeCount a b fallback = b := by rw [mergeCount, if_pos hb]
  rw [hleft]
  by_cases hc : 0 < c
  · have hright (x : Int) : mergeCount x c fallback = c := by rw [mergeCount, if_pos hc]
    rw [hright b, hright a]
  · have hright : mergeCount b c fallback = b := by rw [mergeCount, if_neg hc, if_pos hb]
    rw [hright, hleft]

end Counts

section Texts

variable {xs : List String} {x : String}

theorem addText_of_mem (h : x ∈ xs) : addText xs x = xs := by
  rw [addText, if_pos (List.contains_iff_mem.mpr h)]

theorem addText_of_notMem (h : x ∉ xs) : addText xs x = xs ++ [x] := by
  rw [addText, if_neg fun hx => h (List.contains_iff_mem.mp hx)]

theorem mem_addText_self (xs : List String) (x : String) : x ∈ addText xs x := by
  by_cases h : x ∈ xs
  · rw [addText_of_mem h]
    exact h
  · rw [addText_of_notMem h]
    exact List.mem_append_right xs (List.mem_singleton_self x)

theorem mem_addText_of_mem (y : String) (h : x ∈ xs) : x ∈ addText xs y := by
  by_cases hy : y ∈ xs
  · rw [addText_of_mem hy]
    exact h
  · rw [addText_of_notMem hy]
    exact List.mem_append_left [y] h

theorem nodup_addText (h : xs.Nodup) (x : String) : (addText xs x).Nodup := by
  by_cases hx : x ∈ xs
  · rw [addText_of_mem hx]
    exact h
  · rw [addText_of_notMem hx, List.nodup_append]
    refine ⟨h, List.nodup_singleton x, fun y hy z hz hyz => hx ?_⟩
    rw [← List.mem_singleton.mp hz, ← hyz]
    exact hy

/-- Texts that are added one by one are distinct. -/
theorem nodup_foldl_addText (ys : List String) (h : xs.Nodup) : (ys.foldl addText xs).Nodup := by
  induction ys generalizing xs with
  | nil => exact h
  | cons y ys ih => exact ih (nodup_addText h y)

/-- Distinct texts are added as they are. -/
theorem foldl_addText_eq_append {ys : List String} (h : (xs ++ ys).Nodup) :
    ys.foldl addText xs = xs ++ ys := by
  induction ys generalizing xs with
  | nil => rw [List.foldl_nil, List.append_nil]
  | cons y ys ih =>
      have hy : y ∉ xs := fun hmem =>
        (List.nodup_append.mp h).2.2 y hmem y List.mem_cons_self rfl
      rw [List.foldl_cons, addText_of_notMem hy, ih, List.append_assoc, List.singleton_append]
      rw [List.append_assoc, List.singleton_append]
      exact h

end Texts

section Orderings

variable {f g : String} {d e : Direction} {os : List OrderBy}

/-- The fields that are ordered by, once the direction of one is set. -/
theorem map_field_setDirection :
    (setDirection f d os).map (·.field) = addText (os.map (·.field)) f := by
  induction os with
  | nil => rfl
  | cons o os ih =>
      rw [setDirection, List.map_cons, addText]
      by_cases ho : o.field = f
      · rw [if_pos ho, List.map_cons, if_pos (by rw [ho, List.contains_cons, beq_self_eq_true,
          Bool.true_or]), ho]
      · rw [if_neg ho, List.map_cons, ih, addText, List.contains_cons,
          beq_eq_false_iff_ne.mpr (Ne.symm ho), Bool.false_or]
        split
        · rfl
        · rw [List.cons_append]

theorem map_field_mergeOrderings (incoming : List OrderBy) :
    (mergeOrderings os incoming).map (·.field) =
      (incoming.map (·.field)).foldl addText (os.map (·.field)) := by
  rw [mergeOrderings]
  induction incoming generalizing os with
  | nil => rfl
  | cons o rest ih =>
      rw [List.foldl_cons, ih, map_field_setDirection, List.map_cons, List.foldl_cons]

/-- Of two directions for a field the later one counts. -/
theorem setDirection_setDirection :
    setDirection f e (setDirection f d os) = setDirection f e os := by
  induction os with
  | nil =>
      show setDirection f e [⟨f, d⟩] = [⟨f, e⟩]
      rw [setDirection, if_pos rfl]
  | cons o os ih =>
      rw [setDirection.eq_2 f d, setDirection.eq_2 f e]
      by_cases ho : o.field = f
      · rw [if_pos ho, if_pos ho, setDirection, if_pos rfl]
      · rw [if_neg ho, if_neg ho, setDirection, if_neg ho, ih]

/-- Directions of two fields may be set in either order, if one of the fields has
    its place already. -/
theorem setDirection_comm (hne : g ≠ f) (hf : f ∈ os.map (·.field)) :
    setDirection f d (setDirection g e os) = setDirection g e (setDirection f d os) := by
  induction os with
  | nil => exact absurd hf List.not_mem_nil
  | cons o os ih =>
      rw [setDirection.eq_2 g e, setDirection.eq_2 f d]
      by_cases hof : o.field = f
      · have hog : o.field ≠ g := fun h => hne (h.symm.trans hof)
        rw [if_neg hog, if_pos hof, setDirection, if_pos hof, setDirection, if_neg (Ne.symm hne)]
      · rw [if_neg hof]
        by_cases hog : o.field = g
        · rw [if_pos hog, setDirection, if_neg hne, setDirection, if_pos hog]
        · have hrest : f ∈ os.map (·.field) :=
            (List.mem_cons.mp hf).resolve_left fun h => hof h.symm
          rw [if_neg hog, setDirection, if_neg hof, setDirection, if_neg hog, ih hrest]

/-- A direction may be set before other fields are merged in, if its field has
    its place already. -/
theorem setDirection_mergeOrderings {incoming : List OrderBy}
    (hf : f ∈ os.map (·.field)) (hnot : f ∉ incoming.map (·.field)) :
    setDirection f d (mergeOrderings os incoming) =
      mergeOrderings (setDirection f d os) incoming := by
  induction incoming generalizing os with
  | nil => rfl
  | cons o rest ih =>
      rw [List.map_cons, List.mem_cons, not_or] at hnot
      have hf' : f ∈ (setDirection o.field o.direction os).map (·.field) := by
        rw [map_field_setDirection]
        exact mem_addText_of_mem o.field hf
      show setDirection f d (mergeOrderings (setDirection o.field o.direction os) rest) =
        mergeOrderings (setDirection o.field o.direction (setDirection f d os)) rest
      rw [ih hf' hnot.2, setDirection_comm (Ne.symm hnot.1) hf]

/-- Orderings with a direction set are merged like the orderings, with the
    direction set afterwards. -/
theorem mergeOrderings_setDirection {incoming : List OrderBy}
    (h : (incoming.map (·.field)).Nodup) :
    mergeOrderings os (setDirection f d incoming) =
      setDirection f d (mergeOrderings os incoming) := by
  -- Induction on the incoming orderings, up to the one for the field.
  induction incoming generalizing os with
  | nil => rfl
  | cons o rest ih =>
      rw [List.map_cons, List.nodup_cons] at h
      rw [setDirection]
      by_cases ho : o.field = f
      · -- The field has its place from here on, so the rest does not matter to it.
        have hmem : f ∈ (setDirection f o.direction os).map (·.field) := by
          rw [map_field_setDirection]
          exact mem_addText_self _ f
        rw [if_pos ho]
        show mergeOrderings (setDirection f d os) rest =
          setDirection f d (mergeOrderings (setDirection o.field o.direction os) rest)
        rw [ho, setDirection_mergeOrderings hmem (ho ▸ h.1), setDirection_setDirection]
      · rw [if_neg ho]
        exact ih h.2

/-- Merging orderings is associative where those in the middle are of distinct
    fields. -/
theorem mergeOrderings_assoc {bs : List OrderBy} (cs : List OrderBy)
    (h : (bs.map (·.field)).Nodup) :
    mergeOrderings (mergeOrderings os bs) cs = mergeOrderings os (mergeOrderings bs cs) := by
  induction cs using List.reverseRecOn with
  | nil => rfl
  | append_singleton cs o ih =>
      have hsnoc (as : List OrderBy) : mergeOrderings as (cs ++ [o]) =
          setDirection o.field o.direction (mergeOrderings as cs) := by
        rw [mergeOrderings, List.foldl_append]
        rfl
      have hdistinct : ((mergeOrderings bs cs).map (·.field)).Nodup := by
        rw [map_field_mergeOrderings]
        exact nodup_foldl_addText _ h
      rw [hsnoc, hsnoc, ih, mergeOrderings_setDirection hdistinct]

end Orderings

section Filters

namespace Criterion

/-- A custom filter names its field by a text or not at all. -/
def NamesText (c : Criterion) : Prop :=
  c.kind = .custom → c.target = .null ∨ ∃ s, c.target = .text s

/-- Superseding is transitive over a criterion that names a text. -/
theorem replaces_trans {x y z : Criterion} (hzy : z.replaces y = true) (hyx : y.replaces x = true)
    (hy : y.NamesText) (hz : z.NamesText) : z.replaces x = true := by
  rw [replaces, Bool.and_eq_true, beq_iff_eq] at hzy hyx ⊢
  rcases hzy with ⟨htype, hzy⟩
  rcases hyx with ⟨htype', hyx⟩
  -- The kinds are equal, so the three criteria are compared in one way.
  have hkind : z.kind = y.kind := by rw [kind, kind, htype]
  refine ⟨htype.trans htype', ?_⟩
  rw [hkind] at hzy ⊢
  cases hk : y.kind with
  | simple =>
      rw [hk] at hzy hyx
      simp only [Bool.and_eq_true, beq_iff_eq] at hzy hyx ⊢
      exact ⟨hzy.1.trans hyx.1, hzy.2.trans hyx.2⟩
  | named =>
      rw [hk] at hzy hyx
      simp only [beq_iff_eq] at hzy hyx ⊢
      exact hzy.trans hyx
  | custom =>
      rw [hk] at hzy hyx
      simp only [Bool.and_eq_true, Bool.not_eq_true'] at hzy hyx ⊢
      refine ⟨hzy.1, ?_⟩
      -- Both name texts, and equal texts are the same.
      rcases hy hk with hnull | ⟨s, hs⟩
      · rw [hnull] at hyx
        exact absurd hyx.1 Bool.noConfusion
      rcases hz (hkind.trans hk) with hnull | ⟨t, ht⟩
      · rw [hnull] at hzy
        exact absurd hzy.1 Bool.noConfusion
      rw [hs, ht] at hzy
      have hst : t = s := beq_iff_eq.mp hzy.2
      rw [ht, hst, ← hs]
      exact hyx.2
  | composite =>
      rw [hk] at hzy
      exact absurd hzy Bool.false_ne_true

end Criterion

variable {as bs cs : List Criterion} {z : Criterion}

theorem mergeFilters_cons (as : List Criterion) (x : Criterion) (xs : List Criterion) :
    mergeFilters as (x :: xs) = mergeFilters (supersede as x) xs :=
  rfl

theorem mergeFilters_snoc (as xs : List Criterion) (x : Criterion) :
    mergeFilters as (xs ++ [x]) = supersede (mergeFilters as xs) x := by
  rw [mergeFilters, List.foldl_append]
  rfl

/-- What is merged was in one of the lists. -/
theorem mem_of_mem_mergeFilters {x : Criterion} (h : x ∈ mergeFilters as bs) : x ∈ as ++ bs := by
  induction bs generalizing as with
  | nil => exact List.mem_append_left [] h
  | cons b bs ih =>
      have hmem := ih h
      rw [supersede, List.append_assoc, List.singleton_append, List.mem_append] at hmem
      rw [List.mem_append]
      exact hmem.imp_left List.mem_of_mem_filter

/-- What is kept of a merge depends on what is kept of the list that is merged
    into. -/
theorem filter_mergeFilters_congr {keep : Criterion → Bool} (cs : List Criterion)
    (h : as.filter keep = bs.filter keep) :
    (mergeFilters as cs).filter keep = (mergeFilters bs cs).filter keep := by
  induction cs generalizing as bs with
  | nil => exact h
  | cons c cs ih =>
      have hcomm (xs : List Criterion) : (xs.filter fun x => !c.replaces x).filter keep =
          (xs.filter keep).filter fun x => !c.replaces x := by
        rw [List.filter_filter, List.filter_filter]
        exact List.filter_congr fun x _ => Bool.and_comm _ _
      refine ih ?_
      rw [supersede, supersede, List.filter_append, List.filter_append, hcomm, hcomm, h]

/-- Of incoming criteria that are superseded themselves nothing is left, not even
    that something is missing which they superseded. -/
theorem filter_mergeFilters_filter (hz : z.NamesText) (hbs : ∀ b ∈ bs, b.NamesText) :
    (mergeFilters as (bs.filter fun x => !z.replaces x)).filter (fun x => !z.replaces x) =
      (mergeFilters as bs).filter fun x => !z.replaces x := by
  -- Induction on the incoming criteria.
  induction bs generalizing as with
  | nil => rfl
  | cons b bs ih =>
      have hrest := fun x hx => hbs x (List.mem_cons_of_mem b hx)
      rw [mergeFilters_cons, List.filter_cons]
      cases hzb : z.replaces b with
      | false => exact ih hrest
      | true =>
          rw [Bool.not_true, if_neg Bool.false_ne_true, ih hrest]
          refine filter_mergeFilters_congr bs ?_
          rw [supersede, List.filter_append, List.filter_cons, hzb, Bool.not_true,
            if_neg Bool.false_ne_true, List.filter_nil, List.append_nil, List.filter_filter]
          refine List.filter_congr fun x _ => ?_
          -- Whatever `b` supersedes `z` supersedes as well.
          cases hbx : b.replaces x with
          | false => rw [Bool.not_false, Bool.and_true]
          | true =>
              rw [Criterion.replaces_trans hzb hbx (hbs b List.mem_cons_self) hz]
              rfl

/-- Criteria with one put in are merged like the criteria, with the one put in
    afterwards. -/
theorem mergeFilters_supersede (hz : z.NamesText) (hbs : ∀ b ∈ bs, b.NamesText) :
    mergeFilters as (supersede bs z) = supersede (mergeFilters as bs) z := by
  rw [supersede, mergeFilters_snoc, supersede, filter_mergeFilters_filter hz hbs, supersede]

/-- Merging criteria is associative where custom filters name texts. -/
theorem mergeFilters_assoc (hbs : ∀ b ∈ bs, b.NamesText) (hcs : ∀ c ∈ cs, c.NamesText) :
    mergeFilters (mergeFilters as bs) cs = mergeFilters as (mergeFilters bs cs) := by
  induction cs using List.reverseRecOn with
  | nil => rfl
  | append_singleton cs z ih =>
      have hcs' := fun c hc => hcs c (List.mem_append_left [z] hc)
      have hz := hcs z (List.mem_append_right cs (List.mem_singleton_self z))
      have hmiddle : ∀ x ∈ mergeFilters bs cs, x.NamesText := by
        intro x hx
        rcases List.mem_append.mp (mem_of_mem_mergeFilters hx) with hx | hx
        · exact hbs x hx
        · exact hcs' x hx
      rw [mergeFilters_snoc, mergeFilters_snoc, ih hcs', mergeFilters_supersede hz hmiddle]

/-- Criteria that supersede neither what is there nor one another are put at the
    end. -/
theorem mergeFilters_eq_append (h : ∀ b ∈ bs, ∀ a ∈ as, b.replaces a = false)
    (hself : bs.Pairwise fun x y => y.replaces x = false) : mergeFilters as bs = as ++ bs := by
  -- Induction on the incoming criteria, with what has been put in counted to the left side.
  induction bs generalizing as with
  | nil => exact (List.append_nil as).symm
  | cons b bs ih =>
      rw [List.pairwise_cons] at hself
      have hkept : supersede as b = as ++ [b] := by
        rw [supersede, List.filter_eq_self.mpr]
        intro a ha
        rw [h b List.mem_cons_self a ha]
        rfl
      rw [mergeFilters_cons, hkept, ih, List.append_assoc, List.singleton_append]
      · intro c hc a ha
        rcases List.mem_append.mp ha with ha | ha
        · exact h c (List.mem_cons_of_mem b hc) a ha
        · rw [List.mem_singleton.mp ha]
          exact hself.1 c hc
      · exact hself.2

end Filters

section Includes

variable {as bs : List String} {x : String}

theorem mergeIncludes_snoc (as bs : List String) (x : String) :
    mergeIncludes as (bs ++ [x]) = addText (mergeIncludes as bs) x := by
  rw [mergeIncludes, List.foldl_append]
  rfl

theorem mem_mergeIncludes (h : x ∈ as ∨ x ∈ bs) : x ∈ mergeIncludes as bs := by
  induction bs generalizing as with
  | nil => exact h.resolve_right List.not_mem_nil
  | cons b bs ih =>
      refine ih (h.elim (fun hx => .inl (mem_addText_of_mem b hx)) fun hx => ?_)
      rcases List.mem_cons.mp hx with rfl | hx
      · exact .inl (mem_addText_self as x)
      · exact .inr hx

/-- Paths with one added are merged like the paths, with the one added
    afterwards. -/
theorem mergeIncludes_addText :
    mergeIncludes as (addText bs x) = addText (mergeIncludes as bs) x := by
  by_cases hx : x ∈ bs
  · rw [addText_of_mem hx, addText_of_mem (mem_mergeIncludes (.inr hx))]
  · rw [addText_of_notMem hx, mergeIncludes_snoc]

theorem mergeIncludes_assoc (cs : List String) :
    mergeIncludes (mergeIncludes as bs) cs = mergeIncludes as (mergeIncludes bs cs) := by
  induction cs using List.reverseRecOn with
  | nil => rfl
  | append_singleton cs x ih =>
      rw [mergeIncludes_snoc, mergeIncludes_snoc, ih, mergeIncludes_addText]

end Includes

namespace Query

/-- A merged query follows a hierarchy if one of the two does. -/
theorem hasHierarchy_merge (a b : Query) :
    (a.merge b).hasHierarchy = (b.hasHierarchy || a.hasHierarchy) := by
  show (!((if b.hasHierarchy then b.hierarchy else a.hierarchy).getD "").isEmpty) = _
  cases hb : b.hasHierarchy with
  | true =>
      rw [if_pos rfl, Bool.true_or]
      exact hb
  | false =>
      rw [if_neg Bool.false_ne_true, Bool.false_or]
      rfl

/-- Merging is associative: it does not matter whether the last of three queries is
    merged into the first two together or into the second one before. Of the first
    query nothing is asked for. -/
theorem merge_assoc (a b c : Query) (hpage : 0 < b.page) (hsize : 0 < b.pageSize)
    (horderings : (b.orderings.map (·.field)).Nodup)
    (hb : ∀ x ∈ b.filters, x.NamesText) (hc : ∀ x ∈ c.filters, x.NamesText) :
    (a.merge b).merge c = a.merge (b.merge c) := by
  have hhas := hasHierarchy_merge b c
  rw [merge.eq_def (a.merge b) c, merge.eq_def a (b.merge c), hhas]
  -- What is given last counts, for the hierarchy and its depth alike.
  have hfrom {α : Type} (x y z : α) :
      (if c.hasHierarchy then z else if b.hasHierarchy then y else x) =
        if (c.hasHierarchy || b.hasHierarchy) = true then
          (if c.hasHierarchy then z else y) else x := by
    cases c.hasHierarchy <;> rfl
  -- The same for the tracking, where an unset one passes on what came before.
  have htracking : (if c.trackingGiven then c.noTracking
        else if b.trackingGiven then b.noTracking else a.noTracking) =
      if (b.trackingGiven || c.trackingGiven) = true then
        (if c.trackingGiven then c.noTracking else b.noTracking) else a.noTracking := by
    cases c.trackingGiven with
    | true => rw [Bool.or_true]; rfl
    | false => rw [Bool.or_false]; rfl
  rw [mk.injEq]
  exact ⟨mergeCount_assoc hpage, mergeCount_assoc hsize, htracking,
    Bool.or_assoc .., mergeOrderings_assoc c.orderings horderings, mergeFilters_assoc hb hc,
    mergeIncludes_assoc c.includes, hfrom .., hfrom ..⟩

/-- Active adults, by name. -/
def adults : Query where
  orderings := [⟨"name", .ascending⟩]
  filters := [
    { field := some "age", op := .greaterOrEqual, operand := .literal (.int 18) },
    { type := .textIn, parameters := [("field", .text "status"), ("values", .text "active")] }]
  includes := ["orders"]

/-- Idle persons who are late and those they manage, by age. -/
def idle : Query where
  page := 2
  pageSize := 20
  orderings := [⟨"age", .descending⟩, ⟨"name", .descending⟩]
  filters := [
    { type := .textIn, parameters := [("Field", .text "status"), ("values", .text "idle")] },
    { type := .named, specification := some "late" }]
  includes := ["addresses", "orders"]
  hierarchy := some "manager"

/-- Busy persons who are not late, by name and status. -/
def busy : Query where
  page := 0
  noTracking := false
  trackingGiven := true
  orderings := [⟨"name", .ascending⟩, ⟨"status", .ascending⟩]
  filters := [
    { type := .named, specification := some "late", arguments := [.bool false] },
    { type := .textIn, parameters := [("field", .text "status"), ("values", .text "busy")] },
    { type := .textIn, parameters := [("values", .text "x")] }]

/-- All three order by name, and all three ask for a status. -/
theorem merge_assoc_adults_idle_busy :
    (adults.merge idle).merge busy = adults.merge (idle.merge busy) := by
  refine merge_assoc adults idle busy (by decide) (by decide) (by decide) ?_ ?_
  · intro x hx hkind
    simp only [idle, List.mem_cons, List.not_mem_nil, or_false] at hx
    rcases hx with rfl | rfl
    · exact .inr ⟨"status", rfl⟩
    · exact absurd hkind (by decide)
  · intro x hx hkind
    simp only [busy, List.mem_cons, List.not_mem_nil, or_false] at hx
    rcases hx with rfl | rfl | rfl
    · exact absurd hkind (by decide)
    · exact .inr ⟨"status", rfl⟩
    · exact .inl rfl

end Query

end Criteria
