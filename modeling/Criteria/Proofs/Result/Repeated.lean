import Criteria.Proofs.Result.Ordering

/-!
# Repeated Sort Keys

A sort key on a field that comes earlier among the keys changes nothing.

The sort works from the last key to the first, so it is the repeated key that is
sorted by at first, and the earlier one puts its own order over it. As the passes
are stable, what is left of the repeated key could show only among results that
the earlier key does not tell apart. But these have equal values of the field, and
so the repeated key does not tell them apart either, ascending or descending.

`relationByAll_uniqueBy` says this of the relation that all keys make together.
The passes come in through `isStableSort_sortBy` alone: a list has one stable sort,
so keys that make the same relation sort alike.

That two keys on a field read the same value is a matter of how they were made. A
key made from an ordering has the trimmed path as its field, and the trimmed path
alone decides what is read.

## Theorems

* `nodup_map_uniqueBy`, `find?_uniqueBy`: Of the elements with a key the first one
  is left.
* `SortKey.relation_eq_equal_iff`: Both directions tell the same values apart.
* `relationByAll_filter`, `relationByAll_uniqueBy`: Keys that decide nothing may be
  left out.
* `sortBy_congr`: Keys that make the same relation sort alike.
* `Schema.resolve_congr`: Blanks around a path do not count.
* `SortKey.accessor_eq_of_ofOrdering`: Keys on a field read the same value.
* `ResultShape.apply_merge_new`: A search without the repeated keys.
-/

namespace Criteria

variable {α : Type}

section Unique

theorem nodup_map_uniqueBy (key : α → String) (xs : List α) :
    ((uniqueBy key xs).map key).Nodup := by
  induction xs with
  | nil => exact List.nodup_nil
  | cons x xs ih =>
      rw [uniqueBy, List.map_cons, List.nodup_cons]
      refine ⟨fun hmem => ?_, ih.sublist (List.filter_sublist.map key)⟩
      rcases List.mem_map.mp hmem with ⟨y, hy, hkey⟩
      exact bne_iff_ne.mp (List.mem_filter.mp hy).2 hkey

/-- Of the elements with a key the first one is left. -/
theorem find?_uniqueBy (key : α → String) (xs : List α) (k : String) :
    (uniqueBy key xs).find? (key · == k) = xs.find? (key · == k) := by
  induction xs with
  | nil => rfl
  | cons x xs ih =>
      rw [uniqueBy, List.find?_cons, List.find?_cons]
      by_cases hx : key x = k
      · rw [beq_iff_eq.mpr hx]
      · -- None of those that are left out has the key.
        have hkept (y : α) : decide ((key y != key x) = true ∧ (key y == k) = true) =
            (key y == k) := by
          rw [Bool.eq_iff_iff, decide_eq_true_iff, bne_iff_ne, beq_iff_eq]
          exact and_iff_right_of_imp fun hy h => hx (h.symm.trans hy)
        rw [beq_eq_false_iff_ne.mpr hx, List.find?_filter, funext hkept]
        exact ih

end Unique

section Relations

variable {s : Schema} {view : α → Value} {ks js : List SortKey} {items : List α}

/-- Both directions tell the same values apart. -/
theorem SortKey.relation_eq_equal_iff {k : SortKey} {v w : Value} :
    k.relation v w = .equal ↔ Criteria.relation v w = .equal := by
  rw [SortKey.relation]
  split
  · cases Criteria.relation v w <;> decide
  · exact Iff.rfl

theorem relationByAll_cons_of_equal {k : SortKey} {a b : α}
    (h : k.relation (k.keyOf s view a) (k.keyOf s view b) = .equal) :
    relationByAll s view (k :: ks) a b = relationByAll s view ks a b := by
  rw [relationByAll]
  exact thenBy_of_equal h

theorem relationByAll_cons_of_ne_equal {k : SortKey} {a b : α}
    (h : k.relation (k.keyOf s view a) (k.keyOf s view b) ≠ .equal) :
    relationByAll s view (k :: ks) a b = k.relation (k.keyOf s view a) (k.keyOf s view b) := by
  rw [relationByAll]
  exact thenBy_of_ne_equal h

/-- Keys that do not tell two results apart may be left out. -/
theorem relationByAll_filter {p : SortKey → Bool} {a b : α}
    (h : ∀ k ∈ ks, p k = false → k.relation (k.keyOf s view a) (k.keyOf s view b) = .equal) :
    relationByAll s view (ks.filter p) a b = relationByAll s view ks a b := by
  -- Induction on the keys: one that is left out does not tell the two results apart.
  induction ks with
  | nil => rfl
  | cons k ks ih =>
      have hrest := ih fun j hj => h j (List.mem_cons_of_mem k hj)
      cases hp : p k with
      | true =>
          rw [List.filter_cons_of_pos hp]
          by_cases hk : k.relation (k.keyOf s view a) (k.keyOf s view b) = .equal
          · rw [relationByAll_cons_of_equal hk, relationByAll_cons_of_equal hk, hrest]
          · rw [relationByAll_cons_of_ne_equal hk, relationByAll_cons_of_ne_equal hk]
      | false =>
          have hequal := h k List.mem_cons_self hp
          rw [List.filter_cons_of_neg (by rw [hp]; exact Bool.false_ne_true), hrest,
            relationByAll_cons_of_equal hequal]

-- The induction is on the keys. Where the first one does not tell two results apart,
-- neither does any other key on its field, so these may go.
theorem relationByAll_uniqueBy
    (h : ∀ j ∈ ks, ∀ k ∈ ks, j.field = k.field → j.keyOf s view = k.keyOf s view) (a b : α) :
    relationByAll s view (uniqueBy (·.field) ks) a b = relationByAll s view ks a b := by
  induction ks with
  | nil => rfl
  | cons k ks ih =>
      have hrest := ih fun j hj i hi =>
        h j (List.mem_cons_of_mem k hj) i (List.mem_cons_of_mem k hi)
      rw [uniqueBy]
      by_cases hk : k.relation (k.keyOf s view a) (k.keyOf s view b) = .equal
      · rw [relationByAll_cons_of_equal hk, relationByAll_cons_of_equal hk, relationByAll_filter,
          hrest]
        intro j hj hfield
        have hmem : j ∈ ks := (uniqueBy_sublist _ ks).subset hj
        have hsame := h j (List.mem_cons_of_mem k hmem) k List.mem_cons_self
          (bne_eq_false_iff_eq.mp hfield)
        rw [hsame]
        rw [SortKey.relation_eq_equal_iff] at hk ⊢
        exact hk
      · rw [relationByAll_cons_of_ne_equal hk, relationByAll_cons_of_ne_equal hk]

/-- Keys that make the same relation sort alike. -/
theorem sortBy_congr (hsub : ∀ j ∈ js, j ∈ ks)
    (hrel : ∀ a b, relationByAll s view js a b = relationByAll s view ks a b)
    (hread : ∀ k ∈ ks, ∀ a ∈ items, ∃ v, k.valueOf s (view a) = .ok v)
    (hord : ∀ k ∈ ks, TotallyOrdered (items.map (k.keyOf s view))) :
    ∃ sorted, sortBy s view ks items = .ok sorted ∧ sortBy s view js items = .ok sorted := by
  rcases isStableSort_sortBy hread hord with ⟨sorted, hsorted, hstable⟩
  rcases isStableSort_sortBy (fun j hj => hread j (hsub j hj)) fun j hj => hord j (hsub j hj) with
    ⟨other, hother, hstable'⟩
  have horders := orders_relationByAll fun k hk => (hord k hk).orders
  -- Both results are stable sorts by one relation, of which there is only one.
  rw [show relationByAll s view js = relationByAll s view ks from funext₂ hrel] at hstable'
  have hsame : other = sorted := hstable'.unique horders hstable
  exact ⟨sorted, hsorted, hsame ▸ hother⟩

end Relations

section Making

variable {s : Schema} {entity : TypeExpr}

/-- Blanks around a path do not count. -/
theorem Schema.resolve_congr {path other : String} (h : Text.trim path = Text.trim other) :
    s.resolve entity path = s.resolve entity other := by
  rw [resolve, resolve, h]

theorem Schema.path_of_resolve {path : String} {a : Accessor}
    (h : s.resolve entity path = .ok a) : a.path = Text.trim path := by
  rw [resolve] at h
  dsimp only at h
  split at h
  · cases h
  · rcases bind_eq_ok_iff.mp h with ⟨t, -, ha⟩
    rw [← Except.ok.inj ha]

/-- Keys on a field read the same value, if they were made for the same type. -/
theorem SortKey.accessor_eq_of_ofOrdering {o p : OrderBy} {j k : SortKey}
    (hj : ofOrdering s entity o = .ok j) (hk : ofOrdering s entity p = .ok k)
    (h : j.field = k.field) : j.accessor = k.accessor := by
  rcases bind_eq_ok_iff.mp hj with ⟨a, ha, hj⟩
  rcases bind_eq_ok_iff.mp hk with ⟨b, hb, hk⟩
  rw [← Except.ok.inj hj, ← Except.ok.inj hk] at h ⊢
  -- A key's field is the path as the accessor has it, without the blanks.
  have hpath : Text.trim o.field = Text.trim p.field := by
    rw [← Schema.path_of_resolve ha, ← Schema.path_of_resolve hb]
    exact h
  rw [Schema.resolve_congr hpath, hb, Except.ok.injEq] at ha
  exact congrArg some ha.symm

theorem SortKey.keyOf_congr {view : α → Value} {j k : SortKey} (hfield : j.field = k.field)
    (haccessor : j.accessor = k.accessor) : j.keyOf s view = k.keyOf s view := by
  funext a
  rw [keyOf, keyOf, valueOf, valueOf, hfield, haccessor]

/-- The sort keys of a query's results are made from its orderings. -/
theorem ResultShape.exists_ofOrdering {q : Query} {r : ResultShape} {k : SortKey}
    (h : ofQuery s entity q = .ok r) (hk : k ∈ r.orders) :
    ∃ o ∈ q.orderings, SortKey.ofOrdering s entity o = .ok k := by
  rcases bind_eq_ok_iff.mp h with ⟨orders, horders, h⟩
  rcases bind_eq_ok_iff.mp h with ⟨includes, -, h⟩
  rcases bind_eq_ok_iff.mp h with ⟨hierarchy, -, h⟩
  rw [← Except.ok.inj h] at hk
  exact forall₂_exists_left (mapM_eq_ok_iff.mp horders) hk

end Making

namespace ResultShape

/-- A search without the repeated keys. If every sort key comes from a query on the
    type of entity, no specification fails, the keys can be read and their values are
    ordered, then merging with a new shape, which leaves the first key on each field
    only, does not change what is found. -/
theorem apply_merge_new (r : ResultShape) (s : Schema) (entity : TypeExpr) (view : α → Value)
    (specs : List Spec) (items : List α)
    (hmade : ∀ k ∈ r.orders, ∃ q base, ofQuery s entity q = .ok base ∧ k ∈ base.orders)
    (hspecs : ∀ a ∈ items, ∃ b, Spec.acceptsAll s specs (view a) = .ok b)
    (hread : ∀ k ∈ r.orders, ∀ a ∈ accepted s view specs items,
      ∃ v, k.valueOf s (view a) = .ok v)
    (hord : ∀ k ∈ r.orders, TotallyOrdered
      (((accepted s view specs items).map (k.keyOf s view)).filter fun v => !v.isNull)) :
    ((r.merge {}).orders.map (·.field)).Nodup ∧
      (∀ field, (r.merge {}).orders.find? (·.field == field) =
        r.orders.find? (·.field == field)) ∧
      ∃ found, r.apply s view specs items = .ok found ∧
        (r.merge {}).apply s view specs items = .ok found := by
  have horders : (r.merge {}).orders = uniqueBy (·.field) r.orders := by
    rw [merge, List.append_nil]
  have hpage (xs : List α) : (r.merge {}).page xs = r.page xs := by
    have hskip : (r.merge {}).skip = r.skip := by simp [merge]
    have htake : (r.merge {}).take = r.take := by simp [merge]
    rw [page, page, hskip, htake]
  -- Keys on one field have one accessor, whatever query they come from.
  have hsame : ∀ j ∈ r.orders, ∀ k ∈ r.orders, j.field = k.field →
      j.keyOf s view = k.keyOf s view := by
    intro j hj k hk hfield
    rcases hmade j hj with ⟨_, _, hq, hj⟩
    rcases hmade k hk with ⟨_, _, hq', hk⟩
    rcases exists_ofOrdering hq hj with ⟨o, -, ho⟩
    rcases exists_ofOrdering hq' hk with ⟨p, -, hp⟩
    exact SortKey.keyOf_congr hfield (SortKey.accessor_eq_of_ofOrdering ho hp hfield)
  -- Paging sees the sorted results only, and its bounds are those of the first shape.
  rcases sortBy_congr (fun k hk => (uniqueBy_sublist (·.field) r.orders).subset hk)
    (relationByAll_uniqueBy hsame) hread fun k hk => orders_of_present (hord k hk) with
    ⟨sorted, hsorted, hsorted'⟩
  refine ⟨?_, fun field => ?_, r.page sorted, ?_, ?_⟩
  · rw [horders]
    exact nodup_map_uniqueBy _ _
  · rw [horders]
    exact find?_uniqueBy _ _ field
  -- Both sorts go through and give the same list, of which the same page is cut.
  · rw [apply, selectBy_eq_ok hspecs]
    show (passing (unworded (sortBy s view r.orders _)) >>= _) = _
    rw [hsorted]
    rfl
  · rw [apply, selectBy_eq_ok hspecs, horders]
    show (passing (unworded (sortBy s view (uniqueBy _ r.orders) _)) >>= _) = _
    rw [hsorted']
    exact congrArg Except.ok (hpage sorted)

/-- The key for a field of results whose type says nothing about their fields. -/
def untypedKey (field : String) (direction : Direction) : SortKey :=
  ⟨field, direction, some ⟨.any, field, [field], .any, .any, true, none⟩⟩

/-- Results by rank, then by label, and then by rank again and the other way round. -/
def byRankTwice : ResultShape where
  skip := some 0
  take := some standardPageSize
  orders := [untypedKey "rank" .descending, untypedKey "label" .ascending,
    untypedKey "rank" .ascending]

/-- A query whose results are sorted by rank twice. -/
def twiceRanked : Query where
  orderings := [⟨"rank", .descending⟩, ⟨"label", .ascending⟩, ⟨" rank ", .ascending⟩]

/-- Rows 1 and 4 differ in neither key, so the other direction of the last key could
    show in their order; it does not. -/
theorem apply_merge_new_byRankTwice :
    ofQuery ⟨[], [], .first⟩ .any twiceRanked = .ok byRankTwice ∧
      (byRankTwice.merge {}).orders.length = 2 ∧
      ∃ found,
        byRankTwice.apply ⟨[], [], .first⟩ rankedRow [.always]
          [(1, "b", some 2), (2, "c", none), (3, "a", some 2), (4, "b", some 2)] = .ok found ∧
        (byRankTwice.merge {}).apply ⟨[], [], .first⟩ rankedRow [.always]
          [(1, "b", some 2), (2, "c", none), (3, "a", some 2), (4, "b", some 2)] = .ok found := by
  have hmade : ofQuery ⟨[], [], .first⟩ .any twiceRanked = .ok byRankTwice := rfl
  have hread (k : SortKey) (hk : k ∈ byRankTwice.orders) (p : Nat × String × Option Int) :
      ∃ v, k.valueOf ⟨[], [], .first⟩ (rankedRow p) = .ok v := by
    simp only [byRankTwice, List.mem_cons, List.not_mem_nil, or_false] at hk
    -- The three keys read the label or the rank.
    rcases hk with rfl | rfl | rfl <;> exact ⟨_, rfl⟩
  have hfound := apply_merge_new byRankTwice ⟨[], [], .first⟩ .any rankedRow [.always]
    [(1, "b", some 2), (2, "c", none), (3, "a", some 2), (4, "b", some 2)]
    (fun k hk => ⟨twiceRanked, byRankTwice, hmade, hk⟩) (fun p _ => ⟨true, rfl⟩)
    (fun k hk p _ => hread k hk p)
    (by
      simp only [byRankTwice, List.forall_mem_cons]
      exact ⟨⟨by decide, by decide, by decide, by decide⟩,
        ⟨by decide, by decide, by decide, by decide⟩,
        ⟨by decide, by decide, by decide, by decide⟩, fun k hk => absurd hk List.not_mem_nil⟩)
  exact ⟨hmade, rfl, hfound.2.2⟩

end ResultShape

end Criteria
