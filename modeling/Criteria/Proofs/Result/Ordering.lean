import Criteria.Proofs.Outcome
import Criteria.Proofs.Result.StableSort
import Criteria.Result.Search

/-!
# Ordering Results

What a search returns before a page is cut out of it: the accepted results,
stably sorted by all sort keys at once.

The sort itself works key by key, the least significant one first.
`sortPass_eq_ok` says what one pass does, and `isStableSort_sortBy` carries it
through all keys: after the passes for the later keys the list is stably sorted
by these, and the pass for the key in front of them puts its own relation before
theirs.

Sort keys compare values of any type, so an order has to be asked for.
`TotallyOrdered` asks that the values of a key that are not null can all be
compared and are ordered by it. Null needs no such condition:
`orders_of_present` adds it below every value. A descending key turns the whole
relation round, null included, and a relation turned round still orders.

## Main definitions

* `TotallyOrdered`: Values can be compared and are ordered by it.
* `SortKey.keyOf`: The value of a key.
* `relationByAll`: How two results stand to each other by all keys.
* `accepted`: The results that all specifications accept.

## Theorems

* `relation_null_value`, `relation_value_null`: Null is below every value.
* `orders_of_present`: Null may be added to values that are ordered.
* `Orders.flip`: An order turned round is an order.
* `sortPass_eq_ok`: A pass sorts stably by its key.
* `orders_relationByAll`: Several keys order what each of them orders.
* `isStableSort_sortBy`: All passes sort stably by all keys.
* `selectBy_eq_ok`: Selecting keeps the accepted results.
* `apply_isStableSort`: What a search returns.
-/

namespace Criteria

variable {α : Type}

/-- Every two of the values can be compared, and they are ordered by it. -/
structure TotallyOrdered (vs : List Value) : Prop where
  comparable : ∀ a ∈ vs, ∀ b ∈ vs, (relateKeys a b).isOk = true
  orders : Orders relation vs

/-- The value of a sort key of a result, null if it cannot be read. -/
def SortKey.keyOf (k : SortKey) (s : Schema) (view : α → Value) (a : α) : Value :=
  (k.valueOf s (view a)).toOption.getD .null

/-- How two results stand to each other by all sort keys: the first key on which
    they differ decides. -/
def relationByAll (s : Schema) (view : α → Value) : List SortKey → α → α → Relation
  | [], _, _ => .equal
  | k :: ks, a, b =>
    thenBy (fun a b => k.relation (k.keyOf s view a) (k.keyOf s view b)) (relationByAll s view ks)
      a b

/-- The results that all specifications accept. -/
def accepted (s : Schema) (view : α → Value) (specs : List Spec) (items : List α) : List α :=
  items.filter fun a => (Spec.acceptsAll s specs (view a)).toOption == some true

section Values

variable {a b : Value} {vs : List Value}

theorem relateKeys_null_null (ha : a.isNull = true) (hb : b.isNull = true) :
    relateKeys a b = .ok .equal := by
  rw [relateKeys, ha, hb]

theorem relateKeys_null_value (ha : a.isNull = true) (hb : b.isNull = false) :
    relateKeys a b = .ok .less := by
  rw [relateKeys, ha, hb]

theorem relateKeys_value_null (ha : a.isNull = false) (hb : b.isNull = true) :
    relateKeys a b = .ok .greater := by
  rw [relateKeys, ha, hb]

theorem relation_of_relateKeys {r : Relation} (h : relateKeys a b = .ok r) : relation a b = r := by
  rw [relation, h]
  rfl

theorem relation_null_null (ha : a.isNull = true) (hb : b.isNull = true) :
    relation a b = .equal :=
  relation_of_relateKeys (relateKeys_null_null ha hb)

/-- Null is below every value. -/
theorem relation_null_value (ha : a.isNull = true) (hb : b.isNull = false) :
    relation a b = .less :=
  relation_of_relateKeys (relateKeys_null_value ha hb)

/-- Every value is above null. -/
theorem relation_value_null (ha : a.isNull = false) (hb : b.isNull = true) :
    relation a b = .greater :=
  relation_of_relateKeys (relateKeys_value_null ha hb)

/-- Null may be added to values that are ordered. -/
theorem orders_of_present (h : TotallyOrdered (vs.filter fun v => !v.isNull)) :
    TotallyOrdered vs := by
  have hmem {v : Value} (hv : v ∈ vs) (hn : v.isNull = false) :
      v ∈ vs.filter fun v => !v.isNull := List.mem_filter.mpr ⟨hv, by rw [hn]; rfl⟩
  -- Each law is one of the given values as soon as neither side is
  -- null, and one of nulls otherwise.
  refine ⟨fun a ha b hb => ?_, fun a ha b hb => ?_, fun a ha b hb => ?_,
    fun a ha b hb c hc hab hbc => ?_⟩
  · cases hna : a.isNull <;> cases hnb : b.isNull
    · exact h.comparable a (hmem ha hna) b (hmem hb hnb)
    · rw [relateKeys_value_null hna hnb]
      rfl
    · rw [relateKeys_null_value hna hnb]
      rfl
    · rw [relateKeys_null_null hna hnb]
      rfl
  · cases hna : a.isNull <;> cases hnb : b.isNull
    · exact h.orders.compares a (hmem ha hna) b (hmem hb hnb)
    · rw [relation_value_null hna hnb]
      decide
    · rw [relation_null_value hna hnb]
      decide
    · rw [relation_null_null hna hnb]
      decide
  · cases hna : a.isNull <;> cases hnb : b.isNull
    · exact h.orders.flips a (hmem ha hna) b (hmem hb hnb)
    · rw [relation_value_null hna hnb, relation_null_value hnb hna]
      rfl
    · rw [relation_null_value hna hnb, relation_value_null hnb hna]
      rfl
    · rw [relation_null_null hna hnb, relation_null_null hnb hna]
      rfl
  · -- Null can only be reached from null, and nothing is below it.
    cases hna : a.isNull with
    | true =>
        cases hnc : c.isNull with
        | true => rw [relation_null_null hna hnc]; decide
        | false => rw [relation_null_value hna hnc]; decide
    | false =>
        cases hnb : b.isNull with
        | true => exact absurd (relation_value_null hna hnb) hab
        | false =>
            cases hnc : c.isNull with
            | true => exact absurd (relation_value_null hnb hnc) hbc
            | false => exact h.orders.trans a (hmem ha hna) b (hmem hb hnb) c (hmem hc hnc) hab hbc

/-- Values that can all be compared pass the check for it. -/
theorem checkComparable_eq_ok (h : ∀ a ∈ vs, ∀ b ∈ vs, (relateKeys a b).isOk = true) :
    checkComparable vs = .ok () := by
  have hrow (a : Value) (bs : List Value) (hbs : ∀ b ∈ bs, (relateKeys a b).isOk = true) :
      (bs.forM fun b => discard (relateKeys a b)) = .ok () := by
    -- Induction on the row of one value, then on the rows.
    induction bs with
    | nil => rfl
    | cons b bs ih =>
        have hb := hbs b List.mem_cons_self
        show (discard (relateKeys a b) >>= fun _ => bs.forM fun b => discard (relateKeys a b)) = _
        rw [ih fun c hc => hbs c (List.mem_cons_of_mem b hc)]
        cases hr : relateKeys a b with
        | error f =>
            rw [hr] at hb
            exact absurd hb Bool.false_ne_true
        | ok r => rfl
  induction vs with
  | nil => rfl
  | cons a as ih =>
      rw [checkComparable,
        hrow a as fun b hb => h a List.mem_cons_self b (List.mem_cons_of_mem a hb)]
      exact ih fun b hb c hc => h b (List.mem_cons_of_mem a hb) c (List.mem_cons_of_mem a hc)

end Values

/-- An order turned round is an order. -/
theorem Orders.flip {rel : α → α → Relation} {xs : List α} (h : Orders rel xs) :
    Orders (fun a b => (rel a b).flip) xs := by
  have hback {a b : α} (ha : a ∈ xs) (hb : b ∈ xs) : (rel a b).flip = rel b a :=
    (h.flips a ha b hb).symm
  refine ⟨fun a ha b hb => ?_, fun a ha b hb => ?_, fun a ha b hb c hc hab hbc => ?_⟩
  · rw [hback ha hb]
    exact h.compares b hb a ha
  · exact congrArg Relation.flip (h.flips a ha b hb)
  · rw [hback ha hb] at hab
    rw [hback hb hc] at hbc
    rw [hback ha hc]
    exact h.trans c hc b hb a ha hbc hab

/-- A key orders the values that are ordered, whatever its direction. -/
theorem SortKey.orders_relation {vs : List Value} (k : SortKey) (h : Orders Criteria.relation vs) :
    Orders k.relation vs := by
  have hrel : k.relation = if k.isDescending then fun a b => (Criteria.relation a b).flip
      else Criteria.relation := by
    funext a b
    rw [SortKey.relation]
    split <;> rfl
  rw [hrel]
  split
  · exact h.flip
  · exact h

section Sorting

variable {s : Schema} {view : α → Value} {items : List α}

theorem SortKey.keyOf_eq {k : SortKey} {a : α} {v : Value} (h : k.valueOf s (view a) = .ok v) :
    k.keyOf s view a = v := by
  rw [SortKey.keyOf, h]
  rfl

/-- A pass sorts by its key, where its values can be read and compared. -/
theorem sortPass_eq_ok {k : SortKey} (hread : ∀ a ∈ items, ∃ v, k.valueOf s (view a) = .ok v)
    (hcomp : ∀ v ∈ items.map (k.keyOf s view), ∀ w ∈ items.map (k.keyOf s view),
      (relateKeys v w).isOk = true) :
    sortPass s view k items = .ok (items.mergeSort fun a b =>
      k.relation (k.keyOf s view a) (k.keyOf s view b) != .greater) := by
  -- All keys can be read, so the pass sorts pairs of key and item.
  have hkeys : (items.mapM fun a => k.valueOf s (view a)) = .ok (items.map (k.keyOf s view)) := by
    refine mapM_eq_ok_map fun a ha => ?_
    rcases hread a ha with ⟨v, hv⟩
    rw [hv, SortKey.keyOf_eq hv]
  have hzip : (items.map (k.keyOf s view)).zip items =
      items.map fun a => (k.keyOf s view a, a) := by
    conv_lhs => rw [← List.map_id items, List.map_map]
    rw [List.zip_map']
    rfl
  -- Sorting the pairs and dropping the keys is sorting the items by their keys.
  have hsort : ((items.map fun a => (k.keyOf s view a, a)).mergeSort fun a b =>
      k.mayPrecede a.1 b.1).map Prod.snd = items.mergeSort fun a b =>
        k.relation (k.keyOf s view a) (k.keyOf s view b) != .greater := by
    rw [← List.map_mergeSort (r := fun a b =>
      k.relation (k.keyOf s view a) (k.keyOf s view b) != .greater) fun _ _ _ _ => rfl]
    rw [List.map_map]
    exact List.map_id _
  rw [sortPass, hkeys, ← hsort, ← hzip]
  show (checkComparable (items.map (k.keyOf s view)) >>= _) = _
  rw [checkComparable_eq_ok hcomp]
  rfl

/-- Several keys order the results that each of them orders. -/
theorem orders_relationByAll {ks : List SortKey}
    (h : ∀ k ∈ ks, Orders Criteria.relation (items.map (k.keyOf s view))) :
    Orders (relationByAll s view ks) items := by
  induction ks with
  | nil => exact ⟨fun _ _ _ _ => by simp only [relationByAll]; decide, fun _ _ _ _ => rfl,
      fun _ _ _ _ _ _ _ _ => by simp only [relationByAll]; decide⟩
  | cons k ks ih =>
      have hk := (k.orders_relation (h k List.mem_cons_self)).comap
      exact hk.thenBy (ih fun j hj => h j (List.mem_cons_of_mem k hj))

/-- All passes together sort by all keys: each pass puts its key in front of those
    that were sorted by before. -/
theorem isStableSort_sortBy {ks : List SortKey}
    (hread : ∀ k ∈ ks, ∀ a ∈ items, ∃ v, k.valueOf s (view a) = .ok v)
    (hord : ∀ k ∈ ks, TotallyOrdered (items.map (k.keyOf s view))) :
    ∃ sorted, sortBy s view ks items = .ok sorted ∧
      IsStableSort (relationByAll s view ks) items sorted := by
  -- Induction on the keys: the last one is sorted by first, and each further pass is stable.
  induction ks with
  | nil =>
      refine ⟨items, rfl, .refl _, ?_, fun _ _ => rfl⟩
      exact List.pairwise_of_forall fun _ _ => Or.inr rfl
  | cons k ks ih =>
      rcases ih (fun j hj => hread j (List.mem_cons_of_mem k hj))
        (fun j hj => hord j (List.mem_cons_of_mem k hj)) with ⟨later, hlater, hstable⟩
      -- A pass only permutes, so the conditions on the keys carry over to what it left.
      have hmem {a : α} : a ∈ later ↔ a ∈ items := hstable.perm.mem_iff
      have hkeys {v : Value} : v ∈ later.map (k.keyOf s view) ↔ v ∈ items.map (k.keyOf s view) :=
        (hstable.perm.map _).mem_iff
      have hk := hord k List.mem_cons_self
      have hpass := sortPass_eq_ok (fun a ha => hread k List.mem_cons_self a (hmem.mp ha))
        (fun v hv w hw => hk.comparable v (hkeys.mp hv) w (hkeys.mp hw))
      have horder := (k.orders_relation hk.orders).comap
      refine ⟨_, by rw [sortBy, hlater]; exact hpass, ?_⟩
      exact hstable.thenBy (isStableSort_mergeSort (horder.mono fun a ha => hmem.mp ha)) horder

/-- Selecting keeps the accepted results, where no specification fails. -/
theorem selectBy_eq_ok {specs : List Spec}
    (h : ∀ a ∈ items, ∃ b, Spec.acceptsAll s specs (view a) = .ok b) :
    selectBy s view specs items = .ok (accepted s view specs items) := by
  induction items with
  | nil => rfl
  | cons a as ih =>
      rcases h a List.mem_cons_self with ⟨b, hb⟩
      rw [selectBy, hb, ih fun x hx => h x (List.mem_cons_of_mem a hx)]
      conv_rhs => rw [accepted, List.filter_cons, hb]
      cases b <;> rfl

end Sorting

/-- What a search returns before a page is cut out of it. If no specification fails
    on a result, every sort key can be read from the accepted results, and the
    values of each key that are not null are ordered, then it is the stable sort of
    the accepted results by all keys, and no other list is. -/
theorem apply_isStableSort (r : ResultShape) (s : Schema) (view : α → Value) (specs : List Spec)
    (items : List α)
    (hspecs : ∀ a ∈ items, ∃ b, Spec.acceptsAll s specs (view a) = .ok b)
    (hread : ∀ k ∈ r.orders, ∀ a ∈ accepted s view specs items,
      ∃ v, k.valueOf s (view a) = .ok v)
    (hord : ∀ k ∈ r.orders, TotallyOrdered
      (((accepted s view specs items).map (k.keyOf s view)).filter fun v => !v.isNull)) :
    ∃ sorted, r.apply s view specs items = .ok (r.page sorted) ∧
      IsStableSort (relationByAll s view r.orders) (accepted s view specs items) sorted ∧
      ∀ other, IsStableSort (relationByAll s view r.orders) (accepted s view specs items) other →
        other = sorted := by
  -- Nulls are added to the order of the values, below them all.
  have htotal : ∀ k ∈ r.orders,
      TotallyOrdered ((accepted s view specs items).map (k.keyOf s view)) :=
    fun k hk => orders_of_present (hord k hk)
  rcases isStableSort_sortBy hread htotal with ⟨sorted, hsorted, hstable⟩
  refine ⟨sorted, ?_, hstable, fun other hother => ?_⟩
  · rw [ResultShape.apply, selectBy_eq_ok hspecs]
    show (passing (unworded (sortBy s view r.orders _)) >>= _) = _
    rw [hsorted]
    rfl
  · exact hother.unique (orders_relationByAll fun k hk => (htotal k hk).orders) hstable

/-- A numbered row with a label and a rank, which may be missing. -/
def rankedRow (p : Nat × String × Option Int) : Value :=
  .entity "Row" .record [("label", .text p.2.1), ("rank", p.2.2.elim .null .int)] []

/-- The highest rank first, and rows of one rank by their labels. -/
def byRank : ResultShape :=
  { orders := [⟨"rank", .descending, none⟩, ⟨"label", .ascending, none⟩] }

/-- Rows 1 and 4 differ in neither key and stay in order; the row without a rank
    comes last. -/
theorem apply_byRank :
    byRank.apply ⟨[], [], .first⟩ rankedRow [.always]
        [(1, "b", some 2), (2, "c", none), (3, "a", some 2), (4, "b", some 2)] =
      .ok [(3, "a", some 2), (1, "b", some 2), (4, "b", some 2), (2, "c", none)] := by
  have hread (k : SortKey) (hk : k ∈ byRank.orders) (p : Nat × String × Option Int) :
      ∃ v, k.valueOf ⟨[], [], .first⟩ (rankedRow p) = .ok v := by
    -- Two keys with different directions, one of which is null in places.
    simp only [byRank, List.mem_cons, List.not_mem_nil, or_false] at hk
    rcases hk with rfl | rfl <;> exact ⟨_, rfl⟩
  rcases apply_isStableSort byRank ⟨[], [], .first⟩ rankedRow [.always]
    [(1, "b", some 2), (2, "c", none), (3, "a", some 2), (4, "b", some 2)]
    (fun p _ => ⟨true, rfl⟩) (fun k hk p _ => hread k hk p)
    (by
      simp only [byRank, List.forall_mem_cons]
      exact ⟨⟨by decide, by decide, by decide, by decide⟩,
        ⟨by decide, by decide, by decide, by decide⟩, fun k hk => absurd hk List.not_mem_nil⟩)
    with ⟨sorted, hsorted, -, hunique⟩
  rw [hsorted, ← hunique [(3, "a", some 2), (1, "b", some 2), (4, "b", some 2), (2, "c", none)]
    ⟨by decide, by decide, by decide⟩]
  rfl

end Criteria
