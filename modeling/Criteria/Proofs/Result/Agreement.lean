import Criteria.Catalog.Candidates
import Criteria.Proofs.Coercion.Settled
import Criteria.Proofs.Compile.Partition
import Criteria.Proofs.Result.Kinds
import Criteria.Result.Search

/-!
# Sorting and Comparing

Results that are sorted by a field stand in the order in which criteria compare it.

The two ways to an order are different. A sort compares what it reads as it is. A
criterion coerces its operand to the type of the field, and before it compares, it aligns
the operand with the value of the field. So a comparison hardly ever fails, while a sort
fails where the values are not of one kind: dates beside moments, or moments with an
offset beside moments without one. This is all that can get in its way
(`Context.findAll_ascending`).

Where the sort succeeds, the two agree. What is read of a candidate comes back from being
coerced to the type that it is of, or the number that it stands for does
(`Coercer.exists_coerceTo_own`), aligning values of one kind changes nothing, and both
take members of an enumeration by their ranks. There is one exception. A text field may
hold members that stand for texts. Criteria compare them as texts, but a sort goes by
their ranks here too.

## Main definitions

* `NamedType.isSorted`: The types whose values can be sorted.
* `Coercer.Keeps`: Converters that leave values of their type alone.
* `Accessor.ReadsOneKind`: Nothing in the way of a sort.
* `Criterion.lessThan`: What stands below a value.

## Theorems

* `Coercer.exists_coerceTo_own`: Coercing a value to its own type.
* `Context.verdict_lessThan`: A comparison takes values of one kind in their order.
* `Context.findAll_ascending`: When a query that sorts finds something, and how its
  results stand.
-/

namespace Criteria

/-- The values of the type can be sorted. -/
def NamedType.isSorted : NamedType → Bool
  | bool | int | text | date | moment | duration | uuid | enum _ => true
  | _ => false

/-- The kind that all values of the type are of; there is none for texts, which may be
    members, nor for dates, which may be moments, nor for moments. -/
def NamedType.sortKind? : NamedType → Option SortKind
  | bool | int | enum _ => some .number
  | duration => some .duration
  | uuid => some .identifier
  | _ => none

/-- A converter of the type leaves its values alone. -/
def Coercer.Keeps (c : Coercer) (s : Schema) (t : NamedType) : Prop :=
  ∀ f, c.find? s t = some f → ∀ v, s.HasType v t → f v = .ok v

/-- The values that are read, null apart, are of one kind. -/
def Accessor.ReadsOneKind (a : Accessor) (s : Schema) (vs : List Value) : Prop :=
  ∃ k : SortKind, ∀ v ∈ vs, ∀ y, a.read s v = .ok y → y.isNull = false → y.sortKind? = some k

/-- The value of the field is less than the operand. -/
def Criterion.lessThan (path : String) (operand : Value) : Criterion where
  field := some path
  op := .less
  operand := .literal operand

section Values

variable {s : Schema} {t : NamedType} {v : Value} {k : SortKind} {scale : Scale}

theorem NamedType.isPlain_of_isSorted (ht : t.isSorted = true) : t.isPlain = true := by
  cases t with
  | bool | int | text | date | moment | duration | uuid | enum => rfl
  | _ => cases ht

/-- Every value of such a type is of a kind. -/
theorem Schema.HasType.exists_sortKind (h : s.HasType v t) (ht : t.isSorted = true) :
    ∃ k, v.sortKind? = some k := by
  rcases s.isInstance_cases h.isInstance with
    rfl | rfl | ⟨b, rfl, -⟩ | ⟨m, rfl, -⟩ | ⟨m, e, rfl, -⟩ | ⟨name, rfl⟩
  · cases v with
    | bool | int | text | date | moment | duration | uuid | member => exact ⟨_, rfl⟩
    | set frozen => cases frozen <;> cases ht
    | _ => cases ht
  · cases ht
  · exact ⟨_, rfl⟩
  · exact ⟨_, rfl⟩
  · exact ⟨_, rfl⟩
  · cases ht

/-- Where all values of the type are of one kind this is the kind of each. -/
theorem Schema.HasType.sortKind?_eq (h : s.HasType v t) (hk : t.sortKind? = some k) :
    v.sortKind? = some k := by
  -- By the kind of the value: outside the enumerations the sort kind is read off the type itself.
  rcases s.isInstance_cases h.isInstance with
    rfl | rfl | ⟨b, rfl, rfl⟩ | ⟨m, rfl, rfl⟩ | ⟨m, e, rfl, -, hbase⟩ | ⟨name, rfl⟩
  · cases v with
    | bool | int | duration | uuid | member => exact hk
    | set frozen => cases frozen <;> cases hk
    | _ => cases hk
  · cases hk
  · exact hk
  · cases hk
  · cases hkind : e.kind <;> rw [hkind] at hbase
    · exact absurd hbase List.not_mem_nil
    · rw [List.mem_singleton.mp hbase] at hk
      exact hk
    · rw [List.mem_singleton.mp hbase] at hk
      cases hk
    · rw [List.mem_singleton.mp hbase] at hk
      cases hk
  · cases hk

/-- What is on the scale of numbers and of a kind is a number. A member there has the
    number that it stands for as its rank. -/
theorem Scale.number?_eq (h : Scale.number.Has v) (hk : v.sortKind? = some k) :
    k = .number ∧ v.number? = some (.ofInt v.sortNumber) := by
  rcases h with ⟨-, d, hd⟩
  cases v with
  | bool | int => exact ⟨(Option.some.inj hk).symm, rfl⟩
  | member m =>
      rcases m with ⟨type, kind, name, ordinal, value⟩
      cases kind with
      | integral =>
          cases value with
          | int | bool => exact ⟨(Option.some.inj hk).symm, rfl⟩
          | _ => cases hd
      | _ => cases hd
  | float | decimal => cases hk
  | _ => cases hd

/-- On the other scales nothing is replaced by its rank, texts being texts. -/
theorem Scale.ordinal_eq (h : scale.Has v) (hscale : scale ≠ .number)
    (htext : scale = .text → v.sortKind? = some .text) : v.ordinal = v := by
  cases scale with
  | number => exact absurd rfl hscale
  | text =>
      rcases SortKind.has_of_sortKind (htext rfl) with ⟨w, rfl⟩
      rfl
  | calendar => rcases h with ⟨d, rfl⟩ | ⟨m, rfl⟩ <;> rfl
  | duration | identifier =>
      rcases h with ⟨x, rfl⟩
      rfl

end Values

namespace Coercer

variable {c : Coercer} {s : Schema} {t : NamedType} {v : Value} {k : SortKind}

/-- Truths and members that stand for whole numbers become these. -/
theorem coerceTo_int (hk : v.sortKind? = some .number)
    (h : v.number? = some (.ofInt v.sortNumber)) :
    coerceTo [] s .int v = .ok (.int v.sortNumber) := by
  -- The value is the number that it is sorted by, so truncating it changes nothing.
  have hwhole : Schema.wholeOfNumber v = .ok v.sortNumber := by
    rw [Schema.wholeOfNumber.eq_def]
    split
    · cases hk
    · rw [h]
      show expected (.failed .overflow) (Decimal.ofInt v.sortNumber).truncate? = _
      rw [Decimal.truncate?_ofInt]
      rfl
  have hconvert : convert [] s .int v = .ok (.int v.sortNumber) := by
    rw [convert_nil, isNumber, h]
    show passing ((Schema.wholeOfNumber v).map Value.int) = _
    rw [hwhole]
    rfl
  -- A value with a sort kind is no collection, so the coercion does not descend.
  have helements : v.elements? = none := by
    cases v with
    | list | tuple | set => cases hk
    | _ => rfl
  rw [coerceTo_eq [] (isNull_of_sortKind hk) helements, hconvert]
  rfl

/-- Coercing a value to a type that it is of gives the value back, or the number that it
    is sorted by. -/
theorem exists_coerceTo_own (hs : s.FitsEnums) (hkeeps : c.Keeps s t) (ht : t.isSorted = true)
    (h : s.HasType v t) (hk : v.sortKind? = some k) (htext : t = .text → k = .text) :
    ∃ x, c.coerceTo s t v = .ok x ∧ (x = v ∨ x = .int v.sortNumber ∧ t = .int ∧ k = .number) := by
  have hnull := isNull_of_sortKind hk
  have helements : v.elements? = none := by
    cases v with
    | list | tuple | set => cases hk
    | _ => rfl
  -- A converter of the caller's own keeps the values of its type by `hkeeps`; without one the
  -- library's coercion is followed, kind by kind.
  cases hfind : c.find? s t with
  | some f =>
      refine ⟨v, ?_, .inl rfl⟩
      rw [coerceTo_eq c hnull helements, convert, hfind]
      dsimp only
      rw [hkeeps f hfind v h]
      rfl
  | none =>
      rw [coerceTo_of_find?_eq_none hfind hnull helements]
      rcases s.isInstance_cases h.isInstance with
        rfl | rfl | ⟨b, rfl, rfl⟩ | ⟨m, rfl, rfl⟩ | ⟨m, e, rfl, he, hbase⟩ | ⟨name, rfl⟩
      · cases v with
        | bool b => exact ⟨_, (settles_bool s b).coerceTo, .inl rfl⟩
        | int n => exact ⟨_, (settles_int s n).coerceTo, .inl rfl⟩
        | text w => exact ⟨_, (settles_text s w).coerceTo, .inl rfl⟩
        | date | moment | duration | uuid =>
            exact ⟨_, (settles_of_isInstance rfl rfl rfl rfl h.isInstance).coerceTo, .inl rfl⟩
        | member m =>
            rcases h.genuine with ⟨e, he, -⟩
            exact ⟨_, (settles_member he).coerceTo, .inl rfl⟩
        | _ => cases hk
      · cases ht
      · exact ⟨_, coerceTo_int rfl rfl, .inr ⟨rfl, rfl, (Option.some.inj hk).symm⟩⟩
      · exact ⟨_, (settles_of_isInstance rfl rfl rfl rfl h.isInstance).coerceTo, .inl rfl⟩
      · -- The enumeration extends whole numbers, or texts, which are no members here.
        cases hkind : e.kind <;> rw [hkind] at hbase
        · exact absurd hbase List.not_mem_nil
        · obtain rfl := List.mem_singleton.mp hbase
          have hnumber := Scale.number?_eq (h.has hs rfl) hk
          -- A member of a numeric enumeration is turned into its number.
          exact ⟨_, coerceTo_int rfl hnumber.2, .inr ⟨rfl, rfl, hnumber.1⟩⟩
        · rw [htext (List.mem_singleton.mp hbase)] at hk
          cases hk
        · rw [htext (List.mem_singleton.mp hbase)] at hk
          cases hk
      · cases ht

end Coercer

namespace Context

variable {c : Context} {entity : TypeExpr} {a : Accessor} {t : NamedType} {v w x y : Value}
  {path : String} {k : SortKind}

/-- What two values of one kind are ordered by stands in the order of the values. -/
theorem relate_orderedAs (hs : c.schema.FitsEnums) (hvalue : a.valueType = .named t)
    (ht : t.isSorted = true) (hy : c.schema.HasType y t) (hx : c.schema.HasType x t)
    (hky : y.sortKind? = some k) (hkx : x.sortKind? = some k) (htext : t = .text → k = .text)
    (hpy : y.isProper = true) (hpx : x.isProper = true) :
    Value.relate (Value.align (orderedAs a y) (orderedAs a x)).1
      (Value.align (orderedAs a y) (orderedAs a x)).2 =
        .ok (.ofOrdering (Value.sortOrder y x)) := by
  have hordered := SortKind.ordered (SortKind.has_of_sortKind hky) (SortKind.has_of_sortKind hkx)
    hpy hpx
  -- Plain types are compared as they stand, enumerations by their ordinals.
  rcases t.scale_or_enum (NamedType.isPlain_of_isSorted ht) with ⟨scale, hscale⟩ | ⟨name, rfl⟩
  · have hself (z : Value) : orderedAs a z = z := by
      rw [orderedAs, isEnum_eq_false hvalue hscale, if_neg Bool.false_ne_true]
    rw [hself, hself,
      SortKind.align_eq (SortKind.has_of_sortKind hky) (SortKind.has_of_sortKind hkx)]
    -- Numbers agree with the order by their own comparison; on every other
    -- scale the ordinal of a value is the value.
    by_cases hnumber : scale = .number
    · subst hnumber
      rcases Scale.number?_eq (hy.has hs hscale) hky with ⟨rfl, hny⟩
      have hnx := (Scale.number?_eq (hx.has hs hscale) hkx).2
      exact (SortKind.ordered_of_number (SortKind.has_of_sortKind hky)
        (SortKind.has_of_sortKind hkx) hny hnx).relate
    · have hword (h : scale = .text) : k = .text := by
        subst h
        cases t with
        | text => exact htext rfl
        | _ => cases hscale
      rw [Scale.ordinal_eq (hy.has hs hscale) hnumber fun h => hword h ▸ hky,
        Scale.ordinal_eq (hx.has hs hscale) hnumber fun h => hword h ▸ hkx] at hordered
      exact hordered.relate
  · have hordinal (z : Value) : orderedAs a z = z.ordinal := by
      rw [orderedAs, Accessor.isEnum, hvalue]
      rfl
    rw [hordinal, hordinal,
      SortKind.align_eq (SortKind.has_of_sortKind (SortKind.IsKey.of_sortKind hky).kind)
        (SortKind.has_of_sortKind (SortKind.IsKey.of_sortKind hkx).kind)]
    exact hordered.relate

/-- A comparison with a value of the field's type takes values of its kind in their
    order. -/
theorem verdict_lessThan (hc : c.IsStandard) (ha : c.resolve entity path = .ok a)
    (hvalue : a.valueType = .named t) (ht : t.isSorted = true) (hkeeps : c.coercer.Keeps c.schema t)
    (htext : t = .text → k = .text) (hw : c.schema.HasType w t) (hkw : w.sortKind? = some k)
    (hpw : w.isProper = true) (hread : a.read c.schema v = .ok y) (hy : c.schema.HasType y t)
    (hky : y.sortKind? = some k) (hpy : y.isProper = true) :
    c.verdict entity (.lessThan path w) v = .ok (Value.sortOrder y w == .lt) := by
  -- The operand is coerced first, so it may differ from the value that was written down.
  rcases Coercer.exists_coerceTo_own hc.enums hkeeps ht hw hkw htext with ⟨x, hx, hxw⟩
  have hx' : c.coercer.coerce c.schema a.valueType w = .ok x := by
    rw [hvalue]
    exact hx
  -- The operand is the value itself or the number that it is sorted by.
  have hfacts : c.schema.HasType x t ∧ x.sortKind? = some k ∧ x.isProper = true ∧
      Value.sortOrder y x = Value.sortOrder y w := by
    rcases hxw with rfl | ⟨rfl, rfl, rfl⟩
    · exact ⟨hw, hkw, hpw, rfl⟩
    · refine ⟨⟨c.schema.isInstance_ofValue _, trivial⟩, rfl, rfl, ?_⟩
      rw [Value.sortOrder_eq, Value.sortOrder_eq,
        (SortKind.number?_ordinal (SortKind.has_of_sortKind hkw)).2]
      rfl
  rcases hfacts with ⟨hxtype, hkx, hpx, horder⟩
  -- What is left is the evaluation of a direct operator on two values of one kind.
  have hless : Operator.less.isDirect = true := rfl
  refine verdict_of_evaluate (k := .lessThan path w) hc.operators rfl rfl rfl ha hx'
    (isNull_of_sortKind hkx) hread hless (fun h => ?_) fun _ => ⟨?_, fun hnull => ?_⟩
  · rcases h with h | h <;> cases h
  · rw [← horder]
    refine OperatorTable.evaluate_related rfl ?_ ?_
      (relate_orderedAs hc.enums hvalue ht hy hxtype hky hkx htext hpy hpx)
    · rw [isNull_orderedAs, isNull_of_sortKind hky]
    · rw [isNull_orderedAs, isNull_of_sortKind hkx]
  · rw [isNull_of_sortKind hky] at hnull
    cases hnull

end Context

section Sorting

variable {α : Type} {s : Schema} {view : α → Value} {a : Accessor} {items : List α}
  {r : ResultShape}

/-- A page leaves results out, in front and at the end. -/
theorem ResultShape.page_sublist (r : ResultShape) (xs : List α) : (r.page xs).Sublist xs := by
  rw [page, slice]
  refine (List.drop_sublist _ _).trans ?_
  cases r.take.map _ with
  | none => exact List.Sublist.refl xs
  | some n => exact List.take_sublist _ _

/-- What is read of two values is null or of one kind. -/
def Accessor.ReadsAlike (a : Accessor) (s : Schema) (x y : Value) : Prop :=
  ∀ v w, a.read s x = .ok v → a.read s y = .ok w → v.isNull = false → w.isNull = false →
    v.sortKind? = w.sortKind?

theorem Accessor.readsAlike_self (a : Accessor) (s : Schema) (x : Value) : a.ReadsAlike s x x :=
  fun _ _ hv hw _ _ => congrArg Value.sortKind? (Except.ok.inj (hv.symm.trans hw))

theorem Accessor.ReadsAlike.symm {x y : Value} (h : a.ReadsAlike s x y) : a.ReadsAlike s y x :=
  fun v w hv hw hpv hpw => (h w v hw hv hpw hpv).symm

theorem Accessor.ReadsOneKind.readsAlike {vs : List Value} {x y : Value}
    (h : a.ReadsOneKind s vs) (hx : x ∈ vs) (hy : y ∈ vs) : a.ReadsAlike s x y := by
  rcases h with ⟨k, hk⟩
  intro v w hv hw hpv hpw
  rw [hk x hx v hv hpv, hk y hy w hw hpw]

/-- The key that sorts by what an accessor reads, from the least value on. -/
def SortKey.ascending (a : Accessor) : SortKey :=
  ⟨a.path, .ascending, some a⟩

theorem SortKey.keyOf_ascending {x : α} {v : Value} (h : a.read s (view x) = .ok v) :
    (SortKey.ascending a).keyOf s view x = v.ordinal :=
  SortKey.keyOf_eq (map_eq_ok_iff.mpr ⟨v, h, rfl⟩)

/-- With one key there are no further ones to decide. -/
theorem relationByAll_ascending {x y : α} {v w : Value} (hv : a.read s (view x) = .ok v)
    (hw : a.read s (view y) = .ok w) :
    relationByAll s view [SortKey.ascending a] x y = relation v.ordinal w.ordinal := by
  have hkey : (SortKey.ascending a).relation ((SortKey.ascending a).keyOf s view x)
      ((SortKey.ascending a).keyOf s view y) = relation v.ordinal w.ordinal := by
    rw [SortKey.keyOf_ascending hv, SortKey.keyOf_ascending hw]
    rfl
  rw [relationByAll]
  by_cases h : relation v.ordinal w.ordinal = .equal
  · refine Eq.trans (thenBy_of_equal ?_) h.symm
    exact hkey.trans h
  · refine Eq.trans (thenBy_of_ne_equal ?_) hkey
    exact fun hequal => h (hkey.symm.trans hequal)

/-- What the accessor reads of the results is null or of a kind. -/
def Accessor.ReadsKinds (a : Accessor) (s : Schema) (vs : List Value) : Prop :=
  ∀ x ∈ vs, ∃ v, a.read s x = .ok v ∧ v.isProper = true ∧
    (v.isNull = false → ∃ k, v.sortKind? = some k)

theorem Accessor.ReadsKinds.kind {vs : List Value} {x v : Value} (h : a.ReadsKinds s vs)
    (hx : x ∈ vs) (hv : a.read s x = .ok v) :
    v.isProper = true ∧ (v.isNull = false → ∃ k, v.sortKind? = some k) := by
  rcases h x hx with ⟨w, hw, hfacts⟩
  rw [Except.ok.inj (hv.symm.trans hw)]
  exact hfacts

/-- Values that are pairwise of one kind all are. -/
theorem Accessor.ReadsKinds.readsOneKind {vs : List Value} (hread : a.ReadsKinds s vs)
    (h : vs.Pairwise (a.ReadsAlike s)) : a.ReadsOneKind s vs := by
  have hall := List.Pairwise.forall_of_forall_of_flip (fun x _ => a.readsAlike_self s x) h
    (h.imp Accessor.ReadsAlike.symm)
  -- The first value that is not null gives the kind; without one there is none to give.
  by_cases hpresent : ∃ x ∈ vs, ∃ v, a.read s x = .ok v ∧ v.isNull = false
  · rcases hpresent with ⟨x, hx, v, hv, hpv⟩
    rcases (hread.kind hx hv).2 hpv with ⟨k, hk⟩
    refine ⟨k, fun y hy w hw hpw => ?_⟩
    rw [← hall hx hy v w hv hw hpv hpw, hk]
  · exact ⟨.number, fun y hy w hw hpw => absurd ⟨y, hy, w, hw, hpw⟩ hpresent⟩

/-- The values of one kind of some results can be sorted, null among them. -/
theorem totallyOrdered_of_readsOneKind (hread : a.ReadsKinds s (items.map view))
    (h : a.ReadsOneKind s (items.map view)) :
    TotallyOrdered
      ((items.map ((SortKey.ascending a).keyOf s view)).filter fun v => !v.isNull) := by
  rcases h with ⟨k, hk⟩
  refine totallyOrdered_of_sortKind (k := k) fun w hw => ?_
  rcases List.mem_filter.mp hw with ⟨hw, hpresent⟩
  rcases List.mem_map.mp hw with ⟨x, hx, rfl⟩
  rcases hread _ (List.mem_map_of_mem hx) with ⟨v, hv, hproper, -⟩
  rw [SortKey.keyOf_ascending hv, isNull_ordinal, Bool.not_eq_true'] at hpresent
  exact ⟨v, SortKey.keyOf_ascending hv, hk _ (List.mem_map_of_mem hx) v hv hpresent, hproper⟩

/-- What has been sorted is of one kind. -/
theorem readsOneKind_of_sortBy {sorted : List α} (hread : a.ReadsKinds s (items.map view))
    (h : sortBy s view [SortKey.ascending a] items = .ok sorted) :
    a.ReadsOneKind s (items.map view) := by
  -- The one pass of the sort has gone through, so its keys are the computed ones and every pair of
  -- them was found comparable.
  rcases bind_eq_ok_iff.mp h with ⟨same, hsame, hpass⟩
  obtain rfl := Except.ok.inj hsame
  rcases bind_eq_ok_iff.mp hpass with ⟨keys, hkeys, hrest⟩
  rcases bind_eq_ok_iff.mp hrest with ⟨⟨⟩, hcheck, -⟩
  have hmap : (items.mapM fun x => (SortKey.ascending a).valueOf s (view x)) =
      .ok (items.map ((SortKey.ascending a).keyOf s view)) := by
    refine mapM_eq_ok_map fun x hx => ?_
    rcases hread _ (List.mem_map_of_mem hx) with ⟨v, hv, -⟩
    rw [SortKey.keyOf_ascending hv]
    exact map_eq_ok_iff.mpr ⟨v, hv, rfl⟩
  obtain rfl := Except.ok.inj (hkeys.symm.trans hmap)
  refine hread.readsOneKind (List.pairwise_map.mpr ?_)
  refine (List.pairwise_map.mp (pairwise_of_checkComparable hcheck)).imp_of_mem ?_
  -- Two values that are not null could be compared, hence are of one kind.
  intro x y hx hy hxy v w hv hw hpv hpw
  have hfirst := hread.kind (List.mem_map_of_mem hx) hv
  have hsecond := hread.kind (List.mem_map_of_mem hy) hw
  rcases hfirst.2 hpv with ⟨k, hk⟩
  rcases hsecond.2 hpw with ⟨l, hl⟩
  rw [SortKey.keyOf_ascending hv, SortKey.keyOf_ascending hw,
    relateKeys_isOk_iff hk hl hfirst.1 hsecond.1] at hxy
  rw [hk, hl, hxy]

/-- A search that sorts by one key finds something where the values of the key are of one
    kind. -/
theorem ResultShape.exists_apply_ascending {specs : List Spec} (horders : r.orders = [.ascending a])
    (haccepts : ∀ x ∈ items, ∃ b, Spec.acceptsAll s specs (view x) = .ok b)
    (hread : a.ReadsKinds s ((accepted s view specs items).map view))
    (hkind : a.ReadsOneKind s ((accepted s view specs items).map view)) :
    ∃ sorted, r.apply s view specs items = .ok (r.page sorted) ∧
      IsStableSort (relationByAll s view [.ascending a]) (accepted s view specs items) sorted := by
  -- Every key can be read and the keys of one kind are totally ordered: these are the two
  -- conditions of the stable sort.
  have hvalues : ∀ k ∈ r.orders, ∀ x ∈ accepted s view specs items,
      ∃ v, k.valueOf s (view x) = .ok v := by
    rw [horders]
    refine List.forall_mem_singleton.mpr fun x hx => ?_
    rcases hread _ (List.mem_map_of_mem hx) with ⟨v, hv, -⟩
    exact ⟨v.ordinal, map_eq_ok_iff.mpr ⟨v, hv, rfl⟩⟩
  have hordered : ∀ k ∈ r.orders,
      TotallyOrdered ((accepted s view specs items).map (k.keyOf s view)) := by
    rw [horders]
    exact List.forall_mem_singleton.mpr
      (orders_of_present (totallyOrdered_of_readsOneKind hread hkind))
  rcases isStableSort_sortBy hvalues hordered with ⟨sorted, hsorted, hstable⟩
  refine ⟨sorted, ?_, horders ▸ hstable⟩
  rw [apply, selectBy_eq_ok haccepts]
  show (passing (unworded (sortBy s view r.orders _)) >>= _) = _
  rw [hsorted]
  rfl

/-- A search that sorts by one key finds nothing where its values are of several kinds. -/
theorem ResultShape.readsOneKind_of_apply {specs : List Spec} {found : List α}
    (horders : r.orders = [.ascending a])
    (haccepts : ∀ x ∈ items, ∃ b, Spec.acceptsAll s specs (view x) = .ok b)
    (hread : a.ReadsKinds s ((accepted s view specs items).map view))
    (h : r.apply s view specs items = .ok found) :
    a.ReadsOneKind s ((accepted s view specs items).map view) := by
  rw [apply, selectBy_eq_ok haccepts, horders] at h
  rcases bind_eq_ok_iff.mp h with ⟨same, hsame, h⟩
  obtain rfl := Except.ok.inj hsame
  rcases bind_eq_ok_iff.mp h with ⟨sorted, hsorted, -⟩
  exact readsOneKind_of_sortBy hread (unworded_eq_ok_iff.mp (passing_eq_ok_iff.mp hsorted))

end Sorting

namespace Context

variable {α : Type} {c : Context} {entity : TypeExpr} {view : α → Value} {items : List α}
  {q : Query} {further specs : List Spec} {r : ResultShape} {a : Accessor} {t : NamedType}
  {path : String}

/-- A query that orders by a path has one key. -/
theorem orders_of_orderings (ha : c.resolve entity path = .ok a)
    (horderings : q.orderings = [⟨path, .ascending⟩])
    (hshape : ResultShape.ofQuery c.schema entity q = .ok r) : r.orders = [.ascending a] := by
  rcases bind_eq_ok_iff.mp hshape with ⟨orders, horders, hshape⟩
  rcases bind_eq_ok_iff.mp hshape with ⟨includes, -, hshape⟩
  rcases bind_eq_ok_iff.mp hshape with ⟨hierarchy, -, hshape⟩
  have hmade : SortKey.ofOrdering c.schema entity ⟨path, .ascending⟩ = .ok (.ascending a) :=
    bind_eq_ok_iff.mpr ⟨a, mapError_eq_ok_iff.mp ha, rfl⟩
  rw [horderings] at horders
  have hsingle : [⟨path, .ascending⟩].mapM (SortKey.ofOrdering c.schema entity) =
      .ok [.ascending a] :=
    mapM_eq_ok_iff.mpr (.cons hmade .nil)
  rw [← Except.ok.inj hshape]
  exact Except.ok.inj (horders.symm.trans hsingle)

/-- A query that compiles is a search. -/
theorem findAll_eq_apply (hspecs : c.compileQuery entity (some q) further = .ok specs)
    (hshape : ResultShape.ofQuery c.schema entity q = .ok r) (view : α → Value) (items : List α) :
    c.findAll entity view items (some q) further = r.apply c.schema view specs items := by
  rw [findAll, hspecs]
  show ((ResultShape.ofQuery c.schema entity q).mapError Fault.filter >>= _) = _
  rw [hshape]
  rfl

/-- Whatever a field of a sorted type holds is of a kind. -/
theorem readsKinds_of_isCandidate (ha : c.resolve entity path = .ok a)
    (hvalue : a.valueType = .named t) (ht : t.isSorted = true)
    (hitems : ∀ x ∈ items, c.schema.IsCandidate (view x) entity) :
    a.ReadsKinds c.schema (items.map view) := by
  intro v hv
  rcases List.mem_map.mp hv with ⟨x, hx, rfl⟩
  rcases exists_read_of_isCandidate ha hvalue (hitems x hx) with ⟨y, hy, hproper, htype⟩
  exact ⟨y, hy, hproper, fun hnull => (htype hnull).exists_sortKind ht⟩

/-- Most types have one kind of values only. -/
theorem readsOneKind_of_isCandidate (ha : c.resolve entity path = .ok a)
    (hvalue : a.valueType = .named t) (hsingle : t.sortKind?.isSome = true)
    (hitems : ∀ x ∈ items, c.schema.IsCandidate (view x) entity) :
    a.ReadsOneKind c.schema (items.map view) := by
  rcases Option.isSome_iff_exists.mp hsingle with ⟨k, hk⟩
  refine ⟨k, fun v hv y hy hnull => ?_⟩
  rcases List.mem_map.mp hv with ⟨x, hx, rfl⟩
  rcases exists_read_of_isCandidate ha hvalue (hitems x hx) with ⟨y', hy', -, htype⟩
  obtain rfl := Except.ok.inj (hy.symm.trans hy')
  exact (htype hnull).sortKind?_eq hk

/-- Of two values that a sort leaves in this order, the first is null if the second one
    is, and the second one is not less than the first. -/
theorem verdict_of_relation (hc : c.IsStandard) (ha : c.resolve entity path = .ok a)
    (hvalue : a.valueType = .named t) (ht : t.isSorted = true) (hkeeps : c.coercer.Keeps c.schema t)
    {x y v w : Value} (hx : c.schema.IsCandidate x entity) (hy : c.schema.IsCandidate y entity)
    (hkind : a.ReadsAlike c.schema x y) (hv : a.read c.schema x = .ok v)
    (hw : a.read c.schema y = .ok w)
    (hrel : relation v.ordinal w.ordinal = .less ∨ relation v.ordinal w.ordinal = .equal) :
    (w.isNull = true → v.isNull = true) ∧
      (v.isNull = false → (t = .text → v.sortKind? = some .text) →
        c.verdict entity (.lessThan path v) y = .ok false) := by
  -- Nulls stand in front, so nothing that has a value precedes one.
  have hnulls (hnw : w.isNull = true) : v.isNull = true := by
    cases hnv : v.isNull with
    | true => rfl
    | false =>
        have habove := relation_value_null ((isNull_ordinal v).trans hnv)
          ((isNull_ordinal w).trans hnw)
        rw [habove] at hrel
        rcases hrel with h | h <;> cases h
  refine ⟨hnulls, fun hnv htext => ?_⟩
  have hnw : w.isNull = false := by
    cases hnw : w.isNull with
    | true => exact absurd ((hnulls hnw).symm.trans hnv) (Ne.symm Bool.false_ne_true)
    | false => rfl
  -- Both values are what the path reads from candidates, so they have the
  -- declared type and share their sort kind.
  rcases exists_read_of_isCandidate ha hvalue hx with ⟨v', hv', hpv, htv⟩
  obtain rfl := Except.ok.inj (hv.symm.trans hv')
  rcases exists_read_of_isCandidate ha hvalue hy with ⟨w', hw', hpw, htw⟩
  obtain rfl := Except.ok.inj (hw.symm.trans hw')
  rcases (htv hnv).exists_sortKind ht with ⟨k, hkv⟩
  have hkw : w.sortKind? = some k := (hkind v w hv hw hnv hnw).symm.trans hkv
  have hword (h : t = .text) : k = .text := Option.some.inj (hkv.symm.trans (htext h))
  -- The verdict of `less` is the order with its sides exchanged, where it is never below.
  have hless : (Value.sortOrder w v == .lt) = false := by
    rw [relation_of_relateKeys (relateKeys_eq_ok hkv hkw hpv hpw)] at hrel
    have hswap : Value.sortOrder w v = (Value.sortOrder v w).swap := Std.OrientedCmp.eq_swap
    rw [hswap]
    cases ho : Value.sortOrder v w with
    | gt =>
        rw [ho] at hrel
        rcases hrel with h | h <;> cases h
    | lt | eq => rfl
  rw [verdict_lessThan hc ha hvalue ht hkeeps hword (htv hnv) hkv hpv hw (htw hnw) hkw hpw, hless]

/-- A query that sorts by one field of candidates, of which no specification fails on one.
    It finds something exactly where the values of the field that are not null are of one
    kind, and so always where the type has one kind only. Of its results those come first
    of which the field is null. And no result stands before another one whose value is less,
    as a criterion tells that has the value of the first as its operand; among members in a
    text field criteria do not go by rank. -/
theorem findAll_ascending (hc : c.IsStandard) (ha : c.resolve entity path = .ok a)
    (hvalue : a.valueType = .named t) (ht : t.isSorted = true) (hkeeps : c.coercer.Keeps c.schema t)
    (hspecs : c.compileQuery entity (some q) further = .ok specs)
    (hshape : ResultShape.ofQuery c.schema entity q = .ok r)
    (horderings : q.orderings = [⟨path, .ascending⟩])
    (hitems : ∀ x ∈ items, c.schema.IsCandidate (view x) entity)
    (haccepts : ∀ x ∈ items, ∃ b, Spec.acceptsAll c.schema specs (view x) = .ok b) :
    (t.sortKind?.isSome = true →
      ∃ found, c.findAll entity view items (some q) further = .ok found) ∧
    ((∃ found, c.findAll entity view items (some q) further = .ok found) ↔
      a.ReadsOneKind c.schema ((accepted c.schema view specs items).map view)) ∧
    ∀ found, c.findAll entity view items (some q) further = .ok found →
      found.Pairwise fun x y => ∀ v w, a.read c.schema (view x) = .ok v →
        a.read c.schema (view y) = .ok w →
          (w.isNull = true → v.isNull = true) ∧
          (v.isNull = false → (t = .text → v.sortKind? = some .text) →
            c.verdict entity (.lessThan path v) (view y) = .ok false) := by
  have horders := orders_of_orderings ha horderings hshape
  have hsearch := findAll_eq_apply (α := α) hspecs hshape
  have hcandidates : ∀ x ∈ accepted c.schema view specs items,
      c.schema.IsCandidate (view x) entity := fun x hx => hitems x (List.mem_of_mem_filter hx)
  have hread := readsKinds_of_isCandidate ha hvalue ht hcandidates
  -- One kind of values is enough for the sort to go through, whatever page is cut.
  have hfinds (hkind : a.ReadsOneKind c.schema ((accepted c.schema view specs items).map view)) :
      ∃ found, c.findAll entity view items (some q) further = .ok found := by
    rcases ResultShape.exists_apply_ascending horders haccepts hread hkind with
      ⟨sorted, hsorted, -⟩
    exact ⟨r.page sorted, (hsearch view items).trans hsorted⟩
  refine ⟨fun hsingle => hfinds (readsOneKind_of_isCandidate ha hvalue hsingle hcandidates),
    ⟨fun ⟨found, hfound⟩ => ?_, hfinds⟩, fun found hfound => ?_⟩
  · rw [hsearch view items] at hfound
    exact ResultShape.readsOneKind_of_apply horders haccepts hread hfound
  · rw [hsearch view items] at hfound
    have hkind := ResultShape.readsOneKind_of_apply horders haccepts hread hfound
    rcases ResultShape.exists_apply_ascending horders haccepts hread hkind with
      ⟨sorted, hsorted, hstable⟩
    obtain rfl := Except.ok.inj (hfound.symm.trans hsorted)
    have hmem {x : α} (hx : x ∈ r.page sorted) : x ∈ accepted c.schema view specs items :=
      hstable.perm.subset ((r.page_sublist sorted).subset hx)
    -- The page is a part of the sorted list, so its results stand as they do there.
    refine (hstable.sorted.sublist (r.page_sublist sorted)).imp_of_mem ?_
    intro x y hx hy hrel v w hv hw
    -- The lexicographic relation of a single key is the relation of its two values.
    rw [relationByAll_ascending hv hw] at hrel
    have halike := hkind.readsAlike (List.mem_map_of_mem (hmem hx)) (List.mem_map_of_mem (hmem hy))
    exact verdict_of_relation hc ha hvalue ht hkeeps (hcandidates x (hmem hx))
      (hcandidates y (hmem hy)) halike hv hw hrel

section Shifts

/-- All shifts, those that start first in front. -/
def byStart : Query where
  orderings := [⟨"starts_at", .ascending⟩]

/-- The start of a shift. -/
def startOfShift : Accessor where
  entity := Catalog.entityNamed "Shift"
  path := "starts_at"
  attributes := ["starts_at"]
  declared := .named .moment
  valueType := .named .moment
  nullable := false
  element := none

/-- Noon on a day, on a clock of known or unknown offset. -/
def noon (offset : Option Offset) : Moment :=
  ⟨Catalog.dateAt 2020 1 31, .ofMicros (12 * 3600 * secondMicros), offset⟩

theorem resolve_startOfShift :
    ofShifts.resolve (Catalog.entityNamed "Shift") "starts_at" = .ok startOfShift := rfl

/-- Two shifts on clocks of unknown offset. -/
theorem findAll_ascending_byStart :
    ∃ found, ofShifts.findAll (Catalog.entityNamed "Shift") id [lateShift, shiftAt (noon none)]
        (some byStart) [] = .ok found ∧
      found.Pairwise fun x y => ∀ v w, startOfShift.read ofShifts.schema x = .ok v →
        startOfShift.read ofShifts.schema y = .ok w → v.isNull = false →
          ofShifts.verdict (Catalog.entityNamed "Shift") (.lessThan "starts_at" v) y =
            .ok false := by
  have hkeeps : Coercer.Keeps [] ofShifts.schema .moment := fun f hf => by
    rw [Coercer.find?_nil] at hf
    cases hf
  have hitems : ∀ x ∈ [lateShift, shiftAt (noon none)],
      ofShifts.schema.IsCandidate (id x) (Catalog.entityNamed "Shift") :=
    List.forall_mem_cons.mpr ⟨isCandidate_lateShift,
      List.forall_mem_singleton.mpr (isCandidate_shiftAt rfl)⟩
  -- No filters and no further specifications: everything is accepted.
  have hspecs : ofShifts.compileQuery (Catalog.entityNamed "Shift") (some byStart) [] = .ok [] :=
    rfl
  have hsearch := findAll_ascending isStandard_ofShifts resolve_startOfShift rfl rfl hkeeps hspecs
    rfl rfl hitems fun _ _ => ⟨true, rfl⟩
  -- All starts are naive moments, so they are of one kind.
  have hkind : startOfShift.ReadsOneKind ofShifts.schema
      ((accepted ofShifts.schema id [] [lateShift, shiftAt (noon none)]).map id) := by
    refine ⟨.wall, ?_⟩
    show ∀ v ∈ [lateShift, shiftAt (noon none)], ∀ y, _
    refine List.forall_mem_cons.mpr ⟨fun y hy _ => ?_, List.forall_mem_singleton.mpr
      fun y hy _ => ?_⟩
    · rw [← Except.ok.inj hy]
      rfl
    · rw [← Except.ok.inj hy]
      rfl
  rcases hsearch.2.1.mpr hkind with ⟨found, hfound⟩
  refine ⟨found, hfound, (hsearch.2.2 found hfound).imp fun hpair v w hv hw hnull => ?_⟩
  exact (hpair v w hv hw).2 hnull nofun

/-- Two shifts that conform to their type, one with an offset and one without, cannot be
    sorted by their start. -/
theorem not_findAll_ascending_mixedOffsets :
    (∀ x ∈ [lateShift, shiftAt (noon (some .utc))],
      ofShifts.schema.IsCandidate x (Catalog.entityNamed "Shift")) ∧
    ¬ ∃ found, ofShifts.findAll (Catalog.entityNamed "Shift") id
      [lateShift, shiftAt (noon (some .utc))] (some byStart) [] = .ok found := by
  have hfails : (ofShifts.findAll (Catalog.entityNamed "Shift") id
      [lateShift, shiftAt (noon (some .utc))] (some byStart) []).isOk = false := by
    decide +kernel
  refine ⟨List.forall_mem_cons.mpr ⟨isCandidate_lateShift,
    List.forall_mem_singleton.mpr (isCandidate_shiftAt rfl)⟩, fun ⟨found, hfound⟩ => ?_⟩
  rw [hfound] at hfails
  cases hfails

end Shifts

end Context

end Criteria
