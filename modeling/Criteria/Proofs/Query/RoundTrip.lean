import Criteria.Proofs.Number.Digits
import Criteria.Proofs.Query.Criterion
import Criteria.Proofs.Query.Merge
import Criteria.Proofs.Wire.Text

/-!
# Writing and Reading Queries

A query that was read from a payload is written, and what is written is read as
the same query, as a table and as a text.

Reading is not writing turned around. A payload may name members in two ways,
leave out what has a default, give numbers as texts and truths as words, repeat
an included path, or hold members that nothing looks for; all of this is gone
once the payload is read. What is left is a settled query, and settled queries
are what the writer and the reader agree about.

Whether results are tracked is written whether or not it was given, so the query
that is read again always says so itself. Nothing else changes.

## Main definitions

* `Query.NestedHaveFields`: Operands of quantifiers that are criteria have
  fields, at any depth.
* `Query.IsSettled`: Numbers can be written in digits that are read, included
  paths are distinct, and criteria are settled.
* `Query.MembersFit`: Every member of a query fits.
* `Query.wireMembers`: The members that a query is written with.

## Theorems

* `natAbs_lt_of_int?`: A whole number that is read from a payload is not too long
  to be read again.
* `Query.fit_eq_fits_iff`: A query fits when its members do.
* `Query.isSettled_of_fit`: What is read from a payload is settled.
* `Query.ofPayload_eq_ok_iff`: A payload stands for a query when its members fit.
* `Query.ofPayload_wireMembers`: A query is read from what is written for it.
* `Query.IsSettled.exists_wire_eq_ok`: A settled query is written and read again.
* `Query.ofPayload_wire`: A query that is read from a payload is read again from
  its table and from its text.
-/

namespace Criteria

open Fitted

section WholeNumbers

/-- A whole number that is read from a payload is not too long to be read
    again. -/
theorem natAbs_lt_of_int? {v : Value} {n : Int} (hv : v.IsJson) (h : Lenient.int? v = some n) :
    n.natAbs < 10 ^ maxDigits := by
  cases hv with
  | int m hm =>
      rw [← Option.some.inj h]
      exact hm
  | bool b =>
      rw [← Option.some.inj h]
      have hb : b.toInt.natAbs < 10 ^ 1 := by cases b <;> decide
      exact lt_pow_maxDigits hb (by decide)
  | float x => exact Lenient.natAbs_lt_of_intOfFloat? h
  | text s =>
      simp only [Lenient.int?, Value.text?, Option.bind_some] at h
      exact Lenient.natAbs_lt_of_intOfText? h
  | _ => simp only [Lenient.int?, Value.table, Value.text?, Option.bind_none, reduceCtorEq] at h

end WholeNumbers

section Orderings

/-- A direction is read from its wire form. -/
theorem Direction.find?_wire (d : Direction) : Direction.vocabulary.find? d.wire = some d := by
  cases d <;> decide +kernel

/-- Orderings are written as payloads. -/
theorem OrderBy.isJson_wire (o : OrderBy) : o.wire.IsJson := by
  refine .table _ (by simp) ?_
  intro e he
  simp only [List.mem_cons, List.not_mem_nil, or_false] at he
  rcases he with rfl | rfl
  · exact .text o.field
  · exact .text o.direction.wire

/-- Orderings are read from their wire form. -/
theorem OrderBy.fit_wire (o : OrderBy) : OrderBy.fit o.wire = fits o := by
  rcases membersOf_present [("field", some (.text o.field)),
    ("direction", some (.text o.direction.wire))] (by simp) (by simp; decide) with
    ⟨ms, hms, hlookup⟩
  refine andThen_eq_fits_iff.mpr ⟨ms, hms, seq_eq_fits_iff.mpr ⟨_, o.direction,
    map_eq_fits_iff.mpr ⟨o.field, ?_, rfl⟩, ?_, rfl⟩⟩
  · rw [Members.fit_of_lookup (hlookup "field")]
    rfl
  · rw [Members.fit_of_lookup (hlookup "direction"), beneath_eq_fits_iff, fitWord, Value.text?,
      ofOption_eq_fits_iff]
    exact o.direction.find?_wire

end Orderings

namespace Query

/-- Operands of quantifiers that are criteria have fields, at any depth. -/
def NestedHaveFields (q : Query) : Prop :=
  ∀ c ∈ q.allCriteria, c.op.isQuantifier = true → ∀ n, c.operand = .nested n → n.field ≠ none

/-- Numbers can be written in digits that are read, included paths are distinct,
    and criteria are settled. -/
structure IsSettled (q : Query) : Prop where
  page : q.page.natAbs < 10 ^ maxDigits
  pageSize : q.pageSize.natAbs < 10 ^ maxDigits
  maxDepth : q.maxDepth.natAbs < 10 ^ maxDigits
  includes : q.includes.Nodup
  filters : ∀ f ∈ q.filters, f.IsSettled

section Reading

/-- Every member of a query fits; whether results are tracked and which paths are
    included fits as what they come from. -/
structure MembersFit (ms : Members) (tracking : Option Bool) (paths : List String) (q : Query) :
    Prop where
  page : ms.fit "page" "page" (fits firstPage) (fitInt firstPage) = fits q.page
  pageSize : ms.fit "pageSize" "page_size" (fits standardPageSize) (fitInt standardPageSize) =
    fits q.pageSize
  noTracking : ms.fit "noTracking" "no_tracking" (fits none)
    (fun v => some <$> ofOption (Lenient.bool? v)) = fits tracking
  orderings : ms.fit "orderings" "orderings" (fits []) (fitList OrderBy.fit) = fits q.orderings
  filters : ms.fit "filters" "filters" (fits []) (fitList Criterion.fit) = fits q.filters
  includes : ms.fit "includes" "includes" (fits []) (fitList fitText) = fits paths
  hierarchy : ms.fit "hierarchy" "hierarchy" (fits none) fitText? = fits q.hierarchy
  maxDepth : ms.fit "hierarchyMaxDepth" "hierarchy_max_depth" (fits standardDepth)
    (fitInt standardDepth) = fits q.maxDepth
  noTracking_eq : q.noTracking = tracking.getD true
  trackingGiven_eq : q.trackingGiven = tracking.isSome
  includes_eq : q.includes = paths.foldl addText []

/-- A query fits when its members do. -/
theorem fit_eq_fits_iff {ms : Members} {q : Query} :
    fit ms = fits q ↔ ∃ tracking paths, MembersFit ms tracking paths q := by
  simp only [fit, seq_eq_fits_iff, map_eq_fits_iff]
  constructor
  · rintro ⟨_, _, ⟨_, _, ⟨_, paths, ⟨_, _, ⟨_, _, ⟨_, tracking, ⟨_, _, ⟨page, hpage, rfl⟩,
      hpageSize, rfl⟩, htracking, rfl⟩, horderings, rfl⟩, hfilters, rfl⟩, hpaths, rfl⟩,
      hhierarchy, rfl⟩, hmaxDepth, rfl⟩
    exact ⟨tracking, paths, hpage, hpageSize, htracking, horderings, hfilters, hpaths, hhierarchy,
      hmaxDepth, rfl, rfl, rfl⟩
  · rintro ⟨tracking, paths, h⟩
    refine ⟨_, _, ⟨_, _, ⟨_, _, ⟨_, _, ⟨_, _, ⟨_, _, ⟨_, _, ⟨_, h.page, rfl⟩, h.pageSize, rfl⟩,
      h.noTracking, rfl⟩, h.orderings, rfl⟩, h.filters, rfl⟩, h.includes, rfl⟩, h.hierarchy, rfl⟩,
      h.maxDepth, ?_⟩
    rw [ofMembers, ← h.noTracking_eq, ← h.trackingGiven_eq, ← h.includes_eq]

/-- A payload stands for a query when it is a table whose members fit. -/
theorem ofPayload_eq_ok_iff {v : Value} {q : Query} :
    (ofPayload v).result = .ok q ↔ ∃ ms, membersOf v = fits ms ∧ fit ms = fits q := by
  cases v with
  | dict es => simp only [ofPayload, membersOf, reported_eq_ok_iff, fits.injEq, exists_eq_left']
  | _ => simp only [ofPayload, defective, failWith, membersOf, misfit, reduceCtorEq, false_and,
      exists_false]

/-- Whole numbers of payloads are not too long to be read again. -/
theorem natAbs_lt_of_fitInt {ms : Members} {name other : String} {default n : Int}
    (hms : ∀ e ∈ ms, e.2.IsJson) (hdefault : default.natAbs < 10 ^ maxDigits)
    (h : ms.fit name other (fits default) (fitInt default) = fits n) :
    n.natAbs < 10 ^ maxDigits := by
  refine Members.property_of_fit (P := fun n => n.natAbs < 10 ^ maxDigits) hms ?_ ?_ h
  · exact fun m hm => fits.inj hm ▸ hdefault
  · intro v hv m hm
    rcases unlessNull_eq_fits hm with rfl | hm
    · exact hdefault
    · exact natAbs_lt_of_int? hv (ofOption_eq_fits_iff.mp hm)

theorem exists_of_fit_filters {ms : Members} {q : Query} (hms : ∀ e ∈ ms, e.2.IsJson)
    (h : fit ms = fits q) : ∀ f ∈ q.filters, ∃ v, v.IsJson ∧ Criterion.fit v = fits f := by
  rcases fit_eq_fits_iff.mp h with ⟨tracking, paths, hfit⟩
  exact Members.exists_of_fit_list hms hfit.filters

/-- All of what is read from a payload is settled, but for the criteria. -/
theorem isSettled_with_filters {ms : Members} {q : Query} {fs : List Criterion}
    (hms : ∀ e ∈ ms, e.2.IsJson) (h : fit ms = fits q) (hfs : ∀ f ∈ fs, f.IsSettled) :
    { q with filters := fs }.IsSettled := by
  rcases fit_eq_fits_iff.mp h with ⟨tracking, paths, hfit⟩
  refine ⟨natAbs_lt_of_fitInt hms ?_ hfit.page, natAbs_lt_of_fitInt hms ?_ hfit.pageSize,
    natAbs_lt_of_fitInt hms ?_ hfit.maxDepth, ?_, hfs⟩
  · exact lt_pow_maxDigits (k := 1) (by decide) (by decide)
  · exact lt_pow_maxDigits (k := 2) (by decide) (by decide)
  · exact lt_pow_maxDigits (k := 1) (by decide) (by decide)
  · show q.includes.Nodup
    rw [hfit.includes_eq]
    exact nodup_foldl_addText paths List.nodup_nil

/-- What is read from a payload is settled. -/
theorem isSettled_of_fit {ms : Members} {q : Query} (hms : ∀ e ∈ ms, e.2.IsJson)
    (h : fit ms = fits q) (hnested : q.NestedHaveFields) : q.IsSettled := by
  refine isSettled_with_filters hms h fun f hf => ?_
  rcases exists_of_fit_filters hms h f hf with ⟨v, hv, hvf⟩
  exact Criterion.isSettled_of_fitTo hv hvf fun d hd => hnested d (Criterion.mem_walkAll hf hd)

end Reading

section Writing

/-- The members that a query is written with, given the wire forms of its
    criteria. -/
def wireMembers (q : Query) (filters : List Value) : List (String × Option Value) := [
  ("page", some (.int q.page)),
  ("pageSize", some (.int q.pageSize)),
  ("noTracking", some (.bool q.noTracking)),
  ("orderings", some (.list (q.orderings.map OrderBy.wire))),
  ("filters", some (.list filters)),
  ("includes", some (.list (q.includes.map .text))),
  ("hierarchy", q.hierarchy.map .text),
  ("hierarchyMaxDepth", some (.int q.maxDepth))]

variable {q : Query} {ws : List Value}

/-- The members that a settled query is written with are payloads. -/
theorem isJson_of_mem_wireMembers (hq : q.IsSettled) (hws : ∀ w ∈ ws, w.IsJson) (k : String)
    (v : Value) (h : (k, some v) ∈ q.wireMembers ws) : v.IsJson := by
  simp only [wireMembers, List.mem_cons, Prod.mk.injEq, Option.some.injEq, List.not_mem_nil,
    or_false] at h
  -- One case for each of the eight members that are written.
  rcases h with ⟨-, h⟩ | ⟨-, h⟩ | ⟨-, h⟩ | ⟨-, h⟩ | ⟨-, h⟩ | ⟨-, h⟩ | ⟨-, h⟩ | ⟨-, h⟩
  · exact h ▸ .int q.page hq.page
  · exact h ▸ .int q.pageSize hq.pageSize
  · exact h ▸ .bool q.noTracking
  · refine h ▸ .list _ fun x hx => ?_
    rcases List.mem_map.mp hx with ⟨o, -, rfl⟩
    exact o.isJson_wire
  · exact h ▸ .list ws hws
  · refine h ▸ .list _ fun x hx => ?_
    rcases List.mem_map.mp hx with ⟨s, -, rfl⟩
    exact .text s
  · rcases Option.map_eq_some_iff.mp h.symm with ⟨s, -, rfl⟩
    exact .text s
  · exact h ▸ .int q.maxDepth hq.maxDepth

theorem nodup_wireMembers : ((q.wireMembers ws).map Prod.fst).Nodup := by
  show ["page", "pageSize", "noTracking", "orderings", "filters", "includes", "hierarchy",
    "hierarchyMaxDepth"].Nodup
  decide

theorem lowerFirst_wireMembers :
    ∀ k ∈ (q.wireMembers ws).map Prod.fst, Text.lowerFirst k = k := by
  show ∀ k ∈ ["page", "pageSize", "noTracking", "orderings", "filters", "includes", "hierarchy",
    "hierarchyMaxDepth"], Text.lowerFirst k = k
  decide

/-- A list of written elements is read element by element. -/
theorem fitList_map {α : Type} {fit : Value → Fitted α} {write : α → Value}
    (h : ∀ a, fit (write a) = fits a) (as : List α) :
    fitList fit (.list (as.map write)) = fits as := by
  rw [fitList, unlessNull_of_isNull rfl]
  refine fitAll_eq_fits_iff.mpr ⟨as.map write, rfl, ?_⟩
  rw [List.forall₂_map_left_iff, List.forall₂_same]
  exact fun a _ => h a

/-- Written members fit; whether results are tracked is then given, and no path is included
    twice. -/
theorem membersFit_of_wireMembers {ms : Members}
    (hlookup : ∀ k, ms.lookup k = ((q.wireMembers ws).lookup k).join)
    (hfilters : List.Forall₂ (fun w f => Criterion.fit w = fits f) ws q.filters) :
    MembersFit ms (some q.noTracking) q.includes
      { q with includes := q.includes.foldl addText [], trackingGiven := true } := by
  have hhierarchy : ms.lookup "hierarchy" = q.hierarchy.map .text := hlookup "hierarchy"
  -- The members are found under their names and read one after the other.
  refine ⟨?_, ?_, ?_, ?_, ?_, ?_, ?_, ?_, rfl, rfl, rfl⟩
  · rw [Members.fit_of_lookup (hlookup "page")]
    rfl
  · rw [Members.fit_of_lookup (hlookup "pageSize")]
    rfl
  · rw [Members.fit_of_lookup (hlookup "noTracking")]
    rfl
  · rw [Members.fit_of_lookup (hlookup "orderings"), beneath_eq_fits_iff]
    exact fitList_map OrderBy.fit_wire q.orderings
  · rw [Members.fit_of_lookup (hlookup "filters"), beneath_eq_fits_iff, fitList,
      unlessNull_of_isNull rfl]
    exact fitAll_eq_fits_iff.mpr ⟨ws, rfl, hfilters⟩
  · rw [Members.fit_of_lookup (hlookup "includes"), beneath_eq_fits_iff]
    exact fitList_map fitText_text q.includes
  · refine Members.fit_eq_of_lookup hhierarchy hhierarchy.trans ?_ ?_
    · intro v hv
      rcases Option.map_eq_some_iff.mp hv with ⟨s, hs, rfl⟩
      rw [hs]
      rfl
    · intro hv
      rw [Option.map_eq_none_iff.mp hv]
  · rw [Members.fit_of_lookup (hlookup "hierarchyMaxDepth")]
    rfl

/-- A query is read from what is written for it, with the criteria that are read. -/
theorem ofPayload_wireMembers (q : Query) {fs : List Criterion}
    (hfilters : List.Forall₂ (fun w f => Criterion.fit w = fits f) ws fs) :
    (ofPayload (present (q.wireMembers ws))).result = .ok
      { q with filters := fs, includes := q.includes.foldl addText [], trackingGiven := true } := by
  rcases membersOf_present (q.wireMembers ws) nodup_wireMembers lowerFirst_wireMembers with
    ⟨ms, hms, hlookup⟩
  have hfit := membersFit_of_wireMembers (q := { q with filters := fs }) hlookup hfilters
  exact ofPayload_eq_ok_iff.mpr ⟨ms, hms, fit_eq_fits_iff.mpr ⟨_, _, hfit⟩⟩

/-- A settled query is written as a payload, and what is written is read as the
    query. -/
theorem IsSettled.exists_wire_eq_ok (hq : q.IsSettled) :
    ∃ w, q.wire = .ok w ∧ w.IsJson ∧
      (ofPayload w).result = .ok { q with trackingGiven := true } := by
  rcases exists_forall₂ fun f hf => (hq.filters f hf).exists_isWrittenAs with ⟨ws, hws⟩
  have hjson : ∀ w ∈ ws, w.IsJson := by
    intro w hw
    rcases forall₂_exists_left hws hw with ⟨f, -, hf⟩
    exact hf.isJson
  -- Each criterion is read from its own table.
  have hread : List.Forall₂ (fun w f => Criterion.fit w = fits f) ws q.filters :=
    hws.flip.imp fun w f hf => hf.fits_of_depth_lt (w.depth + 1) (Nat.lt_succ_self _)
  -- Includes are collected without repetition, and here there is none.
  have hdistinct : ([] ++ q.includes).Nodup := hq.includes
  have hincludes : q.includes.foldl addText [] = q.includes := foldl_addText_eq_append hdistinct
  have hresult := ofPayload_wireMembers q hread
  rw [hincludes] at hresult
  refine ⟨present (q.wireMembers ws), ?_, ?_, hresult⟩
  · rw [wire, Criterion.wireAll_eq_ok hws]
    rfl
  · exact isJson_present nodup_wireMembers (isJson_of_mem_wireMembers hq hjson)

end Writing

/-- A query that is read from a payload is read again from its table and from its
    text, however deep criteria are nested in it; operands that are criteria need
    a field to be told from tables. -/
theorem ofPayload_wire {v : Value} {q : Query} (hv : v.IsJson) (h : (ofPayload v).result = .ok q)
    (hnested : q.NestedHaveFields) :
    ∃ w text, q.wire = .ok w ∧ (ofPayload w).result = .ok { q with trackingGiven := true } ∧
      q.json = .ok text ∧ (ofText text).result = .ok { q with trackingGiven := true } := by
  rcases ofPayload_eq_ok_iff.mp h with ⟨ms, hms, hfit⟩
  -- Whatever the payload looked like, what was read from it is settled.
  have hsettled : q.IsSettled := isSettled_of_fit (isJson_of_mem_members hv hms) hfit hnested
  rcases hsettled.exists_wire_eq_ok with ⟨w, hw, hjson, hread⟩
  refine ⟨w, Json.write w, hw, hread, ?_, ?_⟩
  · rw [json, hw]
    rfl
  · rw [ofText, Json.read_write hjson]
    exact hread

/-- Orders with an item of an unknown price, and those that are late. -/
def lateOrders : Value := .table [
  ("Page", .text "2"),
  ("includes", .list [.text "items", .text "items"]),
  ("filters", .list [
    .table [
      ("field", .text "items"),
      ("operator", .text "Any"),
      ("value", .table [
        ("Field", .text "price"),
        ("operator", .text "="),
        ("value", .list [.null])])],
    .table [
      ("custom_type", .text "COMPOSITE_specification"),
      ("customParameters", .table [("Field", .null)]),
      ("compositeSpecification", .table [("nodes", .list [
        .table [("nodes", .list [
          .table [("name", .text "late"), ("arguments", .list [.int 3])]])]])])]])]

/-- The query for late orders. -/
def lateOrdersQuery : Query where
  page := 2
  includes := ["items"]
  filters := [
    { field := some "items"
      op := .any
      operand := .nested { field := some "price", operand := .literal (.list [.null]) } },
    { type := .composite
      parameters := [("Field", .null)]
      composite := some [.group .and [.leaf "late" [.int 3]]] }]

theorem isJson_lateOrders : lateOrders.IsJson := by
  have hint : (Value.int 3).IsJson := .int 3 (lt_pow_maxDigits (k := 1) (by decide) (by decide))
  refine .table_of_forall (by decide) ⟨.text _, .list_of_forall ⟨.text _, .text _⟩,
    .list_of_forall ⟨.table_of_forall (by decide) ⟨.text _, .text _, ?_⟩,
      .table_of_forall (by decide) ⟨.text _, ?_, ?_⟩⟩⟩
  · exact .table_of_forall (by decide) ⟨.text _, .text _, .list_of_forall .null⟩
  · exact .table_of_forall (by decide) .null
  · refine .table_of_forall (by decide) (.list_of_forall (.table_of_forall (by decide) ?_))
    exact .list_of_forall (.table_of_forall (by decide) ⟨.text _, .list_of_forall hint⟩)

/-- The criterion for items has a field. -/
theorem nestedHaveFields_lateOrders : lateOrdersQuery.NestedHaveFields := by
  intro c hc hop n hn
  have hwalk : lateOrdersQuery.allCriteria = [lateOrdersQuery.filters.head (by decide),
      { field := some "price", operand := .literal (.list [.null]) },
      lateOrdersQuery.filters.getLast (by decide)] := rfl
  rw [hwalk] at hc
  simp only [List.mem_cons, List.not_mem_nil, or_false] at hc
  rcases hc with rfl | rfl | rfl
  · cases hn
    exact Option.some_ne_none "price"
  · exact absurd hop Bool.false_ne_true
  · exact absurd hop Bool.false_ne_true

/-- The nested criterion, the empty parameter and the tree are read again. -/
theorem ofPayload_wire_lateOrders :
    ∃ w text, lateOrdersQuery.wire = .ok w ∧
      (ofPayload w).result = .ok { lateOrdersQuery with trackingGiven := true } ∧
      lateOrdersQuery.json = .ok text ∧
      (ofText text).result = .ok { lateOrdersQuery with trackingGiven := true } :=
  ofPayload_wire isJson_lateOrders rfl nestedHaveFields_lateOrders

end Query

end Criteria
