import Criteria.Proofs.Outcome
import Criteria.Result.Search
import Mathlib.Data.List.Basic

/-!
# Pages of Results

The pages of a query put one after the other are everything it finds.

A page is cut out of a list by two places, which the shape of the results
computes from the number of the page and its length. `findAll_onPage` states
what this comes to: whatever the number of the page is, the query is asked once
without pages and then a part of a fixed length is taken, page zero standing for
the first one like every number that is not positive. All else about pages is
about lists, and `flatten_parts` is the induction over the pages.

## Main definitions

* `part`: A part of a list of a given length.
* `pageCount`: How many pages a list fills.
* `ResultShape.unpaged`: A shape without pages.
* `Query.onPage`, `Query.pageLength`: A query for a page, and how long its pages
  are.
* `Context.findUnpaged`: What a query finds, on all pages.

## Theorems

* `flatten_parts`: The parts of a list put one after the other.
* `length_part_of_lt`, `part_eq_nil`: Parts before the last one, and after it.
* `page_ofQuery`: The page that the shape of a query returns.
* `findAll_onPage`: A page is a part of what is found on all pages.
* `countAll_of_findUnpaged`: What is counted.
* `findAll_pages`: The pages of a query.
-/

namespace Criteria

variable {α : Type}

/-- The part of a list with the given number, counted from zero. -/
def part (size i : Nat) (xs : List α) : List α :=
  (xs.drop (i * size)).take size

/-- How many pages some results fill, of which the last one may be short. -/
def pageCount (size total : Nat) : Nat :=
  (total + size - 1) / size

/-- The query for another page. -/
def Query.onPage (q : Query) (k : Int) : Query :=
  { q with page := k }

/-- How many results the pages of a query have. -/
def Query.pageLength (q : Query) : Nat :=
  (ResultShape.positiveOr standardPageSize q.pageSize).toNat

/-- The shape of the same results on one page. -/
def ResultShape.unpaged (r : ResultShape) : ResultShape :=
  { r with skip := none, take := none }

/-- What a query finds on all pages, in order. -/
def Context.findUnpaged (c : Context) (entity : TypeExpr) (view : α → Value) (items : List α)
    (q : Query) (further : List Spec) : Except Fault (List α) := do
  let specs ← c.compileQuery entity (some q) further
  let shape ← (ResultShape.ofQuery c.schema entity q).mapError Fault.filter
  shape.unpaged.apply c.schema view specs items

section Parts

variable {size i total : Nat} {xs : List α}

/-- The first parts of a list put one after the other are its beginning. -/
theorem flatten_parts (size count : Nat) (xs : List α) :
    ((List.range count).map fun i => part size i xs).flatten = xs.take (count * size) := by
  induction count with
  | zero => rw [Nat.zero_mul, List.take_zero]; rfl
  | succ count ih =>
      rw [List.range_succ, List.map_append, List.flatten_append, ih, Nat.succ_mul, List.take_add]
      simp only [List.map_cons, List.map_nil, List.flatten_cons, List.flatten_nil,
        List.append_nil, part]

/-- The pages leave nothing out. -/
theorem le_pageCount_mul (hsize : 0 < size) : total ≤ pageCount size total * size := by
  have hdiv := Nat.div_add_mod (total + size - 1) size
  have hmod := Nat.mod_lt (total + size - 1) hsize
  rw [Nat.mul_comm] at hdiv
  rw [pageCount]
  omega

/-- The pages before the last one are full. -/
theorem mul_lt_of_lt_pageCount (hsize : 0 < size) (hi : i < pageCount size total) :
    i * size < total := by
  have hle := (Nat.le_div_iff_mul_le hsize).mp (Nat.succ_le_of_lt hi)
  rw [Nat.succ_mul] at hle
  omega

theorem length_part_of_lt (hsize : 0 < size) (hi : i + 1 < pageCount size xs.length) :
    (part size i xs).length = size := by
  have hlt := mul_lt_of_lt_pageCount hsize hi
  rw [Nat.succ_mul] at hlt
  rw [part, List.length_take, List.length_drop]
  omega

theorem part_eq_nil (hsize : 0 < size) (hi : pageCount size xs.length ≤ i) :
    part size i xs = [] := by
  have hle : xs.length ≤ pageCount size xs.length * size := le_pageCount_mul hsize
  have hmul := Nat.mul_le_mul_right size hi
  rw [part, List.drop_eq_nil_of_le (by omega), List.take_nil]

end Parts

section Slices

variable {xs : List α}

theorem placeIn_of_nonneg {n : Nat} {i : Int} (hi : 0 ≤ i) : placeIn n i = i.toNat := by
  rw [placeIn, if_neg (by omega)]

/-- Places that are not negative count from the beginning. -/
theorem slice_of_nonneg {start size : Int} (hstart : 0 ≤ start) (hsize : 0 ≤ size) :
    slice start (some (start + size)) xs = (xs.drop start.toNat).take size.toNat := by
  rw [slice, placeIn_of_nonneg hstart]
  show (xs.take (placeIn xs.length (start + size))).drop start.toNat = _
  rw [placeIn_of_nonneg (by omega), List.drop_take]
  congr 1
  omega

end Slices

/-- Sorting loses nothing and adds nothing, even where it compares what is not
    ordered. -/
theorem perm_sortBy {s : Schema} {view : α → Value} {ks : List SortKey} {items sorted : List α}
    (h : sortBy s view ks items = .ok sorted) : sorted.Perm items := by
  induction ks generalizing sorted with
  | nil => rw [← Except.ok.inj h]
  | cons k ks ih =>
      rcases bind_eq_ok_iff.mp h with ⟨later, hlater, h⟩
      rcases bind_eq_ok_iff.mp h with ⟨keys, hkeys, h⟩
      rcases bind_eq_ok_iff.mp h with ⟨⟨⟩, -, h⟩
      have hlength : keys.length = later.length := (mapM_eq_ok_iff.mp hkeys).length_eq.symm
      have hperm := (List.mergeSort_perm (keys.zip later) fun a b =>
        k.mayPrecede a.1 b.1).map Prod.snd
      rw [List.map_snd_zip (Nat.le_of_eq hlength.symm)] at hperm
      rw [← Except.ok.inj h]
      exact hperm.trans (ih hlater)

namespace ResultShape

variable {n default : Int}

theorem positiveOr_pos (hdefault : 0 < default) : 0 < positiveOr default n := by
  rw [positiveOr]
  split <;> assumption

theorem positiveOr_of_pos (hn : 0 < n) : positiveOr default n = n := if_pos hn

theorem positiveOr_of_nonpos (hn : n ≤ 0) : positiveOr default n = default :=
  if_neg (by omega)

/-- The page that the shape of a query returns. -/
theorem page_ofQuery {s : Schema} {entity : TypeExpr} {q : Query} {r : ResultShape}
    (h : ofQuery s entity q = .ok r) (xs : List α) :
    r.page xs = part q.pageLength (positiveOr firstPage q.page - 1).toNat xs := by
  have hsize : 0 < positiveOr standardPageSize q.pageSize := positiveOr_pos (by decide)
  have hpage : 0 < positiveOr firstPage q.page := positiveOr_pos (by decide)
  rcases bind_eq_ok_iff.mp h with ⟨orders, -, h⟩
  rcases bind_eq_ok_iff.mp h with ⟨includes, -, h⟩
  rcases bind_eq_ok_iff.mp h with ⟨hierarchy, -, h⟩
  rw [← Except.ok.inj h]
  show slice (positiveOr standardPageSize q.pageSize * (positiveOr firstPage q.page - 1))
    (some (positiveOr standardPageSize q.pageSize * (positiveOr firstPage q.page - 1) +
      positiveOr standardPageSize q.pageSize)) xs = _
  rw [slice_of_nonneg (Int.mul_nonneg (by omega) (by omega)) (by omega), part, Query.pageLength,
    Int.toNat_mul (by omega) (by omega), Nat.mul_comm]

/-- The shape of another page differs in how much is skipped only. -/
theorem ofQuery_onPage (s : Schema) (entity : TypeExpr) (q : Query) (k : Int) :
    ofQuery s entity (q.onPage k) = (ofQuery s entity q).map fun r =>
      { r with
        skip := some (positiveOr standardPageSize q.pageSize * (positiveOr firstPage k - 1)) } := by
  simp only [ofQuery, Query.onPage]
  cases q.orderings.mapM (SortKey.ofOrdering s entity) with
  | error e => rfl
  | ok orders =>
      cases Include.ofPaths s entity q.includes with
      | error e => rfl
      | ok includes =>
          cases Hierarchy.ofPath? s entity q.hierarchy q.maxDepth with
          | error e => rfl
          | ok hierarchy => rfl

/-- A shape cuts its page out of what it returns without one. -/
theorem apply_eq_map_page (r : ResultShape) (s : Schema) (view : α → Value) (specs : List Spec)
    (items : List α) : r.apply s view specs items =
      (r.unpaged.apply s view specs items).map r.page := by
  rw [apply, apply]
  cases selectBy s view specs items with
  | error e => rfl
  | ok found =>
      show (passing (unworded (sortBy s view r.orders found)) >>= _) =
        (passing (unworded (sortBy s view r.orders found)) >>= _ : Except Fault (List α)).map _
      cases passing (unworded (sortBy s view r.orders found)) with
      | error e => rfl
      | ok sorted => rfl

end ResultShape

namespace Context

/-- A page is a part of what is found on all pages, whatever its number is. -/
theorem findAll_onPage (c : Context) (entity : TypeExpr) (view : α → Value) (items : List α)
    (q : Query) (further : List Spec) (k : Int) :
    c.findAll entity view items (some (q.onPage k)) further =
      (c.findUnpaged entity view items q further).map
        (part q.pageLength (ResultShape.positiveOr firstPage k - 1).toNat) := by
  have hspecs : c.compileQuery entity (some (q.onPage k)) further =
      c.compileQuery entity (some q) further := rfl
  rw [findAll, findUnpaged, hspecs]
  -- The pages of one query differ only in the part that is cut, so
  -- an error comes from the same step.
  cases c.compileQuery entity (some q) further with
  | error e => rfl
  | ok specs =>
      show ((ResultShape.ofQuery c.schema entity (q.onPage k)).mapError Fault.filter >>= _) =
        ((ResultShape.ofQuery c.schema entity q).mapError Fault.filter >>= _ :
          Except Fault (List α)).map _
      cases hshape : ResultShape.ofQuery c.schema entity q with
      | error e =>
          rw [ResultShape.ofQuery_onPage, hshape]
          rfl
      | ok r =>
          -- The shape on page `k` is that of the query with another page.
          have hpaged := ResultShape.ofQuery_onPage c.schema entity q k
          rw [hshape] at hpaged
          rw [hpaged]
          show ResultShape.apply _ c.schema view specs items = _
          rw [ResultShape.apply_eq_map_page, funext (ResultShape.page_ofQuery hpaged)]
          rfl

/-- As many results are counted as are found on all pages. -/
theorem countAll_of_findUnpaged {c : Context} {entity : TypeExpr} {view : α → Value}
    {items whole : List α} {q : Query} {further : List Spec}
    (h : c.findUnpaged entity view items q further = .ok whole) :
    c.countAll entity view items (some q) further = .ok whole.length := by
  rcases bind_eq_ok_iff.mp h with ⟨specs, hspecs, h⟩
  rcases bind_eq_ok_iff.mp h with ⟨shape, -, h⟩
  rcases bind_eq_ok_iff.mp h with ⟨found, hfound, h⟩
  rcases bind_eq_ok_iff.mp h with ⟨sorted, hsorted, h⟩
  have hperm := perm_sortBy (unworded_eq_ok_iff.mp (passing_eq_ok_iff.mp hsorted))
  rw [countAll, hspecs, ← Except.ok.inj h]
  show (selectBy c.schema view specs items >>= _) = _
  rw [hfound]
  exact congrArg Except.ok hperm.length_eq.symm

/-- The pages of a query, if it finds anything without an error. Its pages with
    positive numbers put one after the other are what it finds without pages, which
    is as much as is counted. Each page before the last one is full, pages after it
    are empty, and a page whose number is not positive is the first one. -/
theorem findAll_pages (c : Context) (entity : TypeExpr) (view : α → Value) (items found : List α)
    (q : Query) (further : List Spec)
    (h : c.findAll entity view items (some q) further = .ok found) :
    ∃ (whole : List α) (pages : List (List α)),
      c.findUnpaged entity view items q further = .ok whole ∧
      c.countAll entity view items (some q) further = .ok whole.length ∧
      ((List.range (pageCount q.pageLength whole.length)).mapM fun i : Nat =>
        c.findAll entity view items (some (q.onPage (i + 1))) further) = .ok pages ∧
      pages.flatten = whole ∧
      (∀ page ∈ pages.dropLast, page.length = q.pageLength) ∧
      (∀ k : Int, pageCount q.pageLength whole.length < k →
        c.findAll entity view items (some (q.onPage k)) further = .ok []) ∧
      ∀ k : Int, k ≤ 0 → c.findAll entity view items (some (q.onPage k)) further =
        c.findAll entity view items (some (q.onPage 1)) further := by
  -- A page always has room for one result, whatever size was asked for.
  have hsize : 0 < q.pageLength := by
    have hpos : 0 < ResultShape.positiveOr standardPageSize q.pageSize :=
      ResultShape.positiveOr_pos (by decide)
    rw [Query.pageLength]
    omega
  have hself := c.findAll_onPage entity view items q further q.page
  rw [show q.onPage q.page = q from rfl, h] at hself
  -- The given search has gone through, so there is an unpaged list, of which `found` is one part.
  rcases map_eq_ok_iff.mp hself.symm with ⟨whole, hwhole, -⟩
  have hpage (k : Int) : c.findAll entity view items (some (q.onPage k)) further =
      .ok (part q.pageLength (ResultShape.positiveOr firstPage k - 1).toNat whole) := by
    rw [findAll_onPage, hwhole]
    rfl
  -- On positive pages the part is counted from zero.
  have hpositive {k : Int} (hk : 0 < k) :
      c.findAll entity view items (some (q.onPage k)) further =
        .ok (part q.pageLength (k - 1).toNat whole) := by
    rw [hpage, ResultShape.positiveOr_of_pos hk]
  refine ⟨whole, (List.range (pageCount q.pageLength whole.length)).map fun i =>
    part q.pageLength i whole, hwhole, countAll_of_findUnpaged hwhole, ?_, ?_, ?_, ?_, ?_⟩
  · refine mapM_eq_ok_map fun i _ => ?_
    rw [hpositive (by omega)]
    congr 2
    omega
  -- Enough parts of a list joined are the list.
  · rw [flatten_parts, List.take_of_length_le (le_pageCount_mul hsize)]
  · intro page hmem
    rw [List.dropLast_eq_take, List.length_map, List.length_range, ← List.map_take,
      List.take_range] at hmem
    rcases List.mem_map.mp hmem with ⟨i, hi, rfl⟩
    have hlt := List.mem_range.mp hi
    exact length_part_of_lt hsize (by omega)
  · intro k hk
    rw [hpositive (by omega), part_eq_nil hsize (by omega)]
  · intro k hk
    rw [hpage, hpage, ResultShape.positiveOr_of_nonpos hk]
    rfl

/-- A numbered row with a score. -/
def scoredRow (p : Nat × Int) : Value :=
  .entity "Row" .record [("score", .int p.2)] []

/-- Rows need no schema. -/
def ofRows : Context :=
  { schema := ⟨[], [], .first⟩, now := ⟨.first, .ofMicros 0, some .utc⟩ }

/-- Scores of two and more, on pages of two rows. -/
def highScores : Query :=
  { pageSize := 2
    filters := [{ field := some "score", op := .greaterOrEqual, operand := .literal (.int 2) }] }

/-- Three rows are on two pages, and on a third one there are none. -/
theorem findAll_pages_highScores :
    ∃ pages : List (List (Nat × Int)),
      ((List.range 2).mapM fun i : Nat =>
        ofRows.findAll .any scoredRow [(1, 2), (2, 1), (3, 3), (4, 2)]
          (some (highScores.onPage (i + 1))) []) = .ok pages ∧
      pages.flatten = [(1, 2), (3, 3), (4, 2)] ∧
      ofRows.findAll .any scoredRow [(1, 2), (2, 1), (3, 3), (4, 2)]
        (some (highScores.onPage 3)) [] = .ok [] := by
  rcases findAll_pages ofRows .any scoredRow [(1, 2), (2, 1), (3, 3), (4, 2)] [(1, 2), (3, 3)]
    highScores [] rfl with ⟨whole, pages, hwhole, -, hpages, hflatten, -, hafter, -⟩
  have hthree : whole = [(1, 2), (3, 3), (4, 2)] := (Except.ok.inj hwhole).symm
  subst hthree
  exact ⟨pages, hpages, hflatten, hafter 3 (by decide)⟩

end Context

end Criteria
