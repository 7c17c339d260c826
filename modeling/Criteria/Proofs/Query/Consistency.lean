import Criteria.Proofs.Query.Fresh
import Criteria.Proofs.Query.Merge
import Criteria.Proofs.Query.RoundTrip
import Criteria.Proofs.Query.Superseded
import Criteria.Proofs.Wire.Reading
import Criteria.Query.Change

/-!
# Consistency under Changes

What is true of a query however often it is changed.

A query that is read from a payload can be odd: a page before the first one, two
directions for one field, two criteria where the second is meant to take the place
of the first. A query that starts as a new one and is changed by the library's own
means never is, even if odd queries are merged into it. `Query.IsConsistent` says
what that means, and the proof is by induction on the changes: `Invariant.apply`
is the step, with one lemma for each way in which a change rebuilds a part.

The criteria are the part that is not obvious. Putting a criterion in removes those
that it replaces, but consistency also asks that none of those that stay replaces
the new one. So what carries the induction is that replacing is symmetric, and this
in turn rests on the equality of the values that custom filters name as their
fields. Equality is symmetric for what a text can stand for (`Value.equal_comm`), so
the invariant has one clause more than the result: custom filters name documents.

Changing a criterion in place, or dropping further criteria from it, touches nothing
that replacing looks at (`Criterion.Alike`).

## Main definitions

* `Query.IsConsistent`: Pages are positive, and nothing in a query is repeated.
* `Criterion.Alike`: Two criteria replace the same and are replaced by the same.
* `AreDistinct`: No criterion replaces another one, and custom filters name
  documents.
* `Change.IsRead`: What is merged was read from a document.

## Theorems

* `Criterion.replaces_comm`: Replacing is symmetric.
* `AreDistinct.append`, `AreDistinct.mergeFilters`, `AreDistinct.of_alike`: Criteria
  that are added, merged, or changed in place.
* `Query.isDocument_target_of_ofPayload`: What custom filters name in a query that is
  read.
* `Query.Invariant.apply`, `Query.Invariant.applyAll`: One change, and all of them.
* `Query.isConsistent_applyAll`: Queries that start as new ones.
* `Query.isConsistent_oddChanges`: An odd query is merged in twice.
-/

namespace Criteria

open Fitted

/-- Pages are positive, and no path, no field and no criterion is repeated. -/
structure Query.IsConsistent (q : Query) : Prop where
  page : 1 ≤ q.page
  pageSize : 1 ≤ q.pageSize
  includes : q.includes.Nodup
  orderings : (q.orderings.map (·.field)).Nodup
  filters : q.filters.Pairwise fun x y => x.replaces y = false ∧ y.replaces x = false

section Reading

theorem isDocument_of_fitParameters {v : Value} {ps : List (String × Value)} (hv : v.IsDocument)
    (h : fitParameters v = fits ps) : ∀ e ∈ ps, e.2.IsDocument := by
  cases hv with
  | null =>
      rw [fitParameters, fits.injEq] at h
      rw [← h]
      exact fun e he => absurd he List.not_mem_nil
  | table es hkeys hes =>
      rw [fitParameters_table, fits.injEq] at h
      rw [← h]
      exact hes
  | _ => simp only [fitParameters, misfit, reduceCtorEq] at h

namespace Criterion

/-- What a criterion names as its field is null or one of its parameters. -/
theorem isDocument_target {c : Criterion} (h : ∀ e ∈ c.parameters, e.2.IsDocument) :
    c.target.IsDocument := by
  rw [target]
  cases hfind : c.parameters.find? fun e => Text.lower e.1 == "field" with
  | none => exact .null
  | some e => exact h e (List.mem_of_find?_eq_some hfind)

theorem isDocument_target_of_fit {v : Value} {c : Criterion} (hv : v.IsDocument)
    (h : fit v = fits c) : c.target.IsDocument := by
  rw [fit, fitTo] at h
  rcases andThen_eq_fits_iff.mp h with ⟨d, hd, hsettle⟩
  rcases andThen_eq_fits_iff.mp hd with ⟨ms, hms, hd⟩
  have hsame : c.parameters = d.parameters := by rw [eq_of_settleWith hsettle]
  refine isDocument_target ?_
  rw [hsame]
  rcases Members.exists_of_fit (fitMembers_eq_fits_iff.mp hd).parameters with
    ⟨k, w, hmem, hw⟩ | hdefault
  · have hmembers := Value.isHereditary_isDocument.members hv hms
    exact isDocument_of_fitParameters (hmembers (k, w) hmem) hw
  · rw [← fits.inj hdefault]
    exact fun e he => absurd he List.not_mem_nil

end Criterion

/-- Custom filters name documents in a query that is read from one. -/
theorem Query.isDocument_target_of_ofPayload {v : Value} {q : Query} (hv : v.IsDocument)
    (h : (ofPayload v).result = .ok q) : ∀ c ∈ q.filters, c.target.IsDocument := by
  rcases ofPayload_eq_ok_iff.mp h with ⟨ms, hms, hfit⟩
  rcases fit_eq_fits_iff.mp hfit with ⟨tracking, paths, hmembers⟩
  intro c hc
  rcases Members.exists_element_of_fit_list hmembers.filters c hc with ⟨e, he, xs, hxs, x, hx, hxc⟩
  have he := Value.isHereditary_isDocument.members hv hms e he
  have hx := Value.isHereditary_isDocument.elements he hxs x hx
  exact Criterion.isDocument_target_of_fit hx hxc

end Reading

section Filters

namespace Criterion

/-- Replacing is symmetric where custom filters name documents. -/
theorem replaces_comm {x y : Criterion} (hx : x.target.IsDocument) (hy : y.target.IsDocument) :
    x.replaces y = y.replaces x := by
  rw [replaces, replaces, Bool.beq_comm]
  -- Criteria of different types replace each other in neither order.
  by_cases htype : y.type = x.type
  · have hkind : x.kind = y.kind := by rw [kind, kind, htype]
    rw [hkind]
    congr 1
    cases y.kind with
    | simple => exact congrArg₂ (· && ·) Bool.beq_comm Bool.beq_comm
    | named => exact Bool.beq_comm
    | custom =>
        show (!x.target.isNull && Value.equal x.target y.target) =
          (!y.target.isNull && Value.equal y.target x.target)
        rw [Value.equal_comm hy hx]
        -- Only equal values matter, and these are both null or both not.
        cases hequal : Value.equal x.target y.target with
        | false => rw [Bool.and_false, Bool.and_false]
        | true => rw [Value.isNull_of_equal hx hy hequal]
    | composite => rfl
  · rw [beq_eq_false_iff_ne.mpr htype, Bool.false_and, Bool.false_and]

/-- Two criteria replace the same criteria and are replaced by the same ones. -/
structure Alike (c d : Criterion) : Prop where
  type : c.type = d.type
  field : c.field = d.field
  op : c.op = d.op
  specification : c.specification = d.specification
  target : c.target = d.target

theorem Alike.replaces {a b c d : Criterion} (hac : a.Alike c) (hbd : b.Alike d) :
    a.replaces b = c.replaces d := by
  rw [Criterion.replaces, Criterion.replaces, kind, kind, hac.type, hbd.type, hac.field, hbd.field,
    hac.op, hbd.op, hac.specification, hbd.specification, hac.target, hbd.target]

end Criterion

/-- No criterion replaces another one, and custom filters name documents. -/
structure AreDistinct (cs : List Criterion) : Prop where
  pairwise : cs.Pairwise fun x y => x.replaces y = false ∧ y.replaces x = false
  targets : ∀ c ∈ cs, c.target.IsDocument

namespace AreDistinct

variable {as bs : List Criterion}

theorem nil : AreDistinct [] :=
  ⟨.nil, fun _ hc => absurd hc List.not_mem_nil⟩

theorem filter (h : AreDistinct as) (keep : Criterion → Bool) : AreDistinct (as.filter keep) :=
  ⟨h.pairwise.filter keep, fun c hc => h.targets c (List.mem_of_mem_filter hc)⟩

/-- A criterion may be added that replaces none of those that are there. -/
theorem append (h : AreDistinct as) {c : Criterion} (hc : c.target.IsDocument)
    (hnew : ∀ x ∈ as, c.replaces x = false) : AreDistinct (as ++ [c]) := by
  constructor
  · refine List.pairwise_append.mpr ⟨h.pairwise, List.pairwise_singleton _ c, ?_⟩
    intro x hx y hy
    rw [List.mem_singleton.mp hy, Criterion.replaces_comm (h.targets x hx) hc]
    exact ⟨hnew x hx, hnew x hx⟩
  · intro x hx
    rcases List.mem_append.mp hx with hx | hx
    · exact h.targets x hx
    · rw [List.mem_singleton.mp hx]
      exact hc

theorem supersede (h : AreDistinct as) {c : Criterion} (hc : c.target.IsDocument) :
    AreDistinct (supersede as c) := by
  refine (h.filter _).append hc fun x hx => ?_
  have hkept := (List.mem_filter.mp hx).2
  rw [Bool.not_eq_true'] at hkept
  exact hkept

/-- Whatever is merged in, no criterion of the result replaces another one. -/
theorem mergeFilters (h : AreDistinct as) (hbs : ∀ b ∈ bs, b.target.IsDocument) :
    AreDistinct (mergeFilters as bs) := by
  induction bs generalizing as with
  | nil => exact h
  | cons b bs ih =>
      rw [mergeFilters_cons]
      exact ih (h.supersede (hbs b List.mem_cons_self)) fun x hx =>
        hbs x (List.mem_cons_of_mem b hx)

/-- Criteria may be changed in place where nothing is touched that replacing looks
    at. -/
theorem of_alike (h : AreDistinct as) (hsame : List.Forall₂ Criterion.Alike bs as) :
    AreDistinct bs := by
  -- Induction on the two rows. A criterion replaces what a criterion like it replaces.
  induction hsame with
  | nil => exact h
  | cons hbc hrest ih =>
      rename_i b a bs as
      have hpairs := List.pairwise_cons.mp h.pairwise
      have htail : AreDistinct bs :=
        ih ⟨hpairs.2, fun x hx => h.targets x (List.mem_cons_of_mem a hx)⟩
      refine ⟨List.pairwise_cons.mpr ⟨fun y hy => ?_, htail.pairwise⟩, ?_⟩
      · rcases forall₂_exists_right hrest hy with ⟨x, hx, hyx⟩
        rw [hbc.replaces hyx, hyx.replaces hbc]
        exact hpairs.1 x hx
      · refine List.forall_mem_cons.mpr ⟨?_, htail.targets⟩
        rw [hbc.target]
        exact h.targets a List.mem_cons_self

end AreDistinct

theorem alike_updateFirst {test : Criterion → Bool} {f : Criterion → Criterion}
    (hf : ∀ c, (f c).Alike c) (cs : List Criterion) :
    List.Forall₂ Criterion.Alike (updateFirst test f cs) cs := by
  induction cs with
  | nil => exact .nil
  | cons c cs ih =>
      have hself : List.Forall₂ Criterion.Alike cs cs :=
        List.forall₂_same.mpr fun _ _ => ⟨rfl, rfl, rfl, rfl, rfl⟩
      rw [updateFirst]
      split
      · exact .cons (hf c) hself
      · exact .cons ⟨rfl, rfl, rfl, rfl, rfl⟩ ih

theorem alike_withoutField (field : String) (cs : List Criterion) :
    List.Forall₂ Criterion.Alike (cs.map (Query.withoutField field)) cs := by
  rw [List.forall₂_map_left_iff]
  exact List.forall₂_same.mpr fun _ _ => ⟨rfl, rfl, rfl, rfl, rfl⟩

end Filters

/-- What is merged was read from a document. -/
def Change.IsRead : Change → Prop
  | .merge other => ∃ v, v.IsDocument ∧ (Query.ofPayload v).result = .ok other
  | _ => True

namespace Query

/-- What holds of a query at all times: it is consistent, and custom filters name
    documents. -/
structure Invariant (q : Query) : Prop where
  consistent : q.IsConsistent
  targets : ∀ c ∈ q.filters, c.target.IsDocument

namespace Invariant

variable {q : Query}

theorem areDistinct (h : q.Invariant) : AreDistinct q.filters :=
  ⟨h.consistent.filters, h.targets⟩

/-- Another list of criteria may take the place of the criteria. -/
theorem with_filters (h : q.Invariant) {cs : List Criterion} (hcs : AreDistinct cs) :
    { q with filters := cs }.Invariant :=
  ⟨{ h.consistent with filters := hcs.pairwise }, hcs.targets⟩

/-- A query in which nothing is given but how many results a page has. -/
theorem of_standard (hpage : q.page = firstPage) (hsize : q.pageSize = standardPageSize)
    (hincludes : q.includes = []) (horderings : q.orderings = []) (hfilters : q.filters = []) :
    q.Invariant := by
  refine ⟨⟨?_, ?_, ?_, ?_, ?_⟩, ?_⟩
  · exact hpage ▸ (by decide : 1 ≤ firstPage)
  · exact hsize ▸ (by decide : 1 ≤ standardPageSize)
  · exact hincludes ▸ List.nodup_nil
  · exact horderings ▸ List.nodup_nil
  · exact hfilters ▸ .nil
  · exact hfilters ▸ AreDistinct.nil.targets

theorem changeFilter (h : q.Invariant) (field : String) (op : Operator) {f : Criterion → Criterion}
    (hf : ∀ c, (f c).Alike c) : (q.changeFilter field op f).Invariant :=
  h.with_filters (h.areDistinct.of_alike (alike_updateFirst hf q.filters))

/-- A simple criterion names no field by parameters. -/
theorem alike_of_simple {field : String} {op : Operator} {operand : Operand Criterion} {l : Logic}
    {c : Criterion} (h : Criterion.simple field op operand l = .ok c) :
    c.Alike { field := some field, op := op } := by
  rw [Criterion.eq_of_simple h]
  exact ⟨rfl, rfl, rfl, rfl, rfl⟩

/-- A criterion for a field and an operator is added only where there is none. -/
theorem setFilter (h : q.Invariant) (field : String) (op : Value) (operand : Operand Criterion)
    (logic : Value) : (q.setFilter field op operand logic).1.Invariant := by
  rw [Query.setFilter]
  split
  · exact h
  rename_i op hop
  split
  -- Changing the operand and the logic leaves the criterion alike.
  · have hchanged : (q.changeFilter field op fun c => { c with operand := operand }).Invariant :=
      h.changeFilter field op fun _ => ⟨rfl, rfl, rfl, rfl, rfl⟩
    dsimp only
    split
    · exact hchanged
    · exact hchanged.changeFilter field op fun _ => ⟨rfl, rfl, rfl, rfl, rfl⟩
  · rename_i hnone
    split
    · exact h
    split
    · exact h
    rename_i l hl c hc
    have halike := alike_of_simple hc
    refine h.with_filters (h.areDistinct.append ?_ fun x hx => ?_)
    · rw [halike.target]
      exact .null
    · rw [halike.replaces ⟨rfl, rfl, rfl, rfl, rfl⟩, ← Bool.not_eq_true]
      -- A criterion that would be replaced is one that is looked for first.
      intro hreplaces
      refine hnone (List.any_eq_true.mpr ⟨x, hx, ?_⟩)
      rw [Criterion.replaces, Bool.and_eq_true] at hreplaces
      rcases hreplaces with ⟨htype, hsame⟩
      simp only [Criterion.kind, CustomType.kind, Bool.and_eq_true, beq_iff_eq] at htype hsame
      rw [Criterion.isSimpleOn, ← hsame.1, ← hsame.2, ← htype]
      simp only [beq_self_eq_true, Bool.and_self]

theorem mergeCount_pos {existing incoming fallback : Int} (h : 1 ≤ existing) :
    1 ≤ mergeCount existing incoming fallback := by
  rw [mergeCount]
  split
  · omega
  · rw [if_pos (by omega)]
    exact h

theorem merge (h : q.Invariant) {other : Query}
    (hother : ∀ c ∈ other.filters, c.target.IsDocument) : (q.merge other).Invariant := by
  have hfilters := h.areDistinct.mergeFilters hother
  refine ⟨⟨mergeCount_pos h.consistent.page, mergeCount_pos h.consistent.pageSize,
    nodup_foldl_addText _ h.consistent.includes, ?_, hfilters.pairwise⟩, hfilters.targets⟩
  show ((mergeOrderings q.orderings other.orderings).map (·.field)).Nodup
  rw [map_field_mergeOrderings]
  exact nodup_foldl_addText _ h.consistent.orderings

theorem setOrdering (h : q.Invariant) (field : String) (direction : Direction) :
    (q.setOrdering field direction).Invariant := by
  refine ⟨{ h.consistent with orderings := ?_ }, h.targets⟩
  show ((setDirection field direction q.orderings).map (·.field)).Nodup
  rw [map_field_setDirection]
  exact nodup_addText h.consistent.orderings field

/-- Orderings and included paths may be left out. -/
theorem with_sublists (h : q.Invariant) {os : List OrderBy} {paths : List String}
    (hos : os.Sublist q.orderings) (hpaths : paths.Sublist q.includes) :
    { q with orderings := os, includes := paths }.Invariant :=
  ⟨{ h.consistent with
      includes := h.consistent.includes.sublist hpaths
      orderings := h.consistent.orderings.sublist (hos.map _) }, h.targets⟩

theorem addInclude (h : q.Invariant) (path : String) : (q.addInclude path).Invariant :=
  ⟨{ h.consistent with includes := nodup_addText h.consistent.includes path }, h.targets⟩

theorem setHierarchy (h : q.Invariant) {path : Option String} {maxDepth : Int} {q' : Query}
    (hq : q.setHierarchy path maxDepth = .ok q') : q'.Invariant := by
  rw [Query.setHierarchy] at hq
  split at hq
  · exact absurd hq (by simp only [reduceCtorEq, not_false_eq_true])
  · rw [← Except.ok.inj hq]
    exact ⟨{ h.consistent with }, h.targets⟩

theorem setPaging (h : q.Invariant) {page pageSize : Int} {q' : Query}
    (hq : q.setPaging page pageSize = .ok q') : q'.Invariant := by
  rw [Query.setPaging] at hq
  split at hq
  · exact absurd hq (by simp only [reduceCtorEq, not_false_eq_true])
  split at hq
  · exact absurd hq (by simp only [reduceCtorEq, not_false_eq_true])
  · rename_i hpage hsize
    rw [← Except.ok.inj hq]
    exact ⟨{ h.consistent with page := Int.not_lt.mp hpage, pageSize := Int.not_lt.mp hsize },
      h.targets⟩

theorem clearField (h : q.Invariant) (field : String) : (q.clearField field).Invariant := by
  have hfilters := (h.areDistinct.filter fun c => !c.references field).of_alike
    (alike_withoutField field _)
  have hlists : { q with
      orderings := (q.clearField field).orderings
      filters := (q.clearField field).filters
      includes := (q.clearField field).includes }.Invariant :=
    (h.with_filters hfilters).with_sublists List.filter_sublist List.filter_sublist
  -- The hierarchy does not matter.
  exact ⟨{ hlists.consistent with }, hlists.targets⟩

/-- A change that fails leaves the query as it was. -/
theorem attempt (h : q.Invariant) {r : Except Fault Query} (hr : ∀ q', r = .ok q' → q'.Invariant) :
    (q.attempt r).1.Invariant := by
  cases r with
  | ok q' => exact hr q' rfl
  | error f => exact h

/-- A change keeps what holds at all times. -/
theorem apply (h : q.Invariant) {change : Change} (hchange : change.IsRead) :
    (q.apply change).1.Invariant := by
  -- One case for each change; what fails leaves the query as it was, except for `setFilter`.
  cases change with
  | setFilter field op operand logic => exact h.setFilter field op operand logic
  | removeFilter field op =>
      refine h.attempt fun q' hq' => ?_
      rcases bind_eq_ok_iff.mp hq' with ⟨op', -, hq'⟩
      rw [← Except.ok.inj hq']
      exact h.with_filters (h.areDistinct.filter _)
  | setOrdering field direction =>
      refine h.attempt fun q' hq' => ?_
      rcases bind_eq_ok_iff.mp hq' with ⟨d, -, hq'⟩
      rw [← Except.ok.inj hq']
      exact h.setOrdering field d
  | removeOrdering field => exact h.with_sublists List.filter_sublist (List.Sublist.refl _)
  | addInclude path => exact h.addInclude path
  | removeInclude path => exact h.with_sublists (List.Sublist.refl _) List.filter_sublist
  | setHierarchy path maxDepth =>
      exact h.attempt fun q' hq' => h.setHierarchy (passing_eq_ok_iff.mp hq')
  | setPaging page pageSize =>
      exact h.attempt fun q' hq' => h.setPaging (passing_eq_ok_iff.mp hq')
  | merge other =>
      rcases hchange with ⟨v, hv, hread⟩
      exact h.merge (isDocument_target_of_ofPayload hv hread)
  | clear => exact .of_standard rfl rfl rfl rfl rfl
  | clearField field => exact h.clearField field

/-- Changes keep what holds at all times. -/
theorem applyAll (h : q.Invariant) {changes : List Change} (hchanges : ∀ c ∈ changes, c.IsRead) :
    (q.applyAll changes).Invariant := by
  induction changes generalizing q with
  | nil => exact h
  | cons change changes ih =>
      exact ih (h.apply (hchanges change List.mem_cons_self)) fun c hc =>
        hchanges c (List.mem_cons_of_mem change hc)

end Invariant

/-- A new query stays consistent however it is changed, also by changes that fail,
    and whatever queries are merged into it. -/
theorem isConsistent_applyAll (changes : List Change) (h : ∀ c ∈ changes, c.IsRead) :
    (({} : Query).applyAll changes).IsConsistent :=
  have hnew : ({} : Query).Invariant := .of_standard rfl rfl rfl rfl rfl
  (hnew.applyAll h).consistent

/-- A page before the first one, two directions for one field, and two criteria on
    one field and operator. -/
def oddPayload : Value := .table [
  ("page", .int 0),
  ("orderings", .list [
    .table [("field", .text "name")],
    .table [("field", .text "name"), ("direction", .text "desc")]]),
  ("filters", .list [
    .table [("field", .text "status"), ("value", .text "active"), ("logic", .text "or")],
    .table [("field", .text "status"), ("value", .text "on_leave")]])]

/-- The query that it stands for. -/
def oddQuery : Query where
  page := 0
  orderings := [⟨"name", .ascending⟩, ⟨"name", .descending⟩]
  filters := activeOrOnLeave.filters

/-- Changes with one that fails, one that changes nothing, and two merges. -/
def oddChanges : List Change := [
  .setPaging 0 5,
  .setFilter "status" (.text "eq") (.literal (.text "terminated")) (.text "and"),
  .merge oddQuery,
  .addInclude "team",
  .addInclude "team",
  .merge oddQuery]

theorem isDocument_oddPayload : oddPayload.IsDocument := by
  have hint : (Value.int 0).IsJson := .int 0 (lt_pow_maxDigits (k := 0) (by decide) (by decide))
  refine Json.isDocument_of_isJson (.table_of_forall (by decide)
    ⟨hint, .list_of_forall ⟨.table_of_forall (by decide) (.text _), ?_⟩,
      .list_of_forall ⟨.table_of_forall (by decide) ?_, .table_of_forall (by decide) ?_⟩⟩)
  · exact .table_of_forall (by decide) ⟨.text _, .text _⟩
  · exact ⟨.text _, .text _, .text _⟩
  · exact ⟨.text _, .text _⟩

/-- Nothing that is odd about the merged query is left, and nothing is repeated when
    it is merged again. -/
theorem isConsistent_oddChanges :
    (∀ c ∈ oddChanges, c.IsRead) ∧ (({} : Query).applyAll oddChanges).IsConsistent := by
  have hread : ∀ c ∈ oddChanges, c.IsRead := by
    intro c hc
    have hmerge : (Change.merge oddQuery).IsRead := ⟨oddPayload, isDocument_oddPayload, rfl⟩
    simp only [oddChanges, List.mem_cons, List.not_mem_nil, or_false] at hc
    rcases hc with rfl | rfl | rfl | rfl | rfl | rfl
    · trivial
    · trivial
    · exact hmerge
    · trivial
    · trivial
    · exact hmerge
  exact ⟨hread, isConsistent_applyAll oddChanges hread⟩

end Query

end Criteria
