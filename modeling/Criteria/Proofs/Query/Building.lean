import Criteria.Proofs.Compile.Negation
import Criteria.Proofs.Compile.Paths
import Criteria.Proofs.Query.Fresh
import Criteria.Query.Builder
import Criteria.Result.Shape

/-!
# Paths of Queries Built Step by Step

Which paths of a built query are known to lead somewhere.

Building looks up paths as they are added, so that a wrong one is found there and
not when the query is compiled. It looks for them in the places it knows: the field
of a criterion, an ordering, an included path, a hierarchy, and the parameter
`field` of a custom filter that is finished. Compiling looks in more places. The
parameter may be spelled in other ways there, it may have come after the filter was
finished, a search in texts names its fields in another parameter, a quantifier needs
a collection and not just any field, and its operand may be a criterion with paths of
its own. A step is guarded if it keeps away from these places, or is right about
them.

That all paths lead somewhere is what a guarded step preserves, and with it a run of
guarded steps; inside a collection it is said of the type of the elements. The
parameters of a custom filter change from step to step while it is built, so for them
the invariant is about the filter so far: a later step that finishes it is still to
come, or the field it names has been looked up.

## Main definitions

* `Query.Leads`: All paths of a query lead somewhere.
* `CustomStep.NamesChecked`: The field that a custom filter names is looked up.
* `BuildStep.IsGuarded`: A step adds no path that is not looked up.

## Theorems

* `ResultShape.exists_ofQuery`: A query whose paths lead somewhere has a shape.
* `QueryBuilder.runCustom_eq`: A custom filter after its steps.
* `QueryBuilder.leads_custom`: The steps of a guarded custom filter.
* `QueryBuilder.leads_run`, `QueryBuilder.leads_runAll`: Guarded steps.
* `QueryBuilder.pathless_of_runAll`: A query of guarded steps does not fail for a
  path.
* `QueryBuilder.compile_runAll_nowhereMissing`: A query of other steps may.
-/

namespace Criteria

open Fitted

variable {s : Schema} {entity : TypeExpr}

/-- All paths of a query lead somewhere, as far as compiling follows them. -/
structure Query.Leads (s : Schema) (entity : TypeExpr) (q : Query) : Prop where
  criteria : ∀ x ∈ q.filters, x.Leads s entity
  orderings : ∀ o ∈ q.orderings, s.Leads entity o.field
  includes : ∀ path ∈ q.includes, s.Leads entity path
  hierarchy : ∀ path ∈ q.hierarchy, s.Leads entity path
  depth : 1 ≤ q.maxDepth

section Shape

/-- Where all paths lead somewhere the shape of the results is known. -/
theorem ResultShape.exists_ofQuery {q : Query} (h : q.Leads s entity) :
    ∃ shape, ResultShape.ofQuery s entity q = .ok shape := by
  -- The three parts of the shape are built independently; each path in them leads somewhere by `h`.
  have horders : ∃ orders, q.orderings.mapM (SortKey.ofOrdering s entity) = .ok orders := by
    refine exists_mapM_eq_ok fun o ho => ?_
    rcases h.orderings o ho with ⟨a, ha⟩
    exact ⟨⟨a.path, o.direction, some a⟩, by rw [SortKey.ofOrdering, ha]; rfl⟩
  have hincludes : ∃ includes, Include.ofPaths s entity q.includes = .ok includes := by
    refine exists_mapM_eq_ok fun path hpath => ?_
    rcases h.includes path ((uniqueBy_sublist id _).subset hpath) with ⟨a, ha⟩
    exact ⟨⟨path, some a⟩, by rw [Include.ofPath, ha]; rfl⟩
  have hhierarchy : ∃ followed,
      Hierarchy.ofPath? s entity q.hierarchy q.maxDepth = .ok followed := by
    unfold Hierarchy.ofPath?
    split
    · exact ⟨none, rfl⟩
    · exact ⟨none, rfl⟩
    · rename_i path _ hpath
      rcases h.hierarchy path hpath with ⟨a, ha⟩
      rw [if_neg (by have := h.depth; omega), ha]
      exact ⟨_, rfl⟩
  rcases horders with ⟨orders, horders⟩
  rcases hincludes with ⟨includes, hincludes⟩
  rcases hhierarchy with ⟨followed, hhierarchy⟩
  -- With all parts at hand the construction does not fail.
  rw [ResultShape.ofQuery]
  simp only [horders, hincludes, hhierarchy, bind, Except.bind, pure, Except.pure]
  exact ⟨_, rfl⟩

end Shape

section Parameters

variable {key k : String} {v : Value} {ps : List (String × Value)}

theorem mem_setParameter {e : String × Value} (h : e ∈ setParameter key v ps) :
    e = (key, v) ∨ e ∈ ps := by
  induction ps with
  | nil => exact .inl (List.mem_singleton.mp h)
  | cons p ps ih =>
      rw [setParameter] at h
      split at h
      · rcases List.mem_cons.mp h with h | h
        · exact .inl h
        · exact .inr (List.mem_cons_of_mem p h)
      · rcases List.mem_cons.mp h with rfl | h
        · exact .inr List.mem_cons_self
        · rcases ih h with h | h
          · exact .inl h
          · exact .inr (List.mem_cons_of_mem p h)

/-- Setting a parameter gives no key twice. -/
theorem nodup_setParameter (h : (ps.map Prod.fst).Nodup) :
    ((setParameter key v ps).map Prod.fst).Nodup := by
  -- Induction on the parameters, along the search for the key.
  induction ps with
  | nil => exact List.nodup_singleton key
  | cons p ps ih =>
      rw [List.map_cons, List.nodup_cons] at h
      rw [setParameter]
      split
      · rename_i hkey
        rw [List.map_cons, List.nodup_cons]
        exact ⟨hkey ▸ h.1, h.2⟩
      · rename_i hkey
        rw [List.map_cons, List.nodup_cons]
        refine ⟨fun hmem => ?_, ih h.2⟩
        rcases List.mem_map.mp hmem with ⟨e, he, hfst⟩
        -- What stands behind the first pair is either the new parameter, whose
        -- key is another, or was there before.
        rcases mem_setParameter he with rfl | he
        · exact hkey hfst.symm
        · exact h.1 (hfst ▸ List.mem_map_of_mem he)

/-- A parameter that is found is one of those given, under a key that is the same in
    lower case. -/
theorem Parameters.exists_of_get? {type : CustomType} (spelling : String)
    (hspelling : Parameters.spellings key = [spelling])
    (h : v ∈ (Parameters.ofEntries type ps).get? key) :
    ∃ k, (k, v) ∈ ps ∧ Text.lower k = Text.lower spelling := by
  rw [Parameters.get?, hspelling, List.findSome?_singleton, Option.mem_def,
    Option.filter_eq_some_iff] at h
  have hmem := mem_of_lookup h.1
  rw [Parameters.ofEntries, List.mem_reverse] at hmem
  rcases List.mem_map.mp hmem with ⟨e, he, heq⟩
  rcases Prod.mk.inj heq with ⟨hk, rfl⟩
  exact ⟨e.1, he, hk⟩

end Parameters

namespace CustomStep

/-- Each parameter that compiling takes for the field is one that finishing the
    filter looks up: it is spelled that way, and the filter is finished later. -/
def NamesChecked : List CustomStep → Prop
  | [] => True
  | .parameter key _ :: steps =>
    (Text.lower key = "field" → key = "field" ∧ .finish ∈ steps) ∧ NamesChecked steps
  | .finish :: steps => NamesChecked steps

/-- The steps of a custom filter add no path that is not looked up. -/
def AreGuarded (s : Schema) (entity : TypeExpr) (type : CustomType) (steps : List CustomStep) :
    Prop :=
  .finish ∈ steps →
    (type.kind = .custom → type ≠ .fullTextSearch → NamesChecked steps) ∧
    (type = .fullTextSearch → ∀ key v, .parameter key v ∈ steps → Text.lower key = "fields" →
      ∀ path ∈ (v.readList [',', ';']).filterMap Value.text?, s.Leads entity path)

/-- The parameters of a custom filter after some steps. -/
def parametersAfter : List CustomStep → List (String × Value) → List (String × Value)
  | [], ps => ps
  | .parameter key v :: steps, ps => parametersAfter steps (setParameter key v ps)
  | .finish :: steps, ps => parametersAfter steps ps

/-- How often a custom filter is finished. -/
def finishes : List CustomStep → Nat
  | [] => 0
  | .parameter _ _ :: steps => finishes steps
  | .finish :: steps => finishes steps + 1

variable {steps : List CustomStep} {ps : List (String × Value)}

theorem finish_mem_of_finishes (h : finishes steps ≠ 0) : .finish ∈ steps := by
  induction steps with
  | nil => exact absurd rfl h
  | cons step steps ih =>
      cases step with
      | parameter key v => exact List.mem_cons_of_mem _ (ih h)
      | finish => exact List.mem_cons_self

/-- All parameters come from somewhere. -/
theorem mem_parametersAfter {e : String × Value} (h : e ∈ parametersAfter steps ps) :
    e ∈ ps ∨ .parameter e.1 e.2 ∈ steps := by
  -- Induction on the steps, for any parameters that were given before them.
  induction steps generalizing ps with
  | nil => exact .inl h
  | cons step steps ih =>
      cases step with
      | parameter key v =>
          rcases ih h with h | h
          · rcases mem_setParameter h with rfl | h
            · exact .inr List.mem_cons_self
            · exact .inl h
          · exact .inr (List.mem_cons_of_mem _ h)
      | finish =>
          rcases ih h with h | h
          · exact .inl h
          · exact .inr (List.mem_cons_of_mem _ h)

end CustomStep

namespace BuildStep

mutual

/-- The step adds no path that is not looked up. Of a quantifier the field has to be a
    collection, and what is asked of its elements is guarded for their type. -/
def IsGuarded (s : Schema) (entity : TypeExpr) : BuildStep → Prop
  | .filter field op operand _ => ∀ o, Operator.vocabulary.read op = .ok o → o.isQuantifier = true →
      ∃ a element, s.resolve entity field = .ok a ∧ a.element = some element ∧
        ∀ l x n, Criterion.simple field o operand l = .ok x → x.nested? = some n →
          n.Leads s element
  | .collection field op steps _ => ∀ o, Operator.vocabulary.read op = .ok o →
      o.isQuantifier = true →
      ∃ a element, s.resolve entity field = .ok a ∧ a.element = some element ∧
        AreGuarded s element steps
  | .custom type _ steps => ∀ t, CustomType.vocabulary.read type = .ok t →
      CustomStep.AreGuarded s entity t steps
  | _ => True
termination_by structural step => step

/-- The steps add no paths that are not looked up. -/
def AreGuarded (s : Schema) (entity : TypeExpr) : List BuildStep → Prop
  | [] => True
  | step :: steps => IsGuarded s entity step ∧ AreGuarded s entity steps
termination_by structural steps => steps

end

end BuildStep

namespace QueryBuilder

variable {b b' : QueryBuilder}

/-- A step that does not fail gives what it is meant to give. -/
theorem keeping_eq_iff {x : Except Fault QueryBuilder} :
    b.keeping x = (b', none) ↔ x = .ok b' := by
  cases x with
  | ok d => simp only [keeping, Prod.mk.injEq, and_true, Except.ok.injEq]
  | error f => simp only [keeping, Prod.mk.injEq, reduceCtorEq, and_false]

/-- What is looked up leads somewhere. -/
theorem check_eq_ok_iff (hb : b.entity = some entity) {path : String} {u : Unit} :
    b.check s path = .ok u ↔ s.Leads entity path := by
  rw [check, hb, Schema.Leads]
  dsimp only
  cases s.resolve entity path with
  | ok a => simp [Except.map, Except.mapError]
  | error e => simp [Except.map, Except.mapError]

/-- The query under construction is about a type of entity, and its paths lead
    somewhere. -/
def Leads (s : Schema) (entity : TypeExpr) (b : QueryBuilder) : Prop :=
  b.entity = some entity ∧ b.query.Leads s entity

/-- A new query has no paths. -/
theorem leads_new (entity : TypeExpr) : Query.Leads s entity {} :=
  ⟨nofun, nofun, nofun, nofun, by decide⟩

/-- One more criterion whose paths lead somewhere. -/
theorem Leads.add (h : b.Leads s entity) {x : Criterion} (hx : x.Leads s entity) :
    (b.add x).Leads s entity := by
  refine ⟨h.1, ?_, h.2.orderings, h.2.includes, h.2.hierarchy, h.2.depth⟩
  intro y hy
  rcases List.mem_append.mp hy with hy | hy
  · exact h.2.criteria y hy
  · rw [List.mem_singleton.mp hy]
    exact hx

section Custom

variable {c : Criterion} {steps : List CustomStep} {n : Nat}

/-- A custom filter has the parameters it was given, and stands in the query as often
    as it was finished. -/
theorem runCustom_eq (h : runCustom s b c n steps = (b', none)) :
    b' = b.addCopies { c with parameters := CustomStep.parametersAfter steps c.parameters }
      (n + CustomStep.finishes steps) := by
  -- Induction on the steps: each `finish` adds one copy more, of
  -- the filter as it stands at the end.
  induction steps generalizing c n with
  | nil =>
      cases c
      exact (Prod.mk.inj h).1.symm
  | cons step steps ih =>
      cases step with
      | parameter key v =>
          rw [runCustom] at h
          exact ih h
      | finish =>
          rw [runCustom] at h
          -- A failing check would have been reported.
          split at h
          · exact absurd (Prod.mk.inj h).2 (Option.some_ne_none _)
          · rw [ih h, CustomStep.finishes, CustomStep.parametersAfter, Nat.add_assoc,
              Nat.add_comm 1]

/-- What the parameters name as the field leads somewhere. -/
def FieldLeads (s : Schema) (entity : TypeExpr) (ps : List (String × Value)) : Prop :=
  ∀ e ∈ ps, Text.lower e.1 = "field" → ∀ path ∈ e.2.text?, s.Leads entity path

/-- Finishing a filter looks up its field, whose key is there once and spelled in one
    way only. -/
theorem fieldLeads_of_checkTarget (hb : b.entity = some entity) {u : Unit}
    (hnodup : (c.parameters.map Prod.fst).Nodup)
    (hspelled : ∀ e ∈ c.parameters, Text.lower e.1 = "field" → e.1 = "field")
    (h : b.checkTarget s c = .ok u) : FieldLeads s entity c.parameters := by
  intro e he hlower path hpath
  have hlookup : c.parameters.lookup "field" = some e.2 := by
    rw [lookup_eq_some_iff_mem hnodup, ← hspelled e he hlower]
    exact he
  rw [checkTarget, hlookup, Option.bind_some, Option.mem_def.mp hpath] at h
  exact (check_eq_ok_iff hb).mp h

-- Until the filter is finished for the last time its field may still change, so the
-- induction carries that it either will be finished or has been looked up.
theorem fieldLeads_of_runCustom (hb : b.entity = some entity)
    (hnodup : (c.parameters.map Prod.fst).Nodup)
    (hspelled : ∀ e ∈ c.parameters, Text.lower e.1 = "field" → e.1 = "field")
    (hchecked : CustomStep.NamesChecked steps)
    (hpending : .finish ∈ steps ∨ FieldLeads s entity c.parameters)
    (h : runCustom s b c n steps = (b', none)) :
    FieldLeads s entity (CustomStep.parametersAfter steps c.parameters) := by
  -- Induction on the steps. What is kept is that a field which has not been looked up yet will be,
  -- because a `finish` still follows.
  induction steps generalizing c n with
  | nil => exact hpending.resolve_left List.not_mem_nil
  | cons step steps ih =>
      cases step with
      | parameter key v =>
          rw [runCustom] at h
          refine ih (c := { c with parameters := setParameter key v c.parameters })
            (nodup_setParameter hnodup) (fun e he hlower => ?_) hchecked.2 ?_ h
          · rcases mem_setParameter he with rfl | he
            · exact (hchecked.1 hlower).1
            · exact hspelled e he hlower
          · -- Another field has not been looked up, but then the filter is finished later.
            by_cases hkey : Text.lower key = "field"
            · exact .inl (hchecked.1 hkey).2
            · rcases hpending with hfinish | hleads
              · rcases List.mem_cons.mp hfinish with hfinish | hfinish
                · cases hfinish
                · exact .inl hfinish
              · refine .inr fun e he hlower => ?_
                rcases mem_setParameter he with rfl | he
                · exact absurd hlower hkey
                · exact hleads e he hlower
      | finish =>
          rw [runCustom] at h
          split at h
          · exact absurd (Prod.mk.inj h).2 (Option.some_ne_none _)
          -- The check made by `finish` looks up the field as it is now.
          · rename_i hcheck
            exact ih hnodup hspelled hchecked
              (.inr (fieldLeads_of_checkTarget hb hnodup hspelled hcheck)) h

/-- The steps of a guarded custom filter. -/
theorem leads_custom (hb : b.Leads s entity) {type logic : Value}
    (hguarded : ∀ t, CustomType.vocabulary.read type = .ok t →
      CustomStep.AreGuarded s entity t steps)
    (hc : newCustom type logic = .ok c) (h : runCustom s b c 0 steps = (b', none)) :
    b'.Leads s entity := by
  -- The kind and the logic were read, so the steps are run on a fresh filter.
  rcases bind_eq_ok_iff.mp hc with ⟨t, ht, hc⟩
  rcases bind_eq_ok_iff.mp hc with ⟨l, -, hc⟩
  have hguarded := hguarded t (passing_eq_ok_iff.mp ht)
  rw [← Except.ok.inj hc] at h
  rw [runCustom_eq h]
  refine ⟨hb.1, fun x hx => ?_, hb.2.orderings, hb.2.includes, hb.2.hierarchy, hb.2.depth⟩
  rcases List.mem_append.mp hx with hx | hx
  · exact hb.2.criteria x hx
  -- A filter that is in the query was finished, and only such a filter is guarded.
  rcases List.mem_replicate.mp hx with ⟨hfinished, rfl⟩
  rw [Nat.zero_add] at hfinished
  have hfinish := CustomStep.finish_mem_of_finishes hfinished
  rcases hguarded hfinish with ⟨hnamed, hsearch⟩
  -- The kind of the filter says which of its paths a query follows.
  cases hkind : t.kind with
  | named => exact .named hkind
  | composite => exact .composite hkind
  | simple =>
      refine .test hkind rfl fun path hpath => ?_
      exact absurd hpath (Option.not_mem_none path)
  | custom =>
      by_cases htype : t = .fullTextSearch
      · refine .search htype fun path hpath => ?_
        unfold Criterion.searchFields at hpath
        dsimp only at hpath
        cases hget :
          (Parameters.ofEntries t (CustomStep.parametersAfter steps [])).get? "fields" with
        | none =>
            rw [hget] at hpath
            exact absurd hpath List.not_mem_nil
        | some v =>
            rw [hget] at hpath
            rcases Parameters.exists_of_get? "fields" rfl hget with ⟨k, hk, hlower⟩
            have hstep := (CustomStep.mem_parametersAfter hk).resolve_left List.not_mem_nil
            exact hsearch htype k v hstep (hlower.trans (by decide)) path hpath
      · refine .custom hkind htype fun v hv path hpath => ?_
        rcases Parameters.exists_of_get? "field" rfl hv with ⟨k, hk, hlower⟩
        have hleads : FieldLeads s entity (CustomStep.parametersAfter steps []) :=
          fieldLeads_of_runCustom (c := { type := t, logic := l }) hb.1 List.nodup_nil
            (fun e he => absurd he List.not_mem_nil) (hnamed hkind htype) (.inl hfinish) h
        exact hleads (k, v) hk (hlower.trans (by decide)) path hpath

end Custom

section Steps

theorem leads_setPages (hb : b.Leads s entity) {page : Value} {pageSize : Option Value}
    (h : b.setPages page pageSize = .ok b') : b'.Leads s entity := by
  rcases bind_eq_ok_iff.mp h with ⟨⟨n, size⟩, -, h⟩
  rcases bind_eq_ok_iff.mp h with ⟨q, hq, h⟩
  rw [← Except.ok.inj h]
  have hsame : q = { b.query with page := n, pageSize := size } := by
    have hq := passing_eq_ok_iff.mp hq
    rw [Query.setPaging] at hq
    split at hq
    · cases hq
    · split at hq
      · cases hq
      · exact (Except.ok.inj hq).symm
  rw [hsame]
  exact ⟨hb.1, hb.2.criteria, hb.2.orderings, hb.2.includes, hb.2.hierarchy, hb.2.depth⟩

theorem leads_addSimple (hb : b.Leads s entity) {field : String} {op logic : Value}
    {operand : Operand Criterion}
    (hguarded : BuildStep.IsGuarded s entity (.filter field op operand logic))
    (h : b.addSimple s field op operand logic = .ok b') : b'.Leads s entity := by
  rcases bind_eq_ok_iff.mp h with ⟨u, hcheck, h⟩
  rcases bind_eq_ok_iff.mp h with ⟨o, ho, h⟩
  rcases bind_eq_ok_iff.mp h with ⟨l, -, h⟩
  rcases bind_eq_ok_iff.mp h with ⟨x, hx, h⟩
  rw [← Except.ok.inj h]
  -- The field was checked before anything was built.
  have hfield := (check_eq_ok_iff hb.1).mp hcheck
  have hnew := Criterion.eq_of_simple hx
  have hkind : x.kind = .simple := by rw [hnew]; rfl
  -- A nested criterion counts only under a quantifier, where the guard covers it.
  refine hb.add (.of_field hkind (congrArg Criterion.field hnew) hfield fun hquantifier => ?_)
  rw [hnew] at hquantifier
  rcases hguarded o (passing_eq_ok_iff.mp ho) hquantifier with ⟨a, element, ha, helement, hnested⟩
  exact ⟨a, element, ha, helement, fun n hn => hnested l x n hx hn⟩

theorem leads_addQuantified (hb : b.Leads s entity) {field : String} {op logic : Value}
    {filters : List Criterion} (hfield : s.Leads entity field)
    (hfilters : ∀ o, Operator.vocabulary.read op = .ok o → o.isQuantifier = true →
      ∃ a element, s.resolve entity field = .ok a ∧ a.element = some element ∧
        ∀ x ∈ filters, x.Leads s element)
    (h : b.addQuantified field op logic filters = .ok b') : b'.Leads s entity := by
  -- Without inner filters nothing is added.
  unfold addQuantified at h
  split at h
  · rw [← Except.ok.inj h]
    exact hb
  rcases bind_eq_ok_iff.mp h with ⟨o, ho, h⟩
  rcases bind_eq_ok_iff.mp h with ⟨l, -, h⟩
  rw [← Except.ok.inj h]
  refine hb.add (.of_field rfl rfl hfield fun hquantifier => ?_)
  rcases hfilters o (passing_eq_ok_iff.mp ho) hquantifier with ⟨a, element, ha, helement, hinner⟩
  -- Only the first of the inner filters is used, and all of them lead somewhere.
  exact ⟨a, element, ha, helement, fun n hn => hinner n (List.mem_of_mem_head? hn)⟩

theorem leads_addNamed (hb : b.Leads s entity) {name logic : Value} {arguments : List Value}
    (h : b.addNamed name arguments logic = .ok b') : b'.Leads s entity := by
  rcases bind_eq_ok_iff.mp h with ⟨l, -, h⟩
  rcases bind_eq_ok_iff.mp h with ⟨n, -, h⟩
  rw [← Except.ok.inj h]
  exact hb.add (.named rfl)

theorem leads_addComposite (hb : b.Leads s entity) {nodes : List NodeDraft} {logic : Value}
    (h : b.addComposite nodes logic = .ok b') : b'.Leads s entity := by
  rcases bind_eq_ok_iff.mp h with ⟨ns, -, h⟩
  rcases bind_eq_ok_iff.mp h with ⟨l, -, h⟩
  rw [← Except.ok.inj h]
  exact hb.add (.composite rfl)

theorem mem_setDirection {field : String} {direction : Direction} {os : List OrderBy} {o : OrderBy}
    (h : o ∈ setDirection field direction os) : o.field = field ∨ o ∈ os := by
  induction os with
  | nil =>
      rw [List.mem_singleton.mp h]
      exact .inl rfl
  | cons p os ih =>
      rw [setDirection] at h
      split at h
      · rcases List.mem_cons.mp h with rfl | h
        · exact .inl rfl
        · exact .inr (List.mem_cons_of_mem p h)
      · rcases List.mem_cons.mp h with rfl | h
        · exact .inr List.mem_cons_self
        · exact (ih h).imp_right (List.mem_cons_of_mem p)

theorem leads_addOrdering (hb : b.Leads s entity) {field : String} {direction : Value}
    (h : b.addOrdering s field direction = .ok b') : b'.Leads s entity := by
  rcases bind_eq_ok_iff.mp h with ⟨u, hcheck, h⟩
  rcases bind_eq_ok_iff.mp h with ⟨d, -, h⟩
  rw [← Except.ok.inj h]
  refine ⟨hb.1, hb.2.criteria, fun o ho => ?_, hb.2.includes, hb.2.hierarchy, hb.2.depth⟩
  rcases mem_setDirection ho with hfield | ho
  · rw [hfield]
    exact (check_eq_ok_iff hb.1).mp hcheck
  · exact hb.2.orderings o ho

theorem leads_addInclusion (hb : b.Leads s entity) {path : String}
    (h : b.addInclusion s path = .ok b') : b'.Leads s entity := by
  rcases bind_eq_ok_iff.mp h with ⟨u, hcheck, h⟩
  rw [← Except.ok.inj h]
  refine ⟨hb.1, hb.2.criteria, hb.2.orderings, fun p hp => ?_, hb.2.hierarchy, hb.2.depth⟩
  have hmem : p ∈ addText b.query.includes path := hp
  rw [addText] at hmem
  split at hmem
  · exact hb.2.includes p hmem
  · rcases List.mem_append.mp hmem with hmem | hmem
    · exact hb.2.includes p hmem
    · rw [List.mem_singleton.mp hmem]
      exact (check_eq_ok_iff hb.1).mp hcheck

theorem leads_addHierarchy (hb : b.Leads s entity) {path : String} {maxDepth : Int}
    (h : b.addHierarchy s path maxDepth = .ok b') : b'.Leads s entity := by
  rcases bind_eq_ok_iff.mp h with ⟨u, hcheck, h⟩
  rcases bind_eq_ok_iff.mp h with ⟨q, hq, h⟩
  rw [← Except.ok.inj h]
  have hq := passing_eq_ok_iff.mp hq
  rw [Query.setHierarchy] at hq
  split at hq
  · cases hq
  · rename_i hdepth
    rw [← Except.ok.inj hq]
    refine ⟨hb.1, hb.2.criteria, hb.2.orderings, hb.2.includes, fun p hp => ?_, ?_⟩
    · rw [← Option.some.inj hp]
      exact (check_eq_ok_iff hb.1).mp hcheck
    · exact Int.not_lt.mp hdepth

/-- The builder inside a collection is about its elements. -/
theorem leads_inside (hb : b.entity = some entity) {field : String} {inner : QueryBuilder}
    (h : b.inside s field = .ok inner) :
    ∃ a, s.resolve entity field = .ok a ∧
      ∀ element, a.element = some element → inner.Leads s element := by
  -- The inner builder starts at the elements of the resolved field, if it has any.
  rw [inside, hb] at h
  rcases bind_eq_ok_iff.mp h with ⟨a, ha, h⟩
  have ha : s.resolve entity field = .ok a := by
    cases hcase : s.resolve entity field with
    | ok d =>
        rw [hcase] at ha
        exact congrArg Except.ok (Except.ok.inj ha)
    | error e =>
        rw [hcase] at ha
        cases ha
  refine ⟨a, ha, fun element helement => ?_⟩
  rw [← Except.ok.inj h]
  exact ⟨helement, leads_new element⟩

end Steps

mutual

/-- A guarded step that does not fail adds paths that lead somewhere. -/
theorem leads_run : ∀ (step : BuildStep) {entity : TypeExpr} {b b' : QueryBuilder},
    b.Leads s entity → step.IsGuarded s entity → run s b step = (b', none) → b'.Leads s entity
  -- One case for each kind of step; the steps that nest call the theorem on what is inside.
  | .paging _ _, _, _, _, hb, _, h => leads_setPages hb (keeping_eq_iff.mp h)
  | .filter .., _, _, _, hb, hguarded, h => leads_addSimple hb hguarded (keeping_eq_iff.mp h)
  | .collection field op steps logic, entity, b, b', hb, hguarded, h => by
      rcases bind_eq_ok_iff.mp (keeping_eq_iff.mp h) with ⟨start, hstart, h⟩
      rcases bind_eq_ok_iff.mp h with ⟨inner, hinner, h⟩
      rcases leads_inside hb.1 hstart with ⟨a, ha, hinside⟩
      -- Steps inside start at the elements, and for their type they are guarded.
      refine leads_addQuantified hb ⟨a, ha⟩ (fun o ho hquantifier => ?_) h
      rcases hguarded o ho hquantifier with ⟨a', element, ha', helement, hsteps⟩
      have hsame : a' = a := Except.ok.inj (ha'.symm.trans ha)
      rw [hsame] at helement
      refine ⟨a, element, ha, helement, ?_⟩
      exact (leads_runAll steps (hinside element helement) hsteps hinner).2.criteria
  | .custom type logic steps, _, _, _, hb, hguarded, h => by
      rw [run] at h
      split at h
      · rename_i hc
        exact leads_custom hb hguarded hc h
      · exact absurd (Prod.mk.inj h).2 (Option.some_ne_none _)
  | .named .., _, _, _, hb, _, h => leads_addNamed hb (keeping_eq_iff.mp h)
  | .composite .., _, _, _, hb, _, h => leads_addComposite hb (keeping_eq_iff.mp h)
  | .ordering .., _, _, _, hb, _, h => leads_addOrdering hb (keeping_eq_iff.mp h)
  | .inclusion _, _, _, _, hb, _, h => leads_addInclusion hb (keeping_eq_iff.mp h)
  | .hierarchy .., _, _, _, hb, _, h => leads_addHierarchy hb (keeping_eq_iff.mp h)
  | .skipped step, _, _, _, hb, _, h => by
      rcases map_eq_ok_iff.mp (keeping_eq_iff.mp h) with ⟨u, -, rfl⟩
      exact hb

/-- Guarded steps that do not fail add paths that lead somewhere. -/
theorem leads_runAll : ∀ (steps : List BuildStep) {entity : TypeExpr} {b b' : QueryBuilder},
    b.Leads s entity → BuildStep.AreGuarded s entity steps → runAll s b steps = .ok b' →
      b'.Leads s entity
  | [], _, _, _, hb, _, h => Except.ok.inj h ▸ hb
  | step :: steps, _, _, _, hb, hguarded, h => by
      rw [runAll] at h
      split at h
      · rename_i hrun
        exact leads_runAll steps (leads_run step hb hguarded.1 hrun) hguarded.2 h
      · cases h

end

/-- A query that is built for a type of entity in guarded steps, none of which fails,
    neither fails for a path when it is compiled nor when the shape of its results is
    asked for. -/
theorem pathless_of_runAll {c : Context} (hc : c.IsPathless) {steps : List BuildStep}
    (hguarded : BuildStep.AreGuarded c.schema entity steps) {b : QueryBuilder}
    (h : runAll c.schema { entity := some entity } steps = .ok b) (further : List Spec) :
    (∀ f, c.compile entity b.query.filters further = .error f → ¬ f.IsPathError) ∧
      ∃ shape, ResultShape.ofQuery c.schema entity b.query = .ok shape := by
  have hleads := (leads_runAll steps ⟨rfl, leads_new entity⟩ hguarded h).2
  refine ⟨?_, ResultShape.exists_ofQuery hleads⟩
  exact Context.failsOnly_compile further fun x hx =>
    Context.pathless_compileCriterion hc (hleads.criteria x hx)

/-- People with an address in Berlin and an e-mail address, by name and with their
    managers. -/
def berliners : List BuildStep :=
  [.collection "addresses" (.text "any")
      [.filter "city" (.text "eq") (.literal (.text "Berlin")) (.text "and")] (.text "and"),
    .custom (.text "isnotnull") (.text "and") [.parameter "field" (.text "email"), .finish],
    .ordering "lastName" (.text "asc"),
    .inclusion "manager"]

theorem areGuarded_berliners :
    BuildStep.AreGuarded Catalog.schema (Catalog.entityNamed "Person") berliners := by
  refine ⟨fun o _ _ => ⟨_, _, rfl, rfl, ?_, trivial⟩, fun t ht _ => ?_, trivial, trivial, trivial⟩
  · intro o ho hquantifier
    have heq : o = .equal := (Except.ok.inj ho).symm
    rw [heq] at hquantifier
    exact absurd hquantifier Bool.false_ne_true
  · have hnull : t = .isNotNull := (Except.ok.inj ht).symm
    refine ⟨fun _ _ => ⟨fun _ => ⟨rfl, List.mem_cons_self⟩, trivial⟩, fun htype => ?_⟩
    rw [hnull] at htype
    cases htype

theorem isPathless_ofSample : Context.ofSample.IsPathless :=
  ⟨nofun, nofun⟩

/-- All paths of such a query have been looked up. -/
theorem pathless_of_runAll_berliners : ∃ b,
    runAll Catalog.schema { entity := some (Catalog.entityNamed "Person") } berliners = .ok b ∧
      (∀ f, Context.ofSample.compile (Catalog.entityNamed "Person") b.query.filters [] = .error f →
        ¬ f.IsPathError) ∧
      ∃ shape, ResultShape.ofQuery Catalog.schema (Catalog.entityNamed "Person") b.query =
        .ok shape := by
  have hok : (runAll Catalog.schema { entity := some (Catalog.entityNamed "Person") }
      berliners).isOk = true := by decide +kernel
  cases hrun :
    runAll Catalog.schema { entity := some (Catalog.entityNamed "Person") } berliners with
  | error f =>
      rw [hrun] at hok
      cases hok
  | ok b =>
      exact ⟨b, rfl, pathless_of_runAll (c := Context.ofSample) isPathless_ofSample
        areGuarded_berliners hrun []⟩

/-- A custom filter that names its field in capitals. -/
def nowhereMissing : List BuildStep :=
  [.custom (.text "isnull") (.text "and") [.parameter "Field" (.text "nowhere"), .finish]]

/-- The field is not looked up under that spelling, and only compiling finds that there
    is none. -/
theorem compile_runAll_nowhereMissing :
    ¬ ∀ (c : Context) (entity : TypeExpr) (steps : List BuildStep) (b : QueryBuilder),
      c.IsPathless → runAll c.schema { entity := some entity } steps = .ok b →
        ∀ f, c.compile entity b.query.filters [] = .error f → ¬ f.IsPathError := by
  intro h
  exact h Context.ofSample (Catalog.entityNamed "Person") nowhereMissing _ isPathless_ofSample rfl _
    rfl trivial

end QueryBuilder

end Criteria
