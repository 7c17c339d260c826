import Criteria.Compile.Basic
import Criteria.Proofs.Spec.Verdict

/-!
# Runs of Criteria

Which criteria the specifications of a query stand for, and what they say
together.

A list of criteria is read from left to right. A criterion joined by "or" leaves
its run open for the next one, a criterion joined by "and" closes it, and the
end of the list closes whatever is open. `IsCut` states this without saying how
the runs are found: the runs put end to end are the criteria, none is empty, and
inside a run every criterion but the last is joined by "or", while every run but
the last ends with "and". There is exactly one such list, `cut`.

`runs` works on criteria that carry their logic beside them, because compiling
replaces the criteria and keeps the logic. `forall₂_runs` is what makes the two
agree: cutting depends on the logic alone, so whatever relates the elements of
two lists place by place relates the runs place by place.

`compile_eq_cut` puts the compiler together from these. The runs and the
specifications go together place by place, for a run of any length: each
specification is made of the specifications of its own run's criteria, and its
verdict is that of its own run. The verdict parts ask for no more than that an
evaluation ends without an error. An error may hide behind a criterion that
already decided its run, and the statement holds there as well.

## Main definitions

* `IsCut`: A list of runs cuts the criteria.
* `cut`: The runs of criteria.
* `openRuns`: How many runs the end of the list closes.
* `Context.IsRunSpec`: A specification stands for a run.

## Theorems

* `isCut_iff`: The runs are the only cut.
* `length_cut`: How many runs there are.
* `forall₂_runs`: Cutting keeps what relates two lists place by place.
* `compileRuns_eq_ok`: The specifications stand for the runs.
* `Context.IsRunSpec.accepts_iff`: The specification of a run accepts exactly when a
  criterion of the run does.
* `Context.acceptsAll_append_iff`: The specifications accept exactly when each run
  has a criterion that does.
* `compile_eq_cut`: Compiling, run by run.
-/

namespace Criteria

/-- The runs cut the criteria: put end to end they are the criteria, and a run
    ends at each criterion joined by "and" and at the end of the list. -/
structure IsCut (criteria : List Criterion) (rs : List (List Criterion)) : Prop where
  flatten_eq : rs.flatten = criteria
  ne_nil : ∀ run ∈ rs, run ≠ []
  joined : ∀ run ∈ rs, ∀ x ∈ run.dropLast, x.logic = .or
  closed : ∀ run ∈ rs.dropLast, ∀ x ∈ run.getLast?, x.logic = .and

/-- The runs of criteria. -/
def cut (criteria : List Criterion) : List (List Criterion) :=
  runs (criteria.map fun x => (x.logic, x))

/-- One if the last criterion leaves its run open, else none. -/
def openRuns (criteria : List Criterion) : Nat :=
  if criteria.getLast?.map (·.logic) = some .or then 1 else 0

theorem openRuns_cons {x : Criterion} {xs : List Criterion} (hne : xs ≠ []) :
    openRuns (x :: xs) = openRuns xs := by
  rw [openRuns, openRuns, List.getLast?_cons_of_ne_nil hne]

theorem cut_cons_and {x : Criterion} (hx : x.logic = .and) (xs : List Criterion) :
    cut (x :: xs) = [x] :: cut xs := by
  rw [cut, List.map_cons, hx, runs]
  rfl

theorem cut_singleton_or {x : Criterion} (hx : x.logic = .or) : cut [x] = [[x]] := by
  rw [cut, List.map_cons, hx]
  rfl

theorem cut_cons_or {x : Criterion} (hx : x.logic = .or) {xs : List Criterion}
    {run : List Criterion} {more : List (List Criterion)} (h : cut xs = run :: more) :
    cut (x :: xs) = (x :: run) :: more := by
  rw [cut] at h
  rw [cut, List.map_cons, hx, runs, h]

/-- The end of an empty list closes nothing. -/
theorem cut_eq_nil_iff {criteria : List Criterion} : cut criteria = [] ↔ criteria = [] := by
  -- The first criterion is in the first run, whichever way it is joined to the next.
  cases criteria with
  | nil => simp only [cut, List.map_nil, runs]
  | cons x xs =>
      have hne : cut (x :: xs) ≠ [] := by
        cases hx : x.logic with
        | and =>
            rw [cut_cons_and hx]
            exact List.cons_ne_nil _ _
        | or =>
            rcases hrest : cut xs with _ | ⟨run, more⟩
            · rw [cut] at hrest
              rw [cut, List.map_cons, hx, runs, hrest]
              exact List.cons_ne_nil _ _
            · rw [cut_cons_or hx hrest]
              exact List.cons_ne_nil _ _
      exact iff_of_false hne (List.cons_ne_nil _ _)

theorem isCut_cut (criteria : List Criterion) : IsCut criteria (cut criteria) := by
  -- Induction on the criteria: the first one starts a run of its own or joins the run behind it.
  induction criteria with
  | nil => exact ⟨rfl, by simp [cut, runs], by simp [cut, runs], by simp [cut, runs]⟩
  | cons x xs ih =>
      cases hx : x.logic with
      | and =>
          rw [cut_cons_and hx]
          refine ⟨?_, ?_, ?_, ?_⟩
          · rw [List.flatten_cons, ih.flatten_eq, List.singleton_append]
          · exact List.forall_mem_cons.mpr ⟨List.cons_ne_nil _ _, ih.ne_nil⟩
          · exact List.forall_mem_cons.mpr ⟨by simp, ih.joined⟩
          · intro run hrun y hy
            rcases hrest : cut xs with _ | ⟨r, more⟩
            · rw [hrest] at hrun
              simp at hrun
            · rw [hrest, List.dropLast_cons_cons, List.mem_cons] at hrun
              rcases hrun with rfl | hrun
              · simp only [List.getLast?_singleton, Option.mem_def, Option.some.injEq] at hy
                rw [← hy, hx]
              · exact ih.closed run (by rw [hrest]; exact hrun) y hy
      | or =>
          rcases hrest : cut xs with _ | ⟨run, more⟩
          · rw [cut_eq_nil_iff] at hrest
            rw [hrest, cut_singleton_or hx]
            exact ⟨rfl, by simp, by simp, by simp⟩
          -- A criterion that is joined by OR stands in front of the first run.
          · rw [cut_cons_or hx hrest]
            rw [hrest] at ih
            have hne : run ≠ [] := ih.ne_nil run List.mem_cons_self
            refine ⟨?_, ?_, ?_, ?_⟩
            · rw [← ih.flatten_eq]
              rfl
            · exact List.forall_mem_cons.mpr
                ⟨List.cons_ne_nil _ _, (List.forall_mem_cons.mp ih.ne_nil).2⟩
            · refine List.forall_mem_cons.mpr ⟨?_, (List.forall_mem_cons.mp ih.joined).2⟩
              rw [List.dropLast_cons_of_ne_nil hne]
              exact List.forall_mem_cons.mpr ⟨hx, ih.joined run List.mem_cons_self⟩
            · intro r hr y hy
              rcases more with _ | ⟨next, more⟩
              · simp at hr
              · rw [List.dropLast_cons_cons, List.mem_cons] at hr
                -- Ends of runs are asked only of the runs before the last,
                -- so the last one is set apart.
                have hcl := ih.closed
                rw [List.dropLast_cons_cons] at hcl
                rcases hr with rfl | hr
                · rw [List.getLast?_cons_of_ne_nil hne] at hy
                  exact hcl run List.mem_cons_self y hy
                · exact hcl r (List.mem_cons_of_mem _ hr) y hy

/-- What is left of a cut after its first run is a cut of the criteria after
    it. -/
theorem IsCut.tail {run : List Criterion} {more : List (List Criterion)}
    {criteria : List Criterion} (h : IsCut criteria (run :: more)) : IsCut more.flatten more := by
  refine ⟨rfl, (List.forall_mem_cons.mp h.ne_nil).2, (List.forall_mem_cons.mp h.joined).2, ?_⟩
  intro r hr
  rcases more with _ | ⟨next, more⟩
  · exact absurd hr List.not_mem_nil
  · exact h.closed r (by rw [List.dropLast_cons_cons]; exact List.mem_cons_of_mem _ hr)

/-- The first run without its first criterion begins a cut of the others. -/
theorem IsCut.dropFirst {x y : Criterion} {run : List Criterion} {more : List (List Criterion)}
    {criteria : List Criterion} (h : IsCut criteria ((x :: y :: run) :: more)) :
    IsCut ((y :: run) ++ more.flatten) ((y :: run) :: more) := by
  refine ⟨rfl, ?_, ?_, ?_⟩
  · exact List.forall_mem_cons.mpr ⟨List.cons_ne_nil _ _, (List.forall_mem_cons.mp h.ne_nil).2⟩
  · refine List.forall_mem_cons.mpr ⟨?_, (List.forall_mem_cons.mp h.joined).2⟩
    intro z hz
    exact h.joined _ List.mem_cons_self z
      (by rw [List.dropLast_cons_cons]; exact List.mem_cons_of_mem x hz)
  -- The end of the first run is the same without its first criterion.
  · intro r hr z hz
    rcases more with _ | ⟨next, more⟩
    · simp at hr
    · have hcl := h.closed
      rw [List.dropLast_cons_cons] at hr hcl
      rcases List.mem_cons.mp hr with rfl | hr
      · exact hcl _ List.mem_cons_self z (by rw [List.getLast?_cons_cons]; exact hz)
      · exact hcl r (List.mem_cons_of_mem _ hr) z hz

/-- The runs are the only cut. -/
theorem isCut_iff {criteria : List Criterion} {rs : List (List Criterion)} :
    IsCut criteria rs ↔ rs = cut criteria := by
  constructor
  · intro h
    -- Induction on the criteria, for any cut of them.
    induction criteria generalizing rs with
    | nil =>
        rcases rs with _ | ⟨run, more⟩
        · rfl
        · have hrun : run = [] := (List.append_eq_nil_iff.mp h.flatten_eq).1
          exact absurd hrun (h.ne_nil run List.mem_cons_self)
    | cons x xs ih =>
        rcases rs with _ | ⟨_ | ⟨z, run⟩, more⟩
        · exact absurd h.flatten_eq (List.cons_ne_nil x xs).symm
        · exact absurd rfl (h.ne_nil [] List.mem_cons_self)
        have hflat : z = x ∧ run ++ more.flatten = xs := by
          rw [← List.cons.injEq]
          exact h.flatten_eq
        rcases hflat with ⟨rfl, hxs⟩
        -- The first run ends at its first criterion or goes on behind it.
        rcases run with _ | ⟨y, run⟩
        · have hmore : more = cut xs := ih (hxs ▸ h.tail)
          cases hz : z.logic with
          | and => rw [cut_cons_and hz, hmore]
          | or =>
              rcases more with _ | ⟨next, more⟩
              · rw [List.flatten_nil, List.append_nil] at hxs
                rw [← hxs, cut_singleton_or hz]
              · have hand : z.logic = .and :=
                  h.closed [z] (by rw [List.dropLast_cons_cons]; exact List.mem_cons_self) z
                    (by simp)
                exact absurd (hz.symm.trans hand) (by decide)
        · have hz : z.logic = .or :=
            h.joined _ List.mem_cons_self z
              (by rw [List.dropLast_cons_cons]; exact List.mem_cons_self)
          have hrest : (y :: run) :: more = cut xs := ih (hxs ▸ h.dropFirst)
          rw [cut_cons_or hz hrest.symm]
  · intro h
    rw [h]
    exact isCut_cut criteria

/-- There is one run for each criterion joined by "and", and one more if the last
    criterion leaves its run open. -/
theorem length_cut (criteria : List Criterion) :
    (cut criteria).length = criteria.countP (·.logic == .and) + openRuns criteria := by
  -- Every AND closes one run, and what is left open at the end is one more.
  induction criteria with
  | nil => rfl
  | cons x xs ih =>
      cases hx : x.logic with
      | and =>
          rw [cut_cons_and hx, List.length_cons, ih, List.countP_cons, hx]
          rcases xs with _ | ⟨y, ys⟩
          · simp [openRuns, hx]
          · rw [openRuns_cons (List.cons_ne_nil y ys)]
            simp only [BEq.rfl, if_true]
            omega
      | or =>
          rcases hrest : cut xs with _ | ⟨run, more⟩
          · rw [cut_eq_nil_iff] at hrest
            rw [hrest, cut_singleton_or hx]
            simp [openRuns, hx]
          · have hne : xs ≠ [] := fun h => by
              rw [cut_eq_nil_iff.mpr h] at hrest
              exact absurd hrest.symm (List.cons_ne_nil run more)
            rw [hrest, List.length_cons] at ih
            rw [cut_cons_or hx hrest, openRuns_cons hne, List.countP_cons, hx, List.length_cons, ih]
            rfl

/-- Cutting keeps what relates two lists place by place. -/
theorem forall₂_runs {α β : Type} {R : α → β → Prop} (logic : α → Logic) {as : List α}
    {bs : List β} (h : List.Forall₂ R as bs) :
    List.Forall₂ (List.Forall₂ R) (runs (as.map fun a => (logic a, a)))
      (runs ((as.map logic).zip bs)) := by
  -- Induction on the two lists, which are cut at the same places.
  induction h with
  | nil => exact .nil
  | @cons a b as bs hab _ ih =>
      rw [List.map_cons, List.map_cons, List.zip_cons_cons]
      cases logic a with
      | and =>
          rw [runs, runs]
          exact .cons (.cons hab .nil) ih
      | or =>
          rw [runs, runs]
          generalize runs (as.map fun a => (logic a, a)) = left at ih
          generalize runs ((as.map logic).zip bs) = right at ih
          cases ih with
          | nil => exact .cons (.cons hab .nil) .nil
          | cons hrun hmore => exact .cons (.cons hab hrun) hmore

namespace Context

/-- The specification stands for a run: it is made of the specifications of the
    run's criteria. -/
def IsRunSpec (c : Context) (entity : TypeExpr) (run : List Criterion) (x : Spec) : Prop :=
  ∃ own, List.Forall₂ (fun y s => c.compileCriterion entity y = .ok s) run own ∧
    Spec.oneOf own = .ok x

variable {c : Context} {entity : TypeExpr} {criteria : List Criterion}

/-- A run that is not empty has a specification. -/
theorem exists_isRunSpec {run : List Criterion} {own : List Spec} (hne : run ≠ [])
    (h : List.Forall₂ (fun y s => c.compileCriterion entity y = .ok s) run own) :
    ∃ x, Spec.oneOf own = .ok x := by
  cases h with
  | nil => exact absurd rfl hne
  | cons _ hrest => cases hrest <;> exact ⟨_, rfl⟩

/-- The specifications of runs that are not empty. -/
theorem exists_specs_of_runs {rs : List (List Criterion)} {owns : List (List Spec)}
    (hne : ∀ run ∈ rs, run ≠ [])
    (h : List.Forall₂ (List.Forall₂ fun y s => c.compileCriterion entity y = .ok s) rs owns) :
    ∃ specs, (owns.mapM fun own => passing (Spec.oneOf own)) = .ok specs ∧
      List.Forall₂ (c.IsRunSpec entity) rs specs := by
  induction h with
  | nil => exact ⟨[], rfl, .nil⟩
  | cons hrun _ ih =>
      rcases exists_isRunSpec (hne _ List.mem_cons_self) hrun with ⟨x, hx⟩
      rcases ih fun r hr => hne r (List.mem_cons_of_mem _ hr) with ⟨specs, hspecs, hrel⟩
      refine ⟨x :: specs, ?_, .cons ⟨_, hrun, hx⟩ hrel⟩
      rw [List.mapM_cons, hx, hspecs]
      rfl

/-- Where every criterion compiles there is one specification for each run, in
    their order. -/
theorem compileRuns_eq_ok (h : ∀ x ∈ criteria, ∃ own, c.compileCriterion entity x = .ok own) :
    ∃ specs, c.compileRuns entity criteria = .ok specs ∧
      List.Forall₂ (c.IsRunSpec entity) (cut criteria) specs := by
  rcases exists_mapM_eq_ok h with ⟨own, hown⟩
  have hruns := forall₂_runs Criterion.logic (mapM_eq_ok_iff.mp hown)
  rcases exists_specs_of_runs (isCut_cut criteria).ne_nil hruns with ⟨specs, hspecs, hrel⟩
  exact ⟨specs, by rw [compileRuns, hown]; exact hspecs, hrel⟩

/-- Where a criterion does not compile nothing does, and the first such criterion
    says why. -/
theorem compileRuns_eq_error {before after : List Criterion} {x : Criterion} {f : Fault}
    (hbefore : ∀ y ∈ before, ∃ own, c.compileCriterion entity y = .ok own)
    (hx : c.compileCriterion entity x = .error f) :
    c.compileRuns entity (before ++ x :: after) = .error f := by
  rw [compileRuns, mapM_eq_error hbefore hx]
  rfl

/-- The specification of a run of one criterion is that criterion's own. -/
theorem IsRunSpec.of_singleton {y : Criterion} {x : Spec} (h : c.IsRunSpec entity [y] x) :
    c.compileCriterion entity y = .ok x := by
  rcases h with ⟨own, hown, hx⟩
  cases hown with
  | cons hy hnil =>
      cases hnil
      rw [hy, ← Except.ok.inj hx]

/-- The run has a criterion whose own specification accepts the candidate. -/
def RunAccepts (c : Context) (entity : TypeExpr) (run : List Criterion) (v : Value) : Prop :=
  ∃ y ∈ run, ∃ own, c.compileCriterion entity y = .ok own ∧ own.accepts c.schema v = .ok true

/-- A run accepts what its specification accepts. -/
theorem IsRunSpec.runAccepts {run : List Criterion} {x : Spec} {v : Value}
    (h : c.IsRunSpec entity run x) (hx : x.accepts c.schema v = .ok true) :
    c.RunAccepts entity run v := by
  rcases h with ⟨own, hown, hone⟩
  rw [Spec.accepts_oneOf hone] at hx
  rcases Spec.exists_of_acceptsAny hx with ⟨o, ho, hval⟩
  rcases forall₂_exists_left hown ho with ⟨y, hy, hcompiled⟩
  exact ⟨y, hy, o, hcompiled, hval⟩

/-- A run accepts nothing that its specification refuses. -/
theorem IsRunSpec.not_runAccepts {run : List Criterion} {x : Spec} {v : Value}
    (h : c.IsRunSpec entity run x) (hx : x.accepts c.schema v = .ok false) :
    ¬ c.RunAccepts entity run v := by
  rcases h with ⟨own, hown, hone⟩
  rw [Spec.accepts_oneOf hone] at hx
  rintro ⟨y, hy, o, ho, hval⟩
  rcases forall₂_exists_right hown hy with ⟨o', ho', hcompiled⟩
  have hsame : o' = o := Except.ok.inj (hcompiled.symm.trans ho)
  have hrefuse := Spec.forall_of_acceptsAny hx o' ho'
  rw [hsame, hval] at hrefuse
  exact absurd (Except.ok.inj hrefuse) Bool.noConfusion

/-- Where its evaluation ends without an error, the specification of a run accepts
    exactly when the run has a criterion that does. -/
theorem IsRunSpec.accepts_iff {run : List Criterion} {x : Spec} (h : c.IsRunSpec entity run x)
    {v : Value} {b : Bool} (hb : x.accepts c.schema v = .ok b) :
    b = true ↔ c.RunAccepts entity run v := by
  cases b with
  | true => exact iff_of_true rfl (h.runAccepts hb)
  | false => exact iff_of_false Bool.false_ne_true (h.not_runAccepts hb)

/-- The specification of a run gives a verdict where the tests of its criteria
    answer. -/
theorem IsRunSpec.exists_accepts {run : List Criterion} {x : Spec} {v : Value}
    (h : c.IsRunSpec entity run x)
    (hans : ∀ y ∈ run, ∀ own, c.compileCriterion entity y = .ok own → own.Answers c.schema v) :
    ∃ b, x.accepts c.schema v = .ok b := by
  rcases h with ⟨own, hown, hone⟩
  rw [Spec.accepts_oneOf hone]
  refine Spec.exists_acceptsAny fun o ho => ?_
  rcases forall₂_exists_left hown ho with ⟨y, hy, hcompiled⟩
  exact Spec.exists_accepts_of_answers c.schema o v (hans y hy o hcompiled)

/-- Where the evaluation of the specifications ends without an error, it accepts
    exactly when the further specifications do and every run does. -/
theorem acceptsAll_append_iff {rs : List (List Criterion)} {specs further : List Spec} {v : Value}
    (hrel : List.Forall₂ (c.IsRunSpec entity) rs specs) {b : Bool}
    (hb : Spec.acceptsAll c.schema (specs ++ further) v = .ok b) :
    b = true ↔ (∀ x ∈ further, x.accepts c.schema v = .ok true) ∧
      ∀ run ∈ rs, c.RunAccepts entity run v := by
  cases b with
  | true =>
      refine iff_of_true rfl ⟨fun x hx => ?_, fun run hrun => ?_⟩
      · exact Spec.acceptsAll_eq_true_iff.mp hb x (List.mem_append_right specs hx)
      · rcases forall₂_exists_right hrel hrun with ⟨x, hx, hspec⟩
        exact hspec.runAccepts
          (Spec.acceptsAll_eq_true_iff.mp hb x (List.mem_append_left further hx))
  | false =>
      -- A refusal comes from one specification, of a run or of the others.
      refine iff_of_false Bool.false_ne_true fun ⟨hfurther, hruns⟩ => ?_
      rcases Spec.exists_of_acceptsAll_eq_false hb with ⟨x, hx, hrefuse⟩
      rcases List.mem_append.mp hx with hx | hx
      · rcases forall₂_exists_left hrel hx with ⟨run, hrun, hspec⟩
        exact hspec.not_runAccepts hrefuse (hruns run hrun)
      · rw [hfurther x hx] at hrefuse
        exact absurd (Except.ok.inj hrefuse) Bool.noConfusion

end Context

/-- Compiling criteria, run by run. There is one way to cut the criteria. Where
    every criterion compiles, there is one specification for each run, in the order
    of the runs, and the further specifications follow unchanged. The specification
    of a run is made of those of the run's criteria, for a run of one criterion it is
    that criterion's own, and any verdict of it accepts exactly when the run has a
    criterion whose own specification does. Together the specifications give a
    verdict wherever all tests in them answer, and any verdict they give accepts
    exactly when the further ones accept and every run has such a criterion. Where
    some criterion does not compile, the first such criterion says why. -/
theorem compile_eq_cut (c : Context) (entity : TypeExpr) (criteria : List Criterion)
    (further : List Spec) :
    ∃ rs, IsCut criteria rs ∧ (∀ other, IsCut criteria other → other = rs) ∧
      ((∀ x ∈ criteria, ∃ own, c.compileCriterion entity x = .ok own) →
        ∃ specs, c.compile entity criteria further = .ok (specs ++ further) ∧
          specs.length = rs.length ∧
          specs.length = criteria.countP (·.logic == .and) + openRuns criteria ∧
          List.Forall₂ (c.IsRunSpec entity) rs specs ∧
          List.Forall₂ (fun run x => ∀ y, run = [y] → c.compileCriterion entity y = .ok x)
            rs specs ∧
          List.Forall₂ (fun run x => ∀ v b, x.accepts c.schema v = .ok b →
              (b = true ↔ c.RunAccepts entity run v))
            rs specs ∧
          ∀ v,
            ((∀ x ∈ criteria, ∀ own,
                c.compileCriterion entity x = .ok own → own.Answers c.schema v) →
              (∀ x ∈ further, x.Answers c.schema v) →
              ∃ b, Spec.acceptsAll c.schema (specs ++ further) v = .ok b) ∧
            ∀ b, Spec.acceptsAll c.schema (specs ++ further) v = .ok b →
              (b = true ↔ (∀ x ∈ further, x.accepts c.schema v = .ok true) ∧
                ∀ run ∈ rs, c.RunAccepts entity run v)) ∧
      ∀ before x after f, criteria = before ++ x :: after →
        (∀ y ∈ before, ∃ own, c.compileCriterion entity y = .ok own) →
        c.compileCriterion entity x = .error f → c.compile entity criteria further = .error f := by
  have hcut := isCut_cut criteria
  refine ⟨cut criteria, hcut, fun other h => isCut_iff.mp h, fun hall => ?_, ?_⟩
  · rcases Context.compileRuns_eq_ok hall with ⟨specs, hspecs, hrel⟩
    have hlen : specs.length = (cut criteria).length := hrel.length_eq.symm
    refine ⟨specs, by rw [Context.compile, hspecs]; rfl, hlen, hlen.trans (length_cut criteria),
      hrel, ?_, ?_, fun v => ⟨fun hown hfurther => ?_, fun b hb => ?_⟩⟩
    · exact hrel.imp fun run x hspec y hrun => (hrun ▸ hspec).of_singleton
    · exact hrel.imp fun _ _ hspec _ _ => hspec.accepts_iff
    · refine Spec.exists_acceptsAll fun x hx => ?_
      rcases List.mem_append.mp hx with hx | hx
      -- A criterion of a run is one of the criteria, for the runs put end to end are they.
      · rcases forall₂_exists_left hrel hx with ⟨run, hrun, hspec⟩
        refine hspec.exists_accepts fun y hy => hown y ?_
        rw [← hcut.flatten_eq]
        exact List.mem_flatten_of_mem hrun hy
      · exact Spec.exists_accepts_of_answers c.schema x v (hfurther x hx)
    · exact Context.acceptsAll_append_iff hrel hb
  · intro before x after f hcriteria hbefore hx
    rw [hcriteria, Context.compile, Context.compileRuns_eq_error hbefore hx]
    rfl

end Criteria
