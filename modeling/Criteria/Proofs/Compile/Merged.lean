import Criteria.Proofs.Compile.Runs
import Criteria.Proofs.Query.Merge
import Criteria.Proofs.Result.Paging

/-!
# Specifications of Merged Queries

What a merged query accepts, in terms of what the two queries accept.

Merging queries that do not supersede each other's criteria puts the criteria of
the one behind those of the other, and only compiling cuts them into runs. Where
a run ends is decided by the criteria that come first. If the existing criteria
close their last run, or if there are no incoming ones, the runs of the merged
query are those of the two, and it accepts what both accept.

If the existing criteria leave their last run open, the first incoming run goes
on with it, so that one run is made of two. All other runs stay as they are. The
merged query still accepts whatever both accept, but it also accepts what only
one of the two runs does: a query with an open end is not narrowed by the
criterion that comes next.

## Theorems

* `cut_append_of_closed`, `cut_append_of_open`: The runs of criteria put behind
  others.
* `Context.IsRunSpec.accepts_append`: The specification of a run made of two.
* `Context.compileRuns_append_of_closed`, `Context.compileRuns_append_of_open`: The
  specifications of criteria put behind others.
* `Context.compile_merge`: What a merged query accepts.
-/

namespace Criteria

section Runs

variable {xs ys : List Criterion}

theorem openRuns_singleton {x : Criterion} : openRuns [x] = 0 ↔ x.logic = .and := by
  rw [openRuns, List.getLast?_singleton, Option.map_some]
  cases x.logic <;> decide

-- Nothing is left open, so the incoming criteria begin a run of their own.
theorem cut_append_of_closed (h : openRuns xs = 0) : cut (xs ++ ys) = cut xs ++ cut ys := by
  induction xs with
  | nil => rfl
  | cons x xs ih =>
      -- The last criterion closes the run; any other one passes on what is left open.
      rcases xs with _ | ⟨y, rest⟩
      · rw [openRuns_singleton] at h
        rw [List.singleton_append, cut_cons_and h, cut_cons_and h]
        rfl
      · rw [openRuns_cons (List.cons_ne_nil y rest)] at h
        have hrest := ih h
        rw [List.cons_append]
        cases hx : x.logic with
        | and => rw [cut_cons_and hx, cut_cons_and hx, hrest, List.cons_append]
        | or =>
            rcases hcut : cut (y :: rest) with _ | ⟨run, more⟩
            · exact absurd (cut_eq_nil_iff.mp hcut) (List.cons_ne_nil y rest)
            · have hopen : cut (y :: rest ++ ys) = run :: (more ++ cut ys) := by
                rw [hrest, hcut, List.cons_append]
              rw [cut_cons_or hx hcut, cut_cons_or hx hopen, List.cons_append]

-- The induction is on the criteria that come first; `before` shrinks with each run
-- that is closed on the way, and the open run is the last one that is left.
theorem cut_append_of_open {before more : List (List Criterion)} {run next : List Criterion}
    (h : openRuns xs ≠ 0) (hxs : cut xs = before ++ [run]) (hys : cut ys = next :: more) :
    cut (xs ++ ys) = before ++ (run ++ next) :: more := by
  induction xs generalizing before run with
  | nil => exact absurd rfl h
  | cons x xs ih =>
      rw [List.cons_append]
      rcases xs with _ | ⟨y, rest⟩
      · have hx : x.logic = .or := by
          cases hx : x.logic with
          | and => exact absurd (openRuns_singleton.mpr hx) h
          | or => rfl
        rw [cut_singleton_or hx] at hxs
        have hparts : [] ++ [[x]] = before ++ [run] := hxs
        rcases List.append_inj' hparts rfl with ⟨hbefore, hrun⟩
        rw [← hbefore, ← List.singleton_inj.mp hrun]
        exact cut_cons_or hx hys
      · rw [openRuns_cons (List.cons_ne_nil y rest)] at h
        rcases hcut : cut (y :: rest) with _ | ⟨r, rs⟩
        · exact absurd (cut_eq_nil_iff.mp hcut) (List.cons_ne_nil y rest)
        cases hx : x.logic with
        | and =>
            rw [cut_cons_and hx, hcut] at hxs
            -- The run of `x` is closed, so it is not the last one.
            rcases before with _ | ⟨b, before⟩
            · exact absurd (List.cons.inj hxs).2 (List.cons_ne_nil r rs)
            rcases List.cons.inj hxs with ⟨hb, htail⟩
            rw [cut_cons_and hx, ih h (hcut.trans htail), hb, List.cons_append]
        | or =>
            rw [cut_cons_or hx hcut] at hxs
            -- The run of `x` may be the open one itself.
            rcases before with _ | ⟨b, before⟩
            · rcases List.cons.inj hxs with ⟨hrun, hrs⟩
              have hopen : cut (y :: rest ++ ys) = [] ++ (r ++ next) :: more :=
                ih h (by rw [hcut, hrs]; rfl)
              rw [cut_cons_or hx hopen, ← hrun]
              rfl
            · rcases List.cons.inj hxs with ⟨hb, htail⟩
              have hopen : cut (y :: rest ++ ys) = (r :: before) ++ (run ++ next) :: more :=
                ih h (by rw [hcut, htail]; rfl)
              rw [cut_cons_or hx hopen, hb]
              rfl

end Runs

namespace Spec

/-- A specification that is asked like one and then like another one accepts what
    either accepts. -/
theorem exists_verdict_or {s : Schema} {x y z : Spec} {v : Value}
    (hz : accepts s z v = (do if ← accepts s x v then return true else accepts s y v))
    (hx : ∃ b, accepts s x v = .ok b) (hy : ∃ b, accepts s y v = .ok b) :
    (∃ b, accepts s z v = .ok b) ∧
      (accepts s z v = .ok true ↔ accepts s x v = .ok true ∨ accepts s y v = .ok true) := by
  rcases hx with ⟨a, ha⟩
  rcases hy with ⟨b, hb⟩
  rw [hz, ha, hb]
  cases a with
  | true => exact ⟨⟨true, rfl⟩, iff_of_true rfl (.inl rfl)⟩
  | false =>
      refine ⟨⟨b, rfl⟩, .inr, fun h => h.resolve_left fun hfalse => ?_⟩
      exact Bool.false_ne_true (Except.ok.inj hfalse)

end Spec

namespace Context

variable {c : Context} {entity : TypeExpr} {xs ys : List Criterion} {bs os : List Spec}

section Specifications

/-- A row of steps has one row of results. -/
theorem compiled_inj {run : List Criterion} {own other : List Spec}
    (h : List.Forall₂ (fun y s => c.compileCriterion entity y = .ok s) run own)
    (h' : List.Forall₂ (fun y s => c.compileCriterion entity y = .ok s) run other) :
    own = other :=
  List.right_unique_forall₂' (fun _ _ _ hs ht => Except.ok.inj (hs.symm.trans ht)) h h'

theorem IsRunSpec.inj {run : List Criterion} {x y : Spec} (hx : c.IsRunSpec entity run x)
    (hy : c.IsRunSpec entity run y) : x = y := by
  rcases hx with ⟨own, hown, hone⟩
  rcases hy with ⟨other, hother, hone'⟩
  rw [compiled_inj hother hown, hone] at hone'
  exact Except.ok.inj hone'

/-- The specification of a run made of two is asked like the one of the first run
    and then, if that refuses, like the one of the second. -/
theorem IsRunSpec.accepts_append {run next : List Criterion} {x y z : Spec}
    (hx : c.IsRunSpec entity run x) (hy : c.IsRunSpec entity next y)
    (hz : c.IsRunSpec entity (run ++ next) z) (v : Value) :
    z.accepts c.schema v =
      (do if ← x.accepts c.schema v then return true else y.accepts c.schema v) := by
  rcases hx with ⟨own, hown, hone⟩
  rcases hy with ⟨own', hown', hone'⟩
  rcases hz with ⟨both, hboth, hall⟩
  have hsame : both = own ++ own' := compiled_inj hboth (List.rel_append hown hown')
  rw [Spec.accepts_oneOf hall, Spec.accepts_oneOf hone, Spec.accepts_oneOf hone', hsame,
    Spec.acceptsAny_append]

/-- Criteria that are compiled together compile one by one, and the specifications
    stand for their runs. -/
theorem of_compileRuns_eq_ok (h : c.compileRuns entity xs = .ok bs) :
    (∀ x ∈ xs, ∃ own, c.compileCriterion entity x = .ok own) ∧
      List.Forall₂ (c.IsRunSpec entity) (cut xs) bs := by
  rcases bind_eq_ok_iff.mp h with ⟨own, hown, -⟩
  have hall : ∀ x ∈ xs, ∃ own, c.compileCriterion entity x = .ok own := by
    intro x hx
    rcases forall₂_exists_right (mapM_eq_ok_iff.mp hown) hx with ⟨s, -, hs⟩
    exact ⟨s, hs⟩
  rcases compileRuns_eq_ok hall with ⟨specs, hspecs, hrel⟩
  rw [h] at hspecs
  rw [Except.ok.inj hspecs]
  exact ⟨hall, hrel⟩

/-- Criteria that compile apart compile one behind the other. -/
theorem exists_compileRuns_append (hxs : c.compileRuns entity xs = .ok bs)
    (hys : c.compileRuns entity ys = .ok os) :
    ∃ ms, c.compileRuns entity (xs ++ ys) = .ok ms ∧
      List.Forall₂ (c.IsRunSpec entity) (cut (xs ++ ys)) ms := by
  refine compileRuns_eq_ok fun x hx => ?_
  rcases List.mem_append.mp hx with hx | hx
  · exact (of_compileRuns_eq_ok hxs).1 x hx
  · exact (of_compileRuns_eq_ok hys).1 x hx

/-- Behind criteria that leave no run open the specifications stay as they are. -/
theorem compileRuns_append_of_closed (hxs : c.compileRuns entity xs = .ok bs)
    (hys : c.compileRuns entity ys = .ok os) (h : openRuns xs = 0 ∨ ys = []) :
    c.compileRuns entity (xs ++ ys) = .ok (bs ++ os) := by
  rcases exists_compileRuns_append hxs hys with ⟨ms, hms, hrel⟩
  have hcut : cut (xs ++ ys) = cut xs ++ cut ys := by
    rcases h with h | rfl
    · exact cut_append_of_closed h
    · rw [List.append_nil, cut_eq_nil_iff.mpr rfl, List.append_nil]
  rw [hcut] at hrel
  have hparts := List.rel_append (of_compileRuns_eq_ok hxs).2 (of_compileRuns_eq_ok hys).2
  rw [hms, List.right_unique_forall₂' (fun _ _ _ hx hy => hx.inj hy) hrel hparts]

/-- Behind criteria that leave a run open the last specification and the first
    incoming one become one. -/
theorem compileRuns_append_of_open (hxs : c.compileRuns entity xs = .ok bs)
    (hys : c.compileRuns entity ys = .ok os) (h : openRuns xs ≠ 0) (hne : ys ≠ []) :
    ∃ before x y after z, bs = before ++ [x] ∧ os = y :: after ∧
      c.compileRuns entity (xs ++ ys) = .ok (before ++ z :: after) ∧
      ∀ v, z.accepts c.schema v =
        (do if ← x.accepts c.schema v then return true else y.accepts c.schema v) := by
  rcases exists_compileRuns_append hxs hys with ⟨ms, hms, hrel⟩
  have hbs := (of_compileRuns_eq_ok hxs).2
  have hos := (of_compileRuns_eq_ok hys).2
  -- Something is left open on the left, so there is a last run to be joined.
  rcases List.eq_nil_or_concat' (cut xs) with hcut | ⟨rs, run, hcut⟩
  · rw [cut_eq_nil_iff] at hcut
    exact absurd (by rw [hcut]; rfl) h
  rcases hcut' : cut ys with _ | ⟨next, more⟩
  · exact absurd (cut_eq_nil_iff.mp hcut') hne
  rw [cut_append_of_open h hcut hcut'] at hrel
  rw [hcut] at hbs
  rw [hcut'] at hos
  -- The specifications on either side are taken apart at that run.
  rcases forall₂_append_left hbs with ⟨before, last, rfl, hbefore, hlast⟩
  rcases List.forall₂_cons_left_iff.mp hlast with ⟨x, _, hx, hnil, rfl⟩
  rw [List.forall₂_nil_left_iff] at hnil
  rcases List.forall₂_cons_left_iff.mp hos with ⟨y, after, hy, hafter, rfl⟩
  rcases forall₂_append_left hrel with ⟨before', rest, rfl, hbefore', hrest⟩
  rcases List.forall₂_cons_left_iff.mp hrest with ⟨z, after', hz, hafter', rfl⟩
  -- Equal runs have equal specifications, so everything but the joined run is as before.
  have hinj {us vs : List Spec} {rs : List (List Criterion)}
      (hu : List.Forall₂ (c.IsRunSpec entity) rs us)
      (hv : List.Forall₂ (c.IsRunSpec entity) rs vs) : us = vs :=
    List.right_unique_forall₂' (fun _ _ _ hs ht => hs.inj ht) hu hv
  refine ⟨before, x, y, after, z, by rw [hnil], rfl, ?_, hx.accepts_append hy hz⟩
  rw [hms, hinj hbefore hbefore', hinj hafter hafter']

end Specifications

/-- Criteria without further specifications. -/
theorem compile_nil (c : Context) (entity : TypeExpr) (xs : List Criterion) :
    c.compile entity xs [] = c.compileRuns entity xs := by
  rw [compile]
  cases c.compileRuns entity xs with
  | error f => rfl
  | ok specs => exact congrArg Except.ok (List.append_nil specs)

/-- What a merged query accepts, where no criterion is superseded and both queries
    compile. The merged query compiles, and it accepts whatever both accept. If the
    first query closes its last run, or the second one has no criteria, nothing
    else is accepted. Otherwise the last specification of the first query and the
    first one of the second need not both accept: one of them has to, and all the
    others. -/
theorem compile_merge (c : Context) (entity : TypeExpr) (base other : Query)
    {bs os : List Spec} (hkept : ∀ x ∈ other.filters, ∀ y ∈ base.filters, x.replaces y = false)
    (hself : other.filters.Pairwise fun x y => y.replaces x = false)
    (hbs : c.compile entity base.filters [] = .ok bs)
    (hos : c.compile entity other.filters [] = .ok os) :
    ∃ ms, c.compile entity (base.merge other).filters [] = .ok ms ∧
      ∀ v, (∀ x ∈ bs ++ os, x.Answers c.schema v) →
        ∃ inBase inOther inMerged,
          Spec.acceptsAll c.schema bs v = .ok inBase ∧
          Spec.acceptsAll c.schema os v = .ok inOther ∧
          Spec.acceptsAll c.schema ms v = .ok inMerged ∧
          (inBase = true → inOther = true → inMerged = true) ∧
          (openRuns base.filters = 0 ∨ other.filters = [] →
            (inMerged = true ↔ inBase = true ∧ inOther = true)) ∧
          (openRuns base.filters ≠ 0 → other.filters ≠ [] →
            ∃ x ∈ bs.getLast?, ∃ y ∈ os.head?,
              (inMerged = true ↔
                (∀ z ∈ bs.dropLast ++ os.tail, z.accepts c.schema v = .ok true) ∧
                  (x.accepts c.schema v = .ok true ∨ y.accepts c.schema v = .ok true))) := by
  have hfilters : (base.merge other).filters = base.filters ++ other.filters :=
    mergeFilters_eq_append hkept hself
  simp only [compile_nil, hfilters] at hbs hos ⊢
  have hverdict {v : Value} (h : ∀ x ∈ bs ++ os, x.Answers c.schema v) (x : Spec)
      (hx : x ∈ bs ++ os) : ∃ b, x.accepts c.schema v = .ok b :=
    Spec.exists_accepts_of_answers c.schema x v (h x hx)
  -- Either nothing is open, and the specifications stand side by side, or two runs are joined.
  by_cases hclosed : openRuns base.filters = 0 ∨ other.filters = []
  · refine ⟨bs ++ os, compileRuns_append_of_closed hbs hos hclosed, fun v hans => ?_⟩
    rcases Spec.exists_verdict fun x hx => hverdict hans x (List.mem_append_left os hx) with
      ⟨inBase, hinBase, hbase⟩
    rcases Spec.exists_verdict fun x hx => hverdict hans x (List.mem_append_right bs hx) with
      ⟨inOther, hinOther, hother⟩
    rcases Spec.exists_verdict (hverdict hans) with ⟨inMerged, hinMerged, hmerged⟩
    have hiff : inMerged = true ↔ inBase = true ∧ inOther = true := by
      rw [hmerged, hbase, hother, List.forall_mem_append]
    exact ⟨inBase, inOther, inMerged, hinBase, hinOther, hinMerged,
      fun hb ho => hiff.mpr ⟨hb, ho⟩, fun _ => hiff,
      fun hopen hne => absurd hclosed (not_or.mpr ⟨hopen, hne⟩)⟩
  · rw [not_or] at hclosed
    rcases compileRuns_append_of_open hbs hos hclosed.1 hclosed.2 with
      ⟨before, x, y, after, z, rfl, rfl, hms, hz⟩
    refine ⟨before ++ z :: after, hms, fun v hans => ?_⟩
    -- The joined run accepts when one of its two parts does.
    have hjoined := Spec.exists_verdict_or (hz v) (hverdict hans x (by simp))
      (hverdict hans y (by simp))
    rcases Spec.exists_verdict fun w hw => hverdict hans w (List.mem_append_left _ hw) with
      ⟨inBase, hinBase, hbase⟩
    rcases Spec.exists_verdict fun w hw => hverdict hans w (List.mem_append_right _ hw) with
      ⟨inOther, hinOther, hother⟩
    have hmembers : ∀ w ∈ before ++ z :: after, ∃ b, w.accepts c.schema v = .ok b := by
      rw [List.forall_mem_append, List.forall_mem_cons]
      exact ⟨fun w hw => hverdict hans w (by simp [hw]), hjoined.1,
        fun w hw => hverdict hans w (by simp [hw])⟩
    rcases Spec.exists_verdict hmembers with ⟨inMerged, hinMerged, hmerged⟩
    rw [List.forall_mem_append, List.forall_mem_cons, hjoined.2] at hmerged
    rw [List.forall_mem_append, List.forall_mem_singleton] at hbase
    rw [List.forall_mem_cons] at hother
    refine ⟨inBase, inOther, inMerged, hinBase, hinOther, hinMerged, fun hb ho => ?_,
      fun h => absurd h (not_or.mpr hclosed), fun _ _ => ⟨x, ?_, y, rfl, ?_⟩⟩
    · have hb' := hbase.mp hb
      have ho' := hother.mp ho
      exact hmerged.mpr ⟨hb'.1, .inl hb'.2, ho'.2⟩
    · rw [List.getLast?_concat, Option.mem_def]
    · rw [hmerged, List.dropLast_concat, List.tail_cons, List.forall_mem_append, and_assoc,
        and_congr_right_iff]
      exact fun _ => and_comm

/-- Scores of two and more, or whatever comes next. -/
def twoOrMore : Query where
  filters := [
    { field := some "score"
      op := .greaterOrEqual
      operand := .literal (.int 2)
      logic := .or }]

/-- Scores of three at most, and below nine. -/
def threeOrLess : Query where
  filters := [
    { field := some "score", op := .lessOrEqual, operand := .literal (.int 3) },
    { field := some "score", op := .less, operand := .literal (.int 9) }]

/-- The scores of rows in an order to a number. -/
def scoreTest (op : Operator) (n : Int) : Spec :=
  let score : Accessor := ⟨.any, "score", ["score"], .any, .any, true, none⟩
  ofRows.guarded score (ofRows.test score op (.int n) none)

/-- All tests answer for a score of five. -/
theorem answers_five : ∀ x ∈ [scoreTest .greaterOrEqual 2] ++
    [scoreTest .lessOrEqual 3, scoreTest .less 9], x.Answers ofRows.schema (scoredRow (1, 5)) := by
  simp only [List.forall_mem_append, List.forall_mem_cons, List.not_mem_nil, false_implies,
    implies_true, and_true]
  exact ⟨⟨⟨_, rfl⟩, ⟨_, rfl⟩, trivial⟩, ⟨⟨_, rfl⟩, ⟨_, rfl⟩, trivial⟩, ⟨_, rfl⟩, ⟨_, rfl⟩, trivial⟩

/-- Five is not among three or less, but it is among two or more, which is enough
    for the run that both share. -/
theorem compile_merge_scores :
    ∃ ms, ofRows.compile .any (twoOrMore.merge threeOrLess).filters [] = .ok ms ∧
      Spec.acceptsAll ofRows.schema ms (scoredRow (1, 5)) = .ok true := by
  rcases compile_merge ofRows .any twoOrMore threeOrLess (by decide) (by decide) rfl rfl with
    ⟨ms, hms, hverdict⟩
  rcases hverdict (scoredRow (1, 5)) answers_five with ⟨_, _, _, -, -, hm, -, -, hopen⟩
  rcases hopen (by decide) (List.cons_ne_nil _ _) with ⟨x, hx, y, hy, hiff⟩
  cases hx
  rw [hiff.mpr ⟨List.forall_mem_singleton.mpr rfl, .inl rfl⟩] at hm
  exact ⟨ms, hms, hm⟩

/-- Merging lets through what one of the queries refuses: an open run is not
    narrowed by what comes next. -/
theorem merge_lets_refused_through :
    ¬ ∀ (c : Context) (entity : TypeExpr) (base other : Query) (bs os ms : List Spec),
      (∀ x ∈ other.filters, ∀ y ∈ base.filters, x.replaces y = false) →
      (other.filters.Pairwise fun x y => x.replaces y = false ∧ y.replaces x = false) →
      c.compile entity base.filters [] = .ok bs →
      c.compile entity other.filters [] = .ok os →
      c.compile entity (base.merge other).filters [] = .ok ms →
      ∀ v, (∀ x ∈ bs ++ os, x.Answers c.schema v) →
        (Spec.acceptsAll c.schema ms v = .ok true ↔
          Spec.acceptsAll c.schema bs v = .ok true ∧ Spec.acceptsAll c.schema os v = .ok true) := by
  intro h
  have hiff := h ofRows .any twoOrMore threeOrLess [scoreTest .greaterOrEqual 2]
    [scoreTest .lessOrEqual 3, scoreTest .less 9] _ (by decide) (by decide) rfl rfl rfl
    (scoredRow (1, 5)) answers_five
  exact Bool.false_ne_true (Except.ok.inj (hiff.mp rfl).2)

end Context

end Criteria
