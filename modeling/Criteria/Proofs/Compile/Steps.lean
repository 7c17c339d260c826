import Criteria.Proofs.Compile.Runs

/-!
# Steps of Compiling

What goes wrong when criteria are compiled, given what goes wrong in the steps.

Compiling is a row of steps, and nearly all of them do nothing but look at the filter
and report what is wrong with it. Only a few can fail in other ways: a path is
followed, a value is converted, a moment is moved, and what is registered under a name
makes a specification. So for every part of compiling there is one statement about
faults of any kind, with hypotheses about these few steps. The kind of faults is a
parameter; all that is asked of it is that the reports are among them. Errors of paths
are reports too, but they are left out, so that the statements also serve to show that
there are none.

What the parts fail with in earnest follows from here: errors of the library only, if
a query keeps away from certain values, and no errors of paths, if all of its paths
lead somewhere.

## Main definitions

* `Fault.IsPathError`: A path cannot be followed, or does not end at a collection.
* `Fault.AllowsReports`: Faults among which are all other errors of the library.
* `Context.MakersFailOnly`: What is registered fails in certain ways only.

## Theorems

* `failsOnly_failWith`, `failsOnly_defective`: Reports.
* `Parameters.failsOnly_require`, `Parameters.failsOnly_values`: Parameters that are
  missing or wrong.
* `Context.failsOnly_fullTextSearch`, `Context.failsOnly_dateRange`,
  `Context.failsOnly_windowEdge`, `Context.failsOnly_timeRange`,
  `Context.failsOnly_numericRange`, `Context.failsOnly_enumValues`,
  `Context.failsOnly_numericMembership`: Custom filters.
* `Context.failsOnly_registry`, `Context.failsOnly_compileComposite`: Specifications by
  name.
* `Context.failsOnly_compileComparison`, `Context.failsOnly_compileQuantifier`,
  `Context.failsOnly_compileSimple`: Simple criteria.
* `Context.failsOnly_compile`: Criteria fail together only where one fails alone.
-/

namespace Criteria

namespace Fault

/-- A path cannot be followed, or it does not end at a collection. -/
def IsPathError : Fault → Prop
  | .filter (.fieldNotFound ..) | .filter (.traversal ..) | .filter (.notACollection ..) => True
  | _ => False

/-- Among the faults are all errors of the library that are not about paths. -/
class AllowsReports (P : Fault → Prop) : Prop where
  report : ∀ e, ¬ IsPathError (.filter e) → P (.filter e)

end Fault

variable {P : Fault → Prop}

section Reports

variable {α : Type}

theorem failsOnly_failWith [Fault.AllowsReports P] {e : FilterError}
    (h : ¬ Fault.IsPathError (.filter e)) : FailsOnly (α := α) P (failWith e) :=
  failsOnly_error (Fault.AllowsReports.report e h)

theorem failsOnly_defective [Fault.AllowsReports P] (d : Defect) :
    FailsOnly (α := α) P (defective d) :=
  failsOnly_failWith id

theorem failWith_ne_ok {e : FilterError} {a : α} : failWith e ≠ .ok a :=
  nofun

theorem defective_ne_ok {d : Defect} {a : α} : defective d ≠ .ok a :=
  failWith_ne_ok

end Reports

namespace Spec

theorem exists_oneOf {items : List Spec} (h : items ≠ []) : ∃ x, oneOf items = .ok x := by
  rcases items with _ | ⟨x, _ | ⟨y, rest⟩⟩
  · exact absurd rfl h
  · exact ⟨x, rfl⟩
  · exact ⟨_, rfl⟩

theorem failsOnly_oneOf {items : List Spec} (h : items ≠ []) (P : Fault → Prop) :
    FailsOnly P (passing (oneOf items)) := by
  rcases exists_oneOf h with ⟨x, hx⟩
  rw [hx]
  exact failsOnly_ok x

theorem failsOnly_membership {t : MembershipTest} (h : Value.allHashable t.values = true)
    (P : Fault → Prop) : FailsOnly P (passing (membership t)) := by
  rw [membership, if_pos h]
  exact failsOnly_ok _

end Spec

theorem Value.allHashable_iff {xs : List Value} :
    allHashable xs = true ↔ ∀ x ∈ xs, x.isHashable = true := by
  induction xs with
  | nil => simp [allHashable]
  | cons x xs ih => rw [allHashable, Bool.and_eq_true, ih, List.forall_mem_cons]

namespace Parameters

variable {p : Parameters} [Fault.AllowsReports P]

theorem failsOnly_require (p : Parameters) (key : String) :
    FailsOnly P (p.require key) := by
  rw [require]
  cases p.get? key with
  | some v => exact failsOnly_ok v
  | none => exact failsOnly_defective _

theorem get?_of_require {key : String} {v : Value} (h : p.require key = .ok v) :
    p.get? key = some v := by
  rw [require] at h
  cases hcase : p.get? key with
  | some w =>
      rw [hcase] at h
      exact congrArg some (Except.ok.inj h)
  | none =>
      rw [hcase] at h
      exact absurd h defective_ne_ok

theorem failsOnly_requireBoth (p : Parameters) (first second : String) :
    FailsOnly P (p.requireBoth first second) := by
  unfold requireBoth
  split
  · exact failsOnly_ok _
  · exact failsOnly_defective _

theorem get?_of_requireBoth {first second : String} {a b : Value}
    (h : p.requireBoth first second = .ok (a, b)) :
    p.get? first = some a ∧ p.get? second = some b := by
  unfold requireBoth at h
  split at h
  · rename_i x y hx hy
    rcases Prod.mk.inj (Except.ok.inj h) with ⟨rfl, rfl⟩
    exact ⟨hx, hy⟩
  · exact absurd h defective_ne_ok

theorem failsOnly_flag (p : Parameters) (key : String) (default : Bool) :
    FailsOnly P (p.flag key default) := by
  unfold flag
  split
  · exact failsOnly_ok _
  · split
    · exact failsOnly_ok _
    · exact failsOnly_defective _

theorem failsOnly_values (p : Parameters) (key : String) :
    FailsOnly P (p.values key) := by
  refine (p.failsOnly_require key).bind fun v _ => ?_
  split
  · exact failsOnly_defective _
  · exact failsOnly_ok _

theorem failsOnly_choice (p : Parameters) (key : String) (choices : List String) :
    FailsOnly P (p.choice key choices) := by
  refine (p.failsOnly_require key).bind fun v _ => ?_
  split
  · exact failsOnly_ok _
  · exact failsOnly_defective _

/-- Besides a report there is only a number that is out of range. -/
theorem failsOnly_integer {key : String}
    (h : ∀ v ∈ p.get? key, v.whole = .error .overflow → P (.refused (.failed .overflow))) :
    FailsOnly P (p.integer key) := by
  refine (p.failsOnly_require key).bind fun v hv => ?_
  split
  · exact failsOnly_ok _
  · rename_i hoverflow
    exact failsOnly_error (h v (get?_of_require hv) hoverflow)
  · exact failsOnly_defective _

end Parameters

namespace Context

variable {c : Context} {entity : TypeExpr}

section Custom

variable {p : Parameters} {a : Accessor} {v : Value} {inclusive : Bool}

theorem failsOnly_startTest (h : FailsOnly P (c.dateBound a v)) :
    FailsOnly P (c.startTest a inclusive v) :=
  h.bind fun _ _ => failsOnly_ok _

/-- For the end of a range the day after it may be asked for. -/
theorem failsOnly_endTest (h : FailsOnly P (c.dateBound a v))
    (hlater : v.isDateOnly = true → ∀ m, c.dateBound a v = .ok (.moment m) →
      FailsOnly P (dayLater m)) :
    FailsOnly P (c.endTest a inclusive v) := by
  refine h.bind fun bound hbound => ?_
  split
  · rename_i m hday
    dsimp only
    split
    · exact (hlater hday m hbound).bind fun _ _ => failsOnly_ok _
    · exact failsOnly_ok _
  · exact failsOnly_ok _

theorem failsOnly_testIfGiven {v : Option Value} {f : Value → Except Fault Spec}
    (h : ∀ x ∈ v, FailsOnly P (f x)) : FailsOnly P (testIfGiven v f) := by
  cases v with
  | none => exact failsOnly_ok []
  | some x => exact (h x rfl).map

theorem failsOnly_dateRelative (hfield : FailsOnly P (c.fieldOf entity p))
    (hedge : FailsOnly P (c.windowEdge p ["day", "week", "month", "year"])) :
    FailsOnly P (c.dateRelative entity p) :=
  hfield.bind fun _ _ => hedge.bind fun _ _ => failsOnly_ok _

theorem failsOnly_nullTest (op : Operator) (hfield : FailsOnly P (c.fieldOf entity p)) :
    FailsOnly P (nullTest op c entity p) :=
  hfield.bind fun _ _ => failsOnly_ok _

variable [Fault.AllowsReports P]

theorem failsOnly_fieldOf
    (h : ∀ v ∈ p.get? "field", ∀ path ∈ v.text?, FailsOnly P (c.resolve entity path)) :
    FailsOnly P (c.fieldOf entity p) := by
  refine (p.failsOnly_require "field").bind fun v hv => ?_
  split
  · rename_i path hpath
    exact h v (Parameters.get?_of_require hv) path hpath
  · exact failsOnly_defective _

theorem failsOnly_fullTextSearch
    (h : ∀ v ∈ p.get? "fields", ∀ path ∈ (v.readList [',', ';']).filterMap Value.text?,
      FailsOnly P (c.resolve entity path)) :
    FailsOnly P (c.fullTextSearch entity p) := by
  -- Both parameters are needed before the fields are looked at.
  refine (p.failsOnly_requireBoth "searchTerm" "fields").bind fun (term, rawFields) hboth => ?_
  dsimp only
  split
  · exact failsOnly_defective _
  · rename_i hfields
    have hpaths := h rawFields (Parameters.get?_of_requireBoth hboth).2
    refine (FailsOnly.mapM fun path hpath => ?_).bind fun tests htests => ?_
    · exact (hpaths path hpath).bind fun a _ => failsOnly_ok _
    · refine Spec.failsOnly_oneOf ?_ _
      -- Each of the fields gives a test, and there is a field.
      rw [not_or, not_not] at hfields
      intro hnil
      rw [hnil] at htests
      have hnone := List.forall₂_nil_right_iff.mp (mapM_eq_ok_iff.mp htests)
      rw [hnone, List.length_nil] at hfields
      exact hfields.1 (List.isEmpty_iff_length_eq_zero.mpr hfields.2.symm)

theorem failsOnly_dateBound
    (h : ∀ r, v.readInstant c.schema.today = .error r → r.cause ≠ .unreadable →
      r.cause ≠ .overflow → P (.refused r)) :
    FailsOnly P (c.dateBound a v) := by
  rw [dateBound]
  split
  · exact failsOnly_ok _
  · rename_i r hr
    split
    · exact failsOnly_failWith id
    · exact failsOnly_failWith id
    · rename_i hunreadable hoverflow
      exact failsOnly_error (h r hr hunreadable hoverflow)

theorem failsOnly_dateRange (hfield : FailsOnly P (c.fieldOf entity p))
    (hstart : ∀ a, ∀ v ∈ p.get? "start", FailsOnly P (c.dateBound a v))
    (hend : ∀ a, ∀ v ∈ p.get? "end", FailsOnly P (c.dateBound a v))
    (hlater : ∀ a, ∀ v ∈ p.get? "end", v.isDateOnly = true →
      ∀ m, c.dateBound a v = .ok (.moment m) → FailsOnly P (dayLater m)) :
    FailsOnly P (c.dateRange entity p) := by
  refine hfield.bind fun a _ => ?_
  dsimp only
  split
  · exact failsOnly_defective _
  · refine (p.failsOnly_flag "inclusive" true).bind fun inclusive _ => ?_
    refine (failsOnly_testIfGiven fun v hv => ?_).bind fun lower _ =>
      (failsOnly_testIfGiven fun v hv => ?_).bind fun upper _ => failsOnly_ok _
    · exact failsOnly_startTest (hstart a v hv)
    · exact failsOnly_endTest (hend a v hv) (hlater a v hv)

/-- The edge of a window is now, moved by so many units. -/
theorem failsOnly_windowEdge {units : List String} (hamount : FailsOnly P (p.integer "amount"))
    (hmove : ∀ unit amount direction, p.choice "unit" units = .ok unit →
      p.integer "amount" = .ok amount → p.choice "direction" ["past", "future"] = .ok direction →
      FailsOnly P (passing (c.now.move unit (if direction = "past" then -amount else amount)))) :
    FailsOnly P (c.windowEdge p units) := by
  -- The unit, the amount and the direction are read in this order, and then the clock is moved.
  refine (p.failsOnly_choice "unit" units).bind fun unit hunit => ?_
  refine hamount.bind fun amount hamount => ?_
  refine (p.failsOnly_choice "direction" _).bind fun direction hdirection => ?_
  have hmove := hmove unit amount direction hunit hamount hdirection
  split
  · rename_i hpast
    rw [if_pos hpast] at hmove
    exact hmove.bind fun _ _ => failsOnly_ok _
  · rename_i hfuture
    rw [if_neg hfuture] at hmove
    exact hmove.bind fun _ _ => failsOnly_ok _

theorem failsOnly_timeField (hfield : FailsOnly P (c.fieldOf entity p)) :
    FailsOnly P (c.timeField entity p) := by
  refine hfield.bind fun a _ => ?_
  split
  · exact failsOnly_ok _
  · exact failsOnly_defective _

theorem failsOnly_timeBound (v : Value) : FailsOnly P (timeBound v) := by
  rw [timeBound]
  split
  · exact failsOnly_ok _
  · exact failsOnly_defective _

theorem readTime_of_timeBound {t : ClockTime} (h : timeBound v = .ok t) : v.readTime = .ok t := by
  rw [timeBound] at h
  split at h
  · rename_i x hx
    rw [hx, Except.ok.inj h]
  · exact absurd h defective_ne_ok

/-- Besides reports there is only a pair of times that cannot be compared. -/
theorem failsOnly_timeRange (hfield : FailsOnly P (c.fieldOf entity p))
    (hmismatch : ∀ rawStart ∈ p.get? "start", ∀ rawEnd ∈ p.get? "end", ∀ first last,
      rawStart.readTime = .ok first → rawEnd.readTime = .ok last → first.compare? last = none →
      P (.refused (.failed .mismatch))) :
    FailsOnly P (c.timeRange entity p) := by
  -- One step after the other; only the comparison of the bounds can fail in a way of its own.
  refine (failsOnly_timeField hfield).bind fun a _ => ?_
  refine (p.failsOnly_requireBoth "start" "end").bind fun (rawStart, rawEnd) hboth => ?_
  refine (failsOnly_timeBound rawStart).bind fun first hfirst => ?_
  refine (failsOnly_timeBound rawEnd).bind fun last hlast => ?_
  refine (p.failsOnly_flag "inclusive" true).bind fun inclusive _ => ?_
  dsimp only
  split
  · rename_i hcompare
    have hget := Parameters.get?_of_requireBoth hboth
    exact failsOnly_error (hmismatch rawStart hget.1 rawEnd hget.2 first last
      (readTime_of_timeBound hfirst) (readTime_of_timeBound hlast) hcompare)
  · exact failsOnly_ok _
  · exact failsOnly_ok _

theorem failsOnly_timeRelative (hfield : FailsOnly P (c.fieldOf entity p))
    (hedge : FailsOnly P (c.windowEdge p ["minute", "hour"])) :
    FailsOnly P (c.timeRelative entity p) :=
  (failsOnly_timeField hfield).bind fun _ _ => hedge.bind fun _ _ => failsOnly_ok _

theorem failsOnly_numericRange (hfield : FailsOnly P (c.fieldOf entity p))
    (hcoerce : ∀ v, FailsOnly P (c.coercer.coerce c.schema (.named .float) v)) :
    FailsOnly P (c.numericRange entity p) := by
  refine hfield.bind fun a _ => ?_
  refine (p.failsOnly_requireBoth "min" "max").bind fun (rawMin, rawMax) _ => ?_
  refine (hcoerce rawMin).bind fun low _ => (hcoerce rawMax).bind fun high _ => ?_
  exact (p.failsOnly_flag "inclusive" true).bind fun inclusive _ => failsOnly_ok _

theorem failsOnly_enumToken {name : String}
    (h : ∀ r, c.schema.parseMember name v = .error r → r.cause ≠ .unreadable → P (.refused r)) :
    FailsOnly P (c.enumToken name v) := by
  rw [enumToken]
  split
  · exact failsOnly_ok _
  · rename_i r hr
    split
    · exact failsOnly_failWith id
    · rename_i hunreadable
      exact failsOnly_error (h r hr hunreadable)

theorem isHashable_of_enumToken {name : String} {token v : Value}
    (h : c.enumToken name token = .ok v) : v.isHashable = true := by
  unfold enumToken at h
  split at h
  · rename_i m hm
    rw [← Except.ok.inj h]
    rw [Schema.parseMember] at hm
    split at hm
    · rcases map_eq_ok_iff.mp hm with ⟨e, -, rfl⟩
      rfl
    · exact absurd hm (by simp [refuse])
  · split at h
    · exact absurd h failWith_ne_ok
    · exact absurd h (by simp [passing])

/-- Members of enumerations may be elements of a set. -/
theorem failsOnly_enumValues (hfield : FailsOnly P (c.fieldOf entity p))
    (htoken : ∀ name items, p.values "values" = .ok items → ∀ x ∈ items,
      FailsOnly P (c.enumToken name x)) :
    FailsOnly P (c.enumValues entity p) := by
  refine hfield.bind fun a _ => ?_
  split
  · rename_i name _
    refine (p.failsOnly_values "values").bind fun items hitems => ?_
    refine (FailsOnly.mapM (htoken name items hitems)).bind fun members hmembers => ?_
    refine Spec.failsOnly_membership (Value.allHashable_iff.mpr fun m hm => ?_) _
    rcases forall₂_exists_left (mapM_eq_ok_iff.mp hmembers) hm with ⟨token, -, htoken⟩
    exact isHashable_of_enumToken htoken
  · exact failsOnly_defective _

/-- So may texts. -/
theorem failsOnly_textMembership (negated : Bool) (hfield : FailsOnly P (c.fieldOf entity p)) :
    FailsOnly P (textMembership negated c entity p) := by
  refine hfield.bind fun a _ => ?_
  refine (p.failsOnly_values "values").bind fun vs _ => ?_
  refine Spec.failsOnly_membership (Value.allHashable_iff.mpr fun x hx => ?_) _
  rcases List.mem_map.mp hx with ⟨v, -, rfl⟩
  rfl

/-- What numbers are converted to may be anything, so it is asked for. -/
theorem failsOnly_numericMembership {negated : Bool} (hfield : FailsOnly P (c.fieldOf entity p))
    (hcoerce : ∀ a items, c.fieldOf entity p = .ok a → p.values "values" = .ok items →
      ∀ x ∈ items, FailsOnly P (c.coercer.coerce c.schema (numberType a) x))
    (hmembership : ∀ a items numbers, c.fieldOf entity p = .ok a →
      p.values "values" = .ok items →
      items.mapM (c.coercer.coerce c.schema (numberType a)) = .ok numbers →
      FailsOnly P (passing (Spec.membership ⟨a, numbers, negated, none⟩))) :
    FailsOnly P (numericMembership negated c entity p) := by
  refine hfield.bind fun a ha => ?_
  refine (p.failsOnly_values "values").bind fun items hitems => ?_
  refine (FailsOnly.mapM (hcoerce a items ha hitems)).bind fun numbers hnumbers => ?_
  exact hmembership a items numbers ha hitems hnumbers

end Custom

section Named

/-- What is registered fails in the given ways only, once arguments that are wrong are
    reported in one of these ways. -/
def MakersFailOnly (P : Fault → Prop) (c : Context) : Prop :=
  ∀ entry ∈ c.registry, ∀ arguments blame, (∀ reason, P (.filter (blame reason))) →
    FailsOnly P ((entry.maker.make arguments).mapError (Registry.blamed blame))

theorem failsOnly_registry [Fault.AllowsReports P] (hc : c.MakersFailOnly P) (name : String)
    (arguments : List Value) :
    FailsOnly P (c.registry.resolve c.schema name arguments (some entity)) := by
  rw [Registry.resolve]
  have hget : FailsOnly P (c.registry.get name) := by
    rw [Registry.get]
    split
    · exact failsOnly_ok _
    · exact failsOnly_failWith id
  -- An entry that was found is in the registry, so its maker is covered by `hc`.
  refine hget.bind fun entry hentry => ?_
  have hmem : entry ∈ c.registry := by
    rw [Registry.get] at hentry
    split at hentry
    · rename_i found hfound
      rw [← Except.ok.inj hentry]
      exact List.mem_of_find?_eq_some hfound
    · exact absurd hentry failWith_ne_ok
  dsimp only
  split
  · exact failsOnly_failWith id
  · split
    · exact failsOnly_failWith id
    -- Whatever the maker raises is reported, and what it makes has to be a specification.
    · refine (hc entry hmem arguments _ fun reason => ?_).bind fun made _ => ?_
      · exact Fault.AllowsReports.report _ id
      · split
        · exact failsOnly_ok _
        · exact failsOnly_failWith id

mutual

theorem failsOnly_compileNode [Fault.AllowsReports P] (hc : c.MakersFailOnly P) :
    ∀ n, FailsOnly P (c.compileNode entity n)
  | .leaf name arguments => failsOnly_registry hc name arguments
  | .group _ [] => failsOnly_defective _
  | .group logic (n :: ns) =>
      (failsOnly_compileNode hc n).bind fun first _ =>
        (failsOnly_compileNodes hc ns).bind fun rest _ => by
          cases logic with
          | and => exact failsOnly_ok _
          | or => exact Spec.failsOnly_oneOf (List.cons_ne_nil first rest) _

theorem failsOnly_compileNodes [Fault.AllowsReports P] (hc : c.MakersFailOnly P) :
    ∀ ns, FailsOnly P (c.compileNodes entity ns)
  | [] => failsOnly_ok []
  | n :: ns =>
      (failsOnly_compileNode hc n).bind fun first _ =>
        (failsOnly_compileNodes hc ns).bind fun rest _ => failsOnly_ok (first :: rest)

end

theorem failsOnly_compileNamed [Fault.AllowsReports P] (hc : c.MakersFailOnly P)
    (name : Option String) (arguments : List Value) :
    FailsOnly P (c.compileNamed entity name arguments) := by
  unfold compileNamed
  split
  · exact failsOnly_defective _
  · exact failsOnly_defective _
  · exact failsOnly_registry hc _ arguments

theorem failsOnly_compileComposite [Fault.AllowsReports P] (hc : c.MakersFailOnly P)
    (nodes : Option (List SpecNode)) : FailsOnly P (c.compileComposite entity nodes) := by
  unfold compileComposite
  split
  · exact failsOnly_defective _
  · exact failsOnly_defective _
  · exact (failsOnly_compileNodes hc _).map

end Named

section Simple

variable {a : Accessor} {op : Operator} {operand : Value}
  {inner : TypeExpr → Option (Except Fault Spec)} [Fault.AllowsReports P]

theorem failsOnly_compileOrder : FailsOnly P (c.compileOrder a op operand) := by
  unfold compileOrder
  split
  · exact failsOnly_defective _
  · split
    · exact failsOnly_ok _
    · exact failsOnly_ok _

theorem failsOnly_compileComparison
    (htext : FailsOnly P (c.coercer.coerce c.schema (.named .text) operand))
    (hvalue : op.takesValue = true → op.isTextual = false →
      FailsOnly P (c.coercer.coerce c.schema a.valueType operand)) :
    FailsOnly P (c.compileComparison a op operand) := by
  rw [compileComparison]
  -- Operators without a value cannot fail, and each of the others coerces its operand first.
  cases htakes : op.takesValue with
  | false => exact failsOnly_ok _
  | true =>
      rw [Bool.not_true, if_neg Bool.false_ne_true]
      cases htextual : op.isTextual with
      | true =>
          rw [if_pos rfl, compileText]
          split
          · exact failsOnly_defective _
          · exact htext.bind fun v _ => failsOnly_ok _
      | false =>
          rw [if_neg Bool.false_ne_true]
          refine (hvalue htakes htextual).bind fun v _ => ?_
          split
          · exact failsOnly_compileOrder
          · exact failsOnly_ok _

/-- A quantifier needs a collection, and this is a matter of paths. -/
theorem failsOnly_compileQuantifier (hnone : a.element = none → ∀ e, P (.filter e))
    (h : ∀ element spec, a.element = some element → inner element = some spec →
      FailsOnly P spec) :
    FailsOnly P (compileQuantifier a op inner) := by
  unfold compileQuantifier
  split
  · rename_i hcase
    exact failsOnly_error (hnone hcase _)
  · rename_i element helement
    split
    · exact failsOnly_defective _
    · rename_i spec hspec
      exact (h element spec helement hspec).map

theorem failsOnly_compileSimple {field : Option String}
    (hresolve : ∀ path ∈ field, path ≠ "" → FailsOnly P (c.resolve entity path))
    (hquantifier : op.isQuantifier = true → ∀ path a, field = some path → path ≠ "" →
      c.resolve entity path = .ok a → FailsOnly P (compileQuantifier a op inner))
    (hcomparison : op.isQuantifier = false → ∀ path a, field = some path →
      c.resolve entity path = .ok a → FailsOnly P (c.compileComparison a op operand)) :
    FailsOnly P (c.compileSimple entity field op operand inner) := by
  unfold compileSimple
  -- Without a path there is nothing to be resolved.
  split
  · exact failsOnly_defective _
  · exact failsOnly_defective _
  · rename_i path hne
    have hpath : path ≠ "" := fun h => hne h
    refine (hresolve path rfl hpath).bind fun a ha => ?_
    split
    · rename_i hop
      exact hquantifier hop path a rfl hpath ha
    · rename_i hop
      rw [Bool.not_eq_true] at hop
      exact hcomparison hop path a rfl ha

end Simple

/-- Criteria fail together only where one of them fails alone. -/
theorem failsOnly_compile {criteria : List Criterion} (further : List Spec)
    (h : ∀ x ∈ criteria, FailsOnly P (c.compileCriterion entity x)) :
    FailsOnly P (c.compile entity criteria further) := by
  rw [compile]
  refine FailsOnly.map ?_
  -- All criteria are compiled before the runs are put together.
  cases hown : criteria.mapM (c.compileCriterion entity) with
  | error f =>
      rw [compileRuns, hown]
      exact failsOnly_error (FailsOnly.mapM h f hown)
  | ok own =>
      -- Runs are not empty, so all of them have specifications.
      have hall : ∀ x ∈ criteria, ∃ s, c.compileCriterion entity x = .ok s := by
        intro x hx
        rcases forall₂_exists_right (mapM_eq_ok_iff.mp hown) hx with ⟨s, -, hs⟩
        exact ⟨s, hs⟩
      rcases compileRuns_eq_ok hall with ⟨specs, hspecs, -⟩
      rw [hspecs]
      exact failsOnly_ok specs

end Context

end Criteria
