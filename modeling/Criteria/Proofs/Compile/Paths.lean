import Criteria.Proofs.Compile.Resent
import Criteria.Proofs.Compile.Steps

/-!
# Paths of Criteria

When compiling criteria does not fail for a path that leads nowhere.

Compiling follows a path in few places: the field of a simple criterion, the
parameter that names the field of a custom filter, and each of the fields that a
text is searched in. All other steps have faults of their own, and none of these is
about a path. `Criterion.Leads` goes through a criterion as compiling does and asks
in each of these places that the path can be followed, and at a quantifier that it
ends at a collection; what a quantifier asks of the elements starts at their type.

Converters and makers of specifications are code of someone else, who might follow
paths as well. `Context.IsPathless` says that nobody does.

## Main definitions

* `Schema.Leads`: A path can be followed.
* `Criterion.Leads`: The paths of a criterion can be followed.
* `Context.IsPathless`: Nothing that is registered fails for a path.

## Theorems

* `Coercer.pathless_coerce`: Conversions.
* `Context.pathless_compileCustom`: Custom filters.
* `Context.pathless_compileCriterion`: Criteria whose paths can be followed.
-/

namespace Criteria

namespace Fault

/-- The fault has nothing to do with paths. -/
def IsPathless (f : Fault) : Prop :=
  ¬ f.IsPathError

end Fault

/-- The path can be followed from a type. -/
def Schema.Leads (s : Schema) (entity : TypeExpr) (path : String) : Prop :=
  ∃ a, s.resolve entity path = .ok a

instance : Fault.AllowsReports Fault.IsPathless :=
  ⟨fun _ h => h⟩

theorem pathless_passing {α : Type} (x : Except Refusal α) :
    FailsOnly Fault.IsPathless (passing x) := by
  cases x with
  | ok a => exact failsOnly_ok a
  | error r => exact failsOnly_error id

namespace Coercer

variable {s : Schema}

theorem pathless_entityOf (s : Schema) (name : String) (v : Value) :
    FailsOnly Fault.IsPathless (s.entityOf name v) := by
  unfold Schema.entityOf
  split
  · exact pathless_passing _
  · split
    · exact failsOnly_ok _
    · split
      · cases s.buildModel name v with
        | none => exact failsOnly_error id
        | some w => exact failsOnly_ok w
      · exact pathless_passing _

theorem pathless_ofOther (s : Schema) (t : NamedType) (v : Value) :
    FailsOnly Fault.IsPathless (s.ofOther t v) := by
  unfold Schema.ofOther
  split
  · exact failsOnly_ok v
  · cases t <;> simp only [Schema.construct]
    case bool => exact failsOnly_ok _
    case text => exact failsOnly_ok _
    case entity => exact pathless_entityOf s _ v
    all_goals exact pathless_passing _

theorem pathless_ofNumber (s : Schema) (t : NamedType) (v : Value) :
    FailsOnly Fault.IsPathless (s.ofNumber t v) := by
  unfold Schema.ofNumber
  split
  case h_6 => split <;> exact failsOnly_ok _
  case h_10 => exact pathless_ofOther s _ v
  all_goals exact pathless_passing _

theorem pathless_ofText (s : Schema) (t : NamedType) (v : Value) (text : String) :
    FailsOnly Fault.IsPathless (s.ofText t v text) := by
  unfold Schema.ofText
  dsimp only
  split
  case h_2 => exact failsOnly_ok _
  case h_12 => exact pathless_ofOther s _ v
  all_goals exact pathless_passing _

/-- Reporting what is wrong with a value does not make it a matter of paths. -/
theorem isPathless_reported {f : Fault} (h : f.IsPathless) (v : Value) (target : String) :
    (reported v target f).IsPathless := by
  unfold reported
  split
  · exact id
  · split
    · exact id
    · exact h
  · split <;> exact id
  · exact id

variable {c : Coercer}

/-- Converters that do not follow paths are the only ones there are. -/
theorem pathless_convert (hc : ∀ entry ∈ c, ∀ v, FailsOnly Fault.IsPathless (entry.2 v))
    (t : NamedType) (v : Value) : FailsOnly Fault.IsPathless (c.convert s t v) := by
  unfold convert
  split
  · rename_i f hf
    rcases List.exists_of_findSome?_eq_some hf with ⟨u, -, hu⟩
    rcases List.lookup_eq_some_iff.mp hu with ⟨before, after, hsplit, -⟩
    exact hc (u, f) (by rw [hsplit]; exact List.mem_append_right before List.mem_cons_self) v
  · split
    · exact pathless_ofNumber s t v
    · split
      · exact pathless_ofText s t v _
      · exact pathless_ofOther s t v

mutual

theorem pathless_coerceTo (hc : ∀ entry ∈ c, ∀ v, FailsOnly Fault.IsPathless (entry.2 v))
    (t : NamedType) : ∀ v, FailsOnly Fault.IsPathless (c.coerceTo s t v)
  | .null => failsOnly_ok _
  | .list xs => (pathless_coerceAll hc t xs).map
  | .tuple xs => (pathless_coerceAll hc t xs).map
  | .set _ xs => (pathless_coerceAll hc t xs).map
  | .bool _ | .int _ | .float _ | .decimal _ | .text _ | .bytes _ | .date _ | .moment _ | .clock _
  | .duration _ | .uuid _ | .member _ | .dict _ | .entity .. =>
      (pathless_convert hc t _).mapError fun _ hf => isPathless_reported hf _ _

theorem pathless_coerceAll (hc : ∀ entry ∈ c, ∀ v, FailsOnly Fault.IsPathless (entry.2 v))
    (t : NamedType) : ∀ xs, FailsOnly Fault.IsPathless (c.coerceAll s t xs)
  | [] => failsOnly_ok _
  | x :: xs => (pathless_coerceTo hc t x).bind fun y _ =>
      (pathless_coerceAll hc t xs).bind fun ys _ => failsOnly_ok (y :: ys)

end

theorem pathless_coerce (hc : ∀ entry ∈ c, ∀ v, FailsOnly Fault.IsPathless (entry.2 v))
    (t : TypeExpr) (v : Value) : FailsOnly Fault.IsPathless (c.coerce s t v) := by
  unfold coerce
  split
  · exact pathless_coerceTo hc _ v
  · exact failsOnly_ok v

end Coercer

namespace Criterion

/-- The fields that a search in texts names. -/
def searchFields (x : Criterion) : List String :=
  (((Parameters.ofEntries x.type x.parameters).get? "fields").map fun v =>
    (v.readList [',', ';']).filterMap Value.text?).getD []

/-- The paths of a criterion can be followed from a type, as far as compiling follows
    them. -/
inductive Leads (s : Schema) : TypeExpr → Criterion → Prop
  | named {entity : TypeExpr} {x : Criterion} (h : x.kind = .named) : Leads s entity x
  | composite {entity : TypeExpr} {x : Criterion} (h : x.kind = .composite) : Leads s entity x
  | search {entity : TypeExpr} {x : Criterion} (h : x.type = .fullTextSearch)
      (hfields : ∀ path ∈ x.searchFields, s.Leads entity path) : Leads s entity x
  | custom {entity : TypeExpr} {x : Criterion} (h : x.kind = .custom)
      (htype : x.type ≠ .fullTextSearch)
      (hfield : ∀ v ∈ (Parameters.ofEntries x.type x.parameters).get? "field", ∀ path ∈ v.text?,
        s.Leads entity path) : Leads s entity x
  | test {entity : TypeExpr} {x : Criterion} (h : x.kind = .simple)
      (hop : x.op.isQuantifier = false)
      (hfield : ∀ path ∈ x.field, path ≠ "" → s.Leads entity path) : Leads s entity x
  | quantifier {entity : TypeExpr} {x : Criterion} (h : x.kind = .simple)
      (hop : x.op.isQuantifier = true)
      (hfield : ∀ path ∈ x.field, path ≠ "" →
        ∃ a, s.resolve entity path = .ok a ∧ a.element.isSome = true)
      (hnested : ∀ path a element n, x.field = some path → s.resolve entity path = .ok a →
        a.element = some element → x.nested? = some n → Leads s element n) : Leads s entity x

/-- A simple criterion whose field leads somewhere. Of a quantifier the field has to be
    a collection, and the paths of what it asks start at the type of the elements. -/
theorem Leads.of_field {s : Schema} {entity : TypeExpr} {x : Criterion} {path : String}
    (h : x.kind = .simple) (hfield : x.field = some path) (hpath : s.Leads entity path)
    (hquantifier : x.op.isQuantifier = true → ∃ a element, s.resolve entity path = .ok a ∧
      a.element = some element ∧ ∀ n, x.nested? = some n → n.Leads s element) :
    x.Leads s entity := by
  -- The path is named once, so it is the one that leads somewhere.
  have hsame : ∀ p, x.field = some p → p = path :=
    fun p hp => Option.some.inj (hp.symm.trans hfield)
  cases hop : x.op.isQuantifier with
  | false => exact .test h hop fun p hp _ => hsame p hp ▸ hpath
  | true =>
      rcases hquantifier hop with ⟨a, element, ha, helement, hnested⟩
      refine .quantifier h hop (fun p hp _ => ?_) fun p a' element' n hp ha' helement' hn => ?_
      · rw [hsame p hp]
        exact ⟨a, ha, by rw [helement]; rfl⟩
      -- Resolving the path gives the same accessor each time.
      · rw [hsame p hp, ha] at ha'
        rw [← Except.ok.inj ha', helement] at helement'
        rw [← Option.some.inj helement']
        exact hnested n hn

end Criterion

namespace Context

/-- Nothing that is registered fails for a path. -/
structure IsPathless (c : Context) : Prop where
  converters : ∀ entry ∈ c.coercer, ∀ v, FailsOnly Fault.IsPathless (entry.2 v)
  makers : ∀ entry ∈ c.registry, ∀ arguments,
    FailsOnly Fault.IsPathless (entry.maker.make arguments)

variable {c : Context} {entity : TypeExpr} {p : Parameters}

theorem resolve_eq_ok_iff {path : String} {a : Accessor} :
    c.resolve entity path = .ok a ↔ c.schema.resolve entity path = .ok a :=
  mapError_eq_ok_iff

theorem pathless_resolve {path : String} (h : c.schema.Leads entity path) :
    FailsOnly Fault.IsPathless (c.resolve entity path) := by
  rcases h with ⟨a, ha⟩
  rw [resolve_eq_ok_iff.mpr ha]
  exact failsOnly_ok a

theorem pathless_fieldOf
    (h : ∀ v ∈ p.get? "field", ∀ path ∈ v.text?, c.schema.Leads entity path) :
    FailsOnly Fault.IsPathless (c.fieldOf entity p) :=
  failsOnly_fieldOf fun v hv path hpath => pathless_resolve (h v hv path hpath)

theorem pathless_windowEdge (c : Context) (p : Parameters) (units : List String) :
    FailsOnly Fault.IsPathless (c.windowEdge p units) :=
  failsOnly_windowEdge (Parameters.failsOnly_integer fun _ _ _ => id) fun _ _ _ _ _ _ =>
    pathless_passing _

/-- All custom filters but the search in texts find their field under one name. -/
theorem pathless_compileCustom (hc : c.IsPathless) {type : CustomType}
    {parameters : List (String × Value)} (htype : type ≠ .fullTextSearch)
    (h : ∀ v ∈ (Parameters.ofEntries type parameters).get? "field", ∀ path ∈ v.text?,
      c.schema.Leads entity path) :
    FailsOnly Fault.IsPathless (c.compileCustom entity type parameters) := by
  have hfield := pathless_fieldOf h
  have hbound (a : Accessor) (v : Value) : FailsOnly Fault.IsPathless (c.dateBound a v) :=
    failsOnly_dateBound fun _ _ _ _ => id
  have hmembership (negated : Bool) : FailsOnly Fault.IsPathless
      (numericMembership negated c entity (.ofEntries type parameters)) :=
    failsOnly_numericMembership hfield
      (fun _ _ _ _ x _ => Coercer.pathless_coerce hc.converters _ x)
      fun _ _ _ _ _ _ => pathless_passing _
  unfold compileCustom
  -- Each filter fails as its field, its bounds or its values do, and
  -- none of these is a matter of paths.
  cases type with
  | fullTextSearch => exact absurd rfl htype
  | dateRange =>
      exact failsOnly_dateRange hfield (fun a v _ => hbound a v) (fun a v _ => hbound a v)
        fun _ _ _ _ _ _ => pathless_passing _
  | dateRelative => exact failsOnly_dateRelative hfield (c.pathless_windowEdge _ _)
  | timeRange => exact failsOnly_timeRange hfield fun _ _ _ _ _ _ _ _ _ => id
  | timeRelative => exact failsOnly_timeRelative hfield (c.pathless_windowEdge _ _)
  | numericRange => exact failsOnly_numericRange hfield (Coercer.pathless_coerce hc.converters _)
  | isNull => exact failsOnly_nullTest _ hfield
  | isNotNull => exact failsOnly_nullTest _ hfield
  | enumValues =>
      exact failsOnly_enumValues hfield fun _ _ _ _ _ => failsOnly_enumToken fun _ _ _ => id
  | textIn => exact failsOnly_textMembership _ hfield
  | textNotIn => exact failsOnly_textMembership _ hfield
  | numericIn => exact hmembership _
  | numericNotIn => exact hmembership _
  | simple | named | composite => exact failsOnly_failWith id

/-- Wrong arguments are not a matter of paths, and neither is anything else that goes
    wrong with what is registered. -/
theorem IsPathless.makersFailOnly (hc : c.IsPathless) : c.MakersFailOnly Fault.IsPathless := by
  intro entry hentry arguments blame hblame
  refine (hc.makers entry hentry arguments).mapError fun f hf => ?_
  unfold Registry.blamed
  split
  · split
    · exact hblame _
    · exact hf
  · split
    · exact hblame _
    · exact hblame _
    · exact id
  · exact hblame _

theorem pathless_compileComparison (hc : c.IsPathless) (a : Accessor) (op : Operator)
    (operand : Value) : FailsOnly Fault.IsPathless (c.compileComparison a op operand) :=
  failsOnly_compileComparison (Coercer.pathless_coerce hc.converters _ operand) fun _ _ =>
    Coercer.pathless_coerce hc.converters _ operand

/-- A criterion whose paths can be followed does not fail for a path. -/
theorem pathless_compileCriterion (hc : c.IsPathless) {x : Criterion}
    (h : x.Leads c.schema entity) : FailsOnly Fault.IsPathless (c.compileCriterion entity x) := by
  -- Induction on how the criterion leads somewhere, with one rule for each place where paths occur.
  induction h with
  | named h =>
      rw [compileCriterion_eq, h]
      exact failsOnly_compileNamed hc.makersFailOnly _ _
  | composite h =>
      rw [compileCriterion_eq, h]
      exact failsOnly_compileComposite hc.makersFailOnly _
  | @search entity x h hfields =>
      rw [compileCriterion_eq, Criterion.kind, h]
      -- The fields of a search are exactly the paths that were looked at.
      refine failsOnly_fullTextSearch fun v hv path hpath => pathless_resolve (hfields path ?_)
      rw [Criterion.searchFields, h, Option.mem_def.mp hv]
      exact hpath
  | custom h htype hfield =>
      rw [compileCriterion_eq, h]
      exact pathless_compileCustom hc htype hfield
  | test h hop hfield =>
      rw [compileCriterion_eq, h]
      refine failsOnly_compileSimple
        (fun path hpath hne => pathless_resolve (hfield path hpath hne))
        (fun hyes => absurd hyes (by rw [hop]; exact Bool.false_ne_true)) ?_
      exact fun _ _ a _ _ => pathless_compileComparison hc a _ _
  | quantifier h hop hfield _ ih =>
      rw [compileCriterion_eq, h]
      refine failsOnly_compileSimple (fun path hpath hne => ?_) (fun _ path a hpath hne ha => ?_)
        fun hno => absurd hop (by rw [hno]; exact Bool.false_ne_true)
      · rcases hfield path hpath hne with ⟨a, ha, -⟩
        exact pathless_resolve ⟨a, ha⟩
      · -- The path leads to one place only, and that is the collection.
        have ha := resolve_eq_ok_iff.mp ha
        rcases hfield path hpath hne with ⟨b, hb, hsome⟩
        rw [Except.ok.inj (hb.symm.trans ha)] at hsome
        refine failsOnly_compileQuantifier (fun hnone => ?_) fun element spec helement hspec => ?_
        · rw [hnone] at hsome
          cases hsome
        · rcases Option.map_eq_some_iff.mp hspec with ⟨n, hn, rfl⟩
          exact ih path a element n hpath ha helement hn

end Context

end Criteria
