import Criteria.Proofs.Compile.Negation
import Criteria.Proofs.Compile.Paths
import Criteria.Proofs.Query.Cleared

/-!
# Fields of Custom Filters

Whether a custom filter is taken to be about the field that it tests.

Every custom filter but a search in texts looks up one field and tests nothing else
(`Context.exists_path_of_compileCriterion`); there is one short proof for each of the
filters, all of the same form. The field is named by a parameter, whose key may be
spelled in any case, so a table of parameters can name it more than once. Two parts of
the library look for it there on their own. Compiling puts the keys into lower case
and keeps the last of several; an empty text counts as missing. Clearing, removing and
merging take the first key that is spelled in some case or other, whatever stands
beside it. As all keys that matter come down to the same word, both are about one list
of values (`Criterion.fieldValues`), of which one part takes the first and the other
the last.

So the two agree exactly if the first and the last name the same field, and then
clearing, removing and merging reach the filter by the field it tests.

## Main definitions

* `Criterion.fieldValues`: What the parameters name as the field.
* `Criterion.path?`: The path that compiling follows.
* `Criterion.NamesOneField`: The first and the last name are the same.
* `Spec.IsAbout`: A specification tests one field and nothing else.
* `Context.TestsField`: A filter that looks up its field and tests it.
* `Criterion.IsReachedBy`: What is said about a field is said about the criterion.

## Theorems

* `Criterion.target_eq`, `Criterion.get?_field`: The first value and the last one.
* `Criterion.target_text?_iff`: When they name the same field.
* `Context.testsField_of_filter?`: The custom filters.
* `Context.exists_path_of_compileCriterion`: What a compiled custom filter tests.
* `Context.compileCriterion_target`: When it is taken to be about that.
* `Context.compileCriterion_off_target`: It need not be.
-/

namespace Criteria

section Naming

/-- What stands under the keys that are the word for a field, in order. -/
def Criterion.fieldValues (x : Criterion) : List Value :=
  (x.parameters.filter fun e => Text.lower e.1 == "field").map Prod.snd

/-- The path of the field that a custom filter tests. -/
def Criterion.path? (x : Criterion) : Option String :=
  ((Parameters.ofEntries x.type x.parameters).get? "field").bind Value.text?

/-- The first value and the last one that stand for a field name the same one. -/
def Criterion.NamesOneField (x : Criterion) : Prop :=
  x.fieldValues.head?.bind Value.text? = x.fieldValues.getLast?.bind Value.text?

variable {x : Criterion} {path : String}

/-- What is found first stands first among what is under the key. -/
theorem lookup_eq_head? {β : Type} (es : List (String × β)) (k : String) :
    es.lookup k = ((es.filter fun e => e.1 == k).map Prod.snd).head? := by
  induction es with
  | nil => rfl
  | cons e es ih =>
      rw [List.lookup_cons, List.filter_cons, Bool.beq_comm]
      cases e.1 == k with
      | true => rfl
      | false => exact ih

/-- Keys are put into lower case and looked for from the last one on. -/
theorem Parameters.lookup_ofEntries (type : CustomType) (ps : List (String × Value)) (k : String) :
    (ofEntries type ps).entries.lookup k =
      ((ps.filter fun e => Text.lower e.1 == k).map Prod.snd).getLast? := by
  rw [ofEntries, lookup_eq_head?, List.filter_reverse, List.map_reverse, List.head?_reverse,
    List.filter_map, List.map_map]
  rfl

namespace Criterion

/-- Clearing, removing and merging look at the first value. -/
theorem target_eq : x.target = x.fieldValues.head?.getD .null := by
  rw [target, fieldValues, List.head?_map, List.head?_filter]

/-- Compiling looks at the last one. -/
theorem get?_field : (Parameters.ofEntries x.type x.parameters).get? "field" =
    x.fieldValues.getLast?.filter (!Parameters.isMissing ·) := by
  have hlower : Text.lower "field" = "field" := by decide +kernel
  have hspellings : Parameters.spellings "field" = ["field"] := rfl
  rw [Parameters.get?, hspellings, List.findSome?_singleton, hlower, Parameters.lookup_ofEntries]
  rfl

theorem text?_getLast?_of_path? (h : x.path? = some path) :
    x.fieldValues.getLast?.bind Value.text? = some path := by
  rw [path?, get?_field] at h
  rcases Option.bind_eq_some_iff.mp h with ⟨v, hv, htext⟩
  exact Option.bind_eq_some_iff.mpr ⟨v, (Option.filter_eq_some_iff.mp hv).1, htext⟩

/-- The two agree exactly if the first value and the last one name the same field. -/
theorem target_text?_iff (h : x.path? = some path) :
    x.target.text? = some path ↔ x.NamesOneField := by
  rw [NamesOneField, text?_getLast?_of_path? h, target_eq]
  cases x.fieldValues.head? with
  | none => exact Iff.rfl
  | some v => exact Iff.rfl

theorem references_of_target (h : x.target.text? = some path) : x.references path = true := by
  rw [references, Value.equal_text_iff.mpr h, Bool.or_true]

end Criterion

end Naming

section Testing

/-- A specification tests one field and nothing else. -/
inductive Spec.IsAbout (a : Accessor) : Spec → Prop
  | field {t : FieldTest} (h : t.accessor = a) : IsAbout a (.field t)
  | member {t : MembershipTest} (h : t.accessor = a) : IsAbout a (.member t)
  | all {items : List Spec} (hsome : items ≠ []) (h : ∀ s ∈ items, IsAbout a s) :
      IsAbout a (.all items)
  | any {items : List Spec} (hsome : items ≠ []) (h : ∀ s ∈ items, IsAbout a s) :
      IsAbout a (.any items)

namespace Spec

variable {a : Accessor} {s : Spec} {items : List Spec}

/-- Members about a field, which are spliced in where they are combinations, are members
    about the field. -/
theorem isAbout_flatMap (parts : Spec → List Spec) (hsome : items ≠ [])
    (h : ∀ s ∈ items, s.IsAbout a)
    (hparts : ∀ s, s.IsAbout a → parts s ≠ [] ∧ ∀ t ∈ parts s, t.IsAbout a) :
    items.flatMap parts ≠ [] ∧ ∀ t ∈ items.flatMap parts, t.IsAbout a := by
  constructor
  · intro hnil
    rcases List.exists_mem_of_ne_nil items hsome with ⟨s, hs⟩
    exact (hparts s (h s hs)).1 (List.flatMap_eq_nil_iff.mp hnil s hs)
  · intro t ht
    rcases List.mem_flatMap.mp ht with ⟨s, hs, ht⟩
    exact (hparts s (h s hs)).2 t ht

theorem isAbout_conj (hsome : items ≠ []) (h : ∀ s ∈ items, s.IsAbout a) :
    (conj items).IsAbout a := by
  have hmembers := isAbout_flatMap conjuncts hsome h fun s hs => by
    unfold conjuncts
    split
    · cases hs with
      | all hsome h => exact ⟨hsome, h⟩
    · exact ⟨List.cons_ne_nil _ _, List.forall_mem_singleton.mpr hs⟩
  exact .all hmembers.1 hmembers.2

theorem isAbout_disj (hsome : items ≠ []) (h : ∀ s ∈ items, s.IsAbout a) :
    (disj items).IsAbout a := by
  have hmembers := isAbout_flatMap disjuncts hsome h fun s hs => by
    unfold disjuncts
    split
    · cases hs with
      | any hsome h => exact ⟨hsome, h⟩
    · exact ⟨List.cons_ne_nil _ _, List.forall_mem_singleton.mpr hs⟩
  exact .any hmembers.1 hmembers.2

theorem isAbout_allOf (hsome : items ≠ []) (h : ∀ s ∈ items, s.IsAbout a) :
    (allOf items).IsAbout a := by
  rcases items with _ | ⟨x, _ | ⟨y, rest⟩⟩
  · exact absurd rfl hsome
  · exact h x List.mem_cons_self
  · exact isAbout_conj hsome h

theorem givesOnly_membership {t : MembershipTest} (h : t.accessor = a) :
    GivesOnly (IsAbout a) (passing (membership t)) := by
  rw [membership]
  split
  · exact givesOnly_ok (.member h)
  · exact givesOnly_error _

end Spec

namespace Context

variable {c : Context} {entity : TypeExpr} {p : Parameters} {a : Accessor} {op : Operator}
  {operand : Value} {transform : Option Transform} {spec : Spec}

theorem isAbout_test : (c.test a op operand transform).IsAbout a :=
  .field rfl

theorem isAbout_guarded (h : spec.IsAbout a) : (c.guarded a spec).IsAbout a := by
  rw [guarded]
  split
  · exact Spec.isAbout_conj (List.cons_ne_nil _ _)
      (List.forall_mem_cons.mpr ⟨isAbout_test, List.forall_mem_singleton.mpr h⟩)
  · exact h

/-- A filter looks up the field that the parameters name, and tests it. -/
def TestsField (f : Context → TypeExpr → Parameters → Except Fault Spec) : Prop :=
  ∀ c entity p spec, f c entity p = .ok spec →
    ∃ a, fieldOf c entity p = .ok a ∧ spec.IsAbout a

theorem exists_fieldOf {f : Accessor → Except Fault Spec}
    (hf : ∀ a, GivesOnly (Spec.IsAbout a) (f a)) (h : c.fieldOf entity p >>= f = .ok spec) :
    ∃ a, c.fieldOf entity p = .ok a ∧ spec.IsAbout a := by
  rcases bind_eq_ok_iff.mp h with ⟨a, ha, hspec⟩
  exact ⟨a, ha, hf a spec hspec⟩

theorem testsField_nullTest (op : Operator) : TestsField (nullTest op) := by
  intro c entity p spec h
  exact exists_fieldOf (fun a => givesOnly_ok isAbout_test) h

theorem testsField_dateRelative : TestsField dateRelative := by
  intro c entity p spec h
  refine exists_fieldOf (fun a => ?_) h
  exact GivesOnly.after fun _ => givesOnly_ok (isAbout_guarded isAbout_test)

theorem testsField_numericRange : TestsField numericRange := by
  intro c entity p spec h
  refine exists_fieldOf (fun a => ?_) h
  refine GivesOnly.after fun (rawMin, rawMax) => ?_
  refine GivesOnly.after fun low => GivesOnly.after fun high => ?_
  refine GivesOnly.after fun inclusive => ?_
  refine givesOnly_ok (isAbout_guarded (Spec.isAbout_conj (List.cons_ne_nil _ _) ?_))
  exact List.forall_mem_cons.mpr ⟨isAbout_test, List.forall_mem_singleton.mpr isAbout_test⟩

theorem testsField_enumValues : TestsField enumValues := by
  intro c entity p spec h
  refine exists_fieldOf (fun a => ?_) h
  split
  · refine GivesOnly.after fun items => GivesOnly.after fun members => ?_
    exact Spec.givesOnly_membership rfl
  · exact givesOnly_error _

theorem testsField_textMembership (negated : Bool) : TestsField (textMembership negated) := by
  intro c entity p spec h
  refine exists_fieldOf (fun a => ?_) h
  exact GivesOnly.after fun items => Spec.givesOnly_membership rfl

theorem testsField_numericMembership (negated : Bool) : TestsField (numericMembership negated) := by
  intro c entity p spec h
  refine exists_fieldOf (fun a => ?_) h
  refine GivesOnly.after fun items => GivesOnly.after fun numbers => ?_
  exact Spec.givesOnly_membership rfl

/-- A field that holds times is one that is looked up. -/
theorem exists_timeField {f : Accessor → Except Fault Spec}
    (hf : ∀ a, GivesOnly (Spec.IsAbout a) (f a)) (h : c.timeField entity p >>= f = .ok spec) :
    ∃ a, c.fieldOf entity p = .ok a ∧ spec.IsAbout a := by
  rcases bind_eq_ok_iff.mp h with ⟨a, ha, hspec⟩
  rcases bind_eq_ok_iff.mp ha with ⟨b, hb, hholds⟩
  split at hholds
  · cases hholds
    exact ⟨a, hb, hf a spec hspec⟩
  · exact absurd hholds defective_ne_ok

theorem testsField_timeRelative : TestsField timeRelative := by
  intro c entity p spec h
  refine exists_timeField (fun a => ?_) h
  exact GivesOnly.after fun _ => givesOnly_ok (isAbout_guarded isAbout_test)

theorem testsField_timeRange : TestsField timeRange := by
  intro c entity p spec h
  refine exists_timeField (fun a => ?_) h
  refine GivesOnly.after fun (rawStart, rawEnd) => ?_
  refine GivesOnly.after fun first => GivesOnly.after fun last => ?_
  refine GivesOnly.after fun inclusive => ?_
  dsimp only
  split
  · exact givesOnly_error _
  · refine givesOnly_ok (isAbout_guarded (Spec.isAbout_disj (List.cons_ne_nil _ _) ?_))
    exact List.forall_mem_cons.mpr ⟨isAbout_test, List.forall_mem_singleton.mpr isAbout_test⟩
  · refine givesOnly_ok (isAbout_guarded (Spec.isAbout_conj (List.cons_ne_nil _ _) ?_))
    exact List.forall_mem_cons.mpr ⟨isAbout_test, List.forall_mem_singleton.mpr isAbout_test⟩

/-- A test is made for a bound exactly if the bound is given. -/
theorem givesOnly_testIfGiven {v : Option Value} {f : Value → Except Fault Spec}
    (hf : ∀ x, GivesOnly (Spec.IsAbout a) (f x)) :
    GivesOnly (fun tests => (v.isNone = false → tests ≠ []) ∧ ∀ s ∈ tests, s.IsAbout a)
      (testIfGiven v f) := by
  cases v with
  | none => exact givesOnly_ok ⟨fun h => Bool.noConfusion h, List.forall_mem_nil _⟩
  | some x =>
      exact (hf x).map fun s hs => ⟨fun _ => List.cons_ne_nil _ _, List.forall_mem_singleton.mpr hs⟩

theorem givesOnly_startTest (inclusive : Bool) (raw : Value) :
    GivesOnly (Spec.IsAbout a) (c.startTest a inclusive raw) :=
  GivesOnly.after fun _ => givesOnly_ok isAbout_test

theorem givesOnly_endTest (inclusive : Bool) (raw : Value) :
    GivesOnly (Spec.IsAbout a) (c.endTest a inclusive raw) := by
  refine GivesOnly.after fun bound => ?_
  split
  · dsimp only
    split
    · exact GivesOnly.after fun _ => givesOnly_ok isAbout_test
    · exact givesOnly_ok isAbout_test
  · exact givesOnly_ok isAbout_test

theorem testsField_dateRange : TestsField dateRange := by
  intro c entity p spec h
  refine exists_fieldOf (fun a => ?_) h
  dsimp only
  split
  · exact givesOnly_error _
  · rename_i hgiven
    refine GivesOnly.after fun inclusive => ?_
    refine (givesOnly_testIfGiven (givesOnly_startTest inclusive)).bind fun lower hlower => ?_
    refine (givesOnly_testIfGiven (givesOnly_endTest inclusive)).bind fun upper hupper => ?_
    refine givesOnly_ok (isAbout_guarded (Spec.isAbout_allOf ?_ ?_))
    · -- One of the bounds is given, and with it a test.
      intro hnil
      rcases List.append_eq_nil_iff.mp hnil with ⟨hnolower, hnoupper⟩
      rw [Bool.and_eq_true, not_and_or, Bool.not_eq_true, Bool.not_eq_true] at hgiven
      rcases hgiven with hstart | hend
      · exact hlower.1 hstart hnolower
      · exact hupper.1 hend hnoupper
    · exact List.forall_mem_append.mpr ⟨hlower.2, hupper.2⟩

/-- All custom filters but searches look up their field and test it. -/
theorem testsField_of_filter? {type : CustomType}
    {f : Context → TypeExpr → Parameters → Except Fault Spec} (hf : filter? type = some f)
    (htype : type ≠ .fullTextSearch) : TestsField f := by
  -- A full-text search names fields of its own and is the only kind that tests no single one.
  cases type with
  | fullTextSearch => exact absurd rfl htype
  | simple | named | composite => cases hf
  | dateRange => cases hf; exact testsField_dateRange
  | dateRelative => cases hf; exact testsField_dateRelative
  | timeRange => cases hf; exact testsField_timeRange
  | timeRelative => cases hf; exact testsField_timeRelative
  | numericRange => cases hf; exact testsField_numericRange
  | isNull => cases hf; exact testsField_nullTest .isNull
  | isNotNull => cases hf; exact testsField_nullTest .isNotNull
  | enumValues => cases hf; exact testsField_enumValues
  | textIn => cases hf; exact testsField_textMembership false
  | textNotIn => cases hf; exact testsField_textMembership true
  | numericIn => cases hf; exact testsField_numericMembership false
  | numericNotIn => cases hf; exact testsField_numericMembership true

/-- The field that is looked up is at the end of the path that is named. -/
theorem exists_path_of_fieldOf (h : c.fieldOf entity p = .ok a) :
    ∃ path, (p.get? "field").bind Value.text? = some path ∧
      c.schema.resolve entity path = .ok a := by
  rcases bind_eq_ok_iff.mp h with ⟨v, hv, h⟩
  split at h
  · rename_i path hpath
    exact ⟨path, Option.bind_eq_some_iff.mpr ⟨v, Parameters.get?_of_require hv, hpath⟩,
      resolve_eq_ok_iff.mp h⟩
  · exact absurd h defective_ne_ok

/-- A custom filter tests the field at the end of its path, and nothing else. -/
theorem exists_path_of_compileCriterion {x : Criterion} (hkind : x.kind = .custom)
    (htype : x.type ≠ .fullTextSearch) (h : c.compileCriterion entity x = .ok spec) :
    ∃ path a, x.path? = some path ∧ c.schema.resolve entity path = .ok a ∧ spec.IsAbout a := by
  -- Nothing but the type and the parameters of a custom filter is compiled.
  rw [compileCriterion_eq, hkind] at h
  have hcustom : c.compileCustom entity x.type x.parameters = .ok spec := h
  rw [compileCustom] at hcustom
  split at hcustom
  · rename_i f hf
    rcases testsField_of_filter? hf htype c entity _ spec hcustom with ⟨a, ha, habout⟩
    rcases exists_path_of_fieldOf ha with ⟨path, hpath, hresolve⟩
    exact ⟨path, a, hpath, hresolve, habout⟩
  · exact absurd hcustom failWith_ne_ok

end Context

end Testing

section Agreement

/-- What is said about a field is said about the criterion: it goes when the field is
    cleared or its criteria are removed, and custom filters of its type on the field
    take its place and have their places taken by it. -/
structure Criterion.IsReachedBy (x : Criterion) (path : String) : Prop where
  cleared : ∀ q : Query, x ∉ (q.clearField path).filters
  removed : ∀ q : Query, x ∉ (q.removeFilter path none).filters
  replaced : ∀ y : Criterion, y.type = x.type → y.target.text? = some path →
    y.replaces x = true ∧ x.replaces y = true

theorem Criterion.replaces_of_target {x y : Criterion} {path : String} (hkind : x.kind = .custom)
    (htype : x.type = y.type) (hx : x.target.text? = some path) (hy : y.target.text? = some path) :
    x.replaces y = true := by
  have hnull : x.target.isNull = false := by
    cases hcase : x.target with
    | null => rw [hcase] at hx; cases hx
    | _ => rfl
  rw [replaces, hkind, htype, beq_self_eq_true, Bool.true_and]
  dsimp only
  rw [hnull, Value.equal_of_text? hx hy]
  rfl

theorem Criterion.isReachedBy_of_target {x : Criterion} {path : String} (hkind : x.kind = .custom)
    (htarget : x.target.text? = some path) : x.IsReachedBy path := by
  have hreferences := references_of_target htarget
  constructor
  · intro q hx
    -- What is left of a criterion that is kept is about the same fields.
    rcases List.mem_map.mp hx with ⟨y, hy, rfl⟩
    have hkept := (List.mem_filter.mp hy).2
    -- Kept, although it refers to the path: that is what removal by field excludes.
    rw [references_withoutField] at hreferences
    rw [hreferences] at hkept
    cases hkept
  · intro q hx
    have hkept := (List.mem_filter.mp hx).2
    rw [hreferences] at hkept
    cases hkept
  · intro y htype hy
    have hykind : y.kind = .custom := by rw [kind, htype, ← hkind, kind]
    exact ⟨replaces_of_target hykind htype hy htarget,
      replaces_of_target hkind htype.symm htarget hy⟩

/-- The criterion is about the field it tests, and in its target, exactly if the values
    that stand for a field name one; then what is said about the field reaches it. -/
theorem Context.compileCriterion_target {c : Context} {entity : TypeExpr} {x : Criterion}
    {spec : Spec} (hkind : x.kind = .custom) (htype : x.type ≠ .fullTextSearch)
    (h : c.compileCriterion entity x = .ok spec) :
    ∃ path a, x.path? = some path ∧ c.schema.resolve entity path = .ok a ∧ spec.IsAbout a ∧
      (x.references path = true ∧ x.target.text? = some path ↔ x.NamesOneField) ∧
      (x.NamesOneField → x.IsReachedBy path) := by
  rcases exists_path_of_compileCriterion hkind htype h with ⟨path, a, hpath, ha, habout⟩
  have htarget := Criterion.target_text?_iff hpath
  refine ⟨path, a, hpath, ha, habout, ?_, fun hnames => ?_⟩
  · exact ⟨fun h => htarget.mp h.2, fun hnames =>
      ⟨Criterion.references_of_target (htarget.mpr hnames), htarget.mpr hnames⟩⟩
  · exact Criterion.isReachedBy_of_target hkind (htarget.mpr hnames)

/-- Persons without an email, as another filter would have it spelled. -/
def withoutEmail : Criterion where
  type := .isNull
  parameters := [("FIELD", .text "email"), ("note", .text "age")]

/-- Persons without an age, or without an email. -/
def withoutAgeOrEmail : Criterion where
  type := .isNull
  parameters := [("Field", .text "email"), ("field", .text "age")]

/-- However the key is spelled, the email is cleared with the filter on it. -/
theorem Context.compileCriterion_target_withoutEmail :
    ∃ spec a, ofSample.compileCriterion (Catalog.entityNamed "Person") withoutEmail = .ok spec ∧
      ofSample.schema.resolve (Catalog.entityNamed "Person") "email" = .ok a ∧ spec.IsAbout a ∧
      withoutEmail.references "email" = true ∧ withoutEmail.IsReachedBy "email" := by
  have hcompiled : ∃ spec,
      ofSample.compileCriterion (Catalog.entityNamed "Person") withoutEmail = .ok spec := ⟨_, rfl⟩
  rcases hcompiled with ⟨spec, hspec⟩
  rcases compileCriterion_target rfl (by decide) hspec with
    ⟨path, a, hpath, ha, habout, htarget, hreached⟩
  cases (show withoutEmail.path? = some "email" from rfl).symm.trans hpath
  have hnames : withoutEmail.NamesOneField := rfl
  exact ⟨spec, a, hspec, ha, habout, (htarget.mpr hnames).1, hreached hnames⟩

/-- The filter tests the age, but is taken to be about the email. -/
theorem Context.compileCriterion_off_target :
    ¬ ∀ (c : Context) (entity : TypeExpr) (x : Criterion) (spec : Spec) (path : String),
      x.kind = .custom → x.type ≠ .fullTextSearch → c.compileCriterion entity x = .ok spec →
      x.path? = some path → x.references path = true ∧ x.target.text? = some path := by
  intro hagree
  have hcompiled : ∃ spec,
      ofSample.compileCriterion (Catalog.entityNamed "Person") withoutAgeOrEmail = .ok spec :=
    ⟨_, rfl⟩
  rcases hcompiled with ⟨spec, hspec⟩
  -- The last key names the age, but the first one the email.
  have hage := (hagree _ _ _ spec "age" rfl (by decide) hspec rfl).1
  cases hage

end Agreement

end Criteria
