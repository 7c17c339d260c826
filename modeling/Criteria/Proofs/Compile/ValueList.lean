import Criteria.Proofs.Coercion.Settled
import Criteria.Proofs.Compile.Partition
import Criteria.Proofs.Compile.TimeRange

/-!
# Lists of Values

A list of values agrees with the comparisons with its values one by one.

A list goes its own way: it converts what is in it, puts the results in a set, looks up
there what is read of a candidate, and has a rule of its own for null. A comparison
converts its operand as the type of the field says and then asks whether the two are
equal once they are aligned. The values of the types that lists are about are atoms
(`Value.isAtom`). Nothing is done to align these, and they may be elements of a set
unless they signal. So for atoms both ways come down to the same equality, and the rule
for null says no more than that null equals no atom.

A decimal that signals is on neither side: it is no element of a set, and comparing it
with another decimal has no outcome.

## Main definitions

* `Value.isAtom`, `NamedType.isAtomic`: Values that are compared as they are, and the
  types of such values.
* `Value.Faces`: What can be held against each other.
* `CustomType.Lists`: The types of criteria that look up values in a list.
* `Context.IsValueList`: What a list of values is made of.

## Theorems

* `OperatorTable.evaluate_equal_iff_of_faces`: Equality of atoms.
* `Context.IsValueList.compile_eq_ok_iff`, `Context.IsValueList.exists_compile_iff`: What
  is compiled, and when.
* `Context.accepts_member_iff`: What is looked up.
* `Context.verdict_valueList`: The verdict.
-/

namespace Criteria

/-- The values of the type are compared as they are. -/
def NamedType.isAtomic : NamedType → Bool
  | enum _ | text | int | decimal => true
  | _ => false

theorem NamedType.isSingle_of_isAtomic {t : NamedType} (ht : t.isAtomic = true) :
    t.isSingle = true := by
  cases t with
  | enum | text | int | decimal => rfl
  | _ => cases ht

namespace Value

variable {v w x y : Value}

/-- Null, a truth, a number other than a float, a text or a member of an enumeration. -/
def isAtom : Value → Bool
  | null | bool _ | int _ | decimal _ | text _ | member _ => true
  | _ => false

theorem isHashable_of_isAtom (h : v.isAtom = true) : v.isHashable = !v.signals := by
  cases v with
  | null | bool | int | decimal | text | member => rfl
  | _ => cases h

/-- Nothing is done to align an atom with anything else. -/
theorem align_of_isAtom (h : v.isAtom = true) (w : Value) : align v w = (v, w) := by
  cases v with
  | null | bool | int | decimal | text | member => rfl
  | _ => cases h

theorem meets_of_isAtom (h : v.isAtom = true) (w : Value) : v.meets w = true := by
  cases v with
  | null | bool | int | decimal | text | member => rfl
  | _ => cases h

/-- An atom is held against a value that is neither null nor signals. If it signals
    itself, the value is a number, with which it cannot be compared. -/
structure Faces (y x : Value) : Prop where
  isAtom : y.isAtom = true
  isNull : x.isNull = false
  signals : x.signals = false
  number : y.signals = true → x.number?.isSome = true

/-- Atoms are equal or not, unless the one on the left signals. -/
theorem Faces.equal?_eq_ok_iff (h : y.Faces x) {b : Bool} :
    equal? y x = .ok b ↔ y.isHashable = true ∧ equal y x = b := by
  rw [equal?, h.signals, Bool.false_and, Bool.or_false, meets_of_isAtom h.isAtom, if_pos rfl,
    isHashable_of_isAtom h.isAtom]
  cases hsignals : y.signals with
  | true =>
      rw [h.number hsignals]
      exact iff_of_false error_ne_ok fun h => Bool.false_ne_true h.1
  | false => exact ⟨fun h => ⟨rfl, Except.ok.inj h⟩, fun h => congrArg Except.ok h.2⟩

end Value

namespace Schema

variable {s : Schema} {v w : Value} {t : NamedType}

/-- The values of an atomic type are atoms, null not among them. -/
theorem isAtom_of_isInstance (ht : t.isAtomic = true) (h : s.isInstance v t = true) :
    v.isAtom = true ∧ v.isNull = false := by
  rcases s.isInstance_cases h with
    rfl | rfl | ⟨b, rfl, -⟩ | ⟨m, -, rfl⟩ | ⟨m, e, rfl, -, -⟩ | ⟨name, rfl⟩
  · cases v with
    | int | decimal | text | member => exact ⟨rfl, rfl⟩
    | set frozen => cases frozen <;> cases ht
    | _ => cases ht
  · cases ht
  · exact ⟨rfl, rfl⟩
  · cases ht
  · exact ⟨rfl, rfl⟩
  · cases ht

/-- Only beside decimals there are decimals that signal. -/
theorem isSome_number?_of_signals (ht : t.isAtomic = true) (hv : s.isInstance v t = true)
    (hw : s.isInstance w t = true) (h : v.signals = true) : w.number?.isSome = true := by
  -- Only a decimal can signal, and then everything of its type is a decimal too.
  cases v with
  | decimal d =>
      have htype : t = .decimal := by
        rcases s.isInstance_cases hv with
          rfl | rfl | ⟨b, hv, -⟩ | ⟨m, hv, -⟩ | ⟨m, e, hv, -, -⟩ | ⟨name, rfl⟩
        · rfl
        · cases ht
        · cases hv
        · cases hv
        · cases hv
        · cases ht
      rw [htype] at hw
      have hdecimal := s.ofValue_eq_of_final hw (by decide) nofun
      -- Any other value has its own final type, which is not that of decimals.
      cases w with
      | decimal d => rfl
      | set frozen => cases frozen <;> cases hdecimal
      | _ => cases hdecimal
  | _ => cases h

/-- Null and the values of an atomic type are held against those that do not signal. -/
theorem faces_of_isInstance (ht : t.isAtomic = true)
    (hv : v.isNull = false → s.isInstance v t = true) (hw : s.isInstance w t = true)
    (hsignals : w.signals = false) : v.Faces w := by
  have hpresent := (isAtom_of_isInstance ht hw).2
  cases hnull : v.isNull with
  | true =>
      rw [Value.eq_null_of_isNull hnull]
      exact ⟨rfl, hpresent, hsignals, nofun⟩
  | false =>
      exact ⟨(isAtom_of_isInstance ht (hv hnull)).1, hpresent, hsignals,
        isSome_number?_of_signals ht (hv hnull) hw⟩

end Schema

namespace OperatorTable

variable {x y : Value}

/-- Equality asks whether atoms are equal, and its negation whether they differ. Neither
    has an outcome if the value of the field signals. -/
theorem evaluate_equal_iff_of_faces (h : y.Faces x) :
    (standard.evaluate .equal y x = .ok true ↔ y.isHashable = true ∧ Value.equal y x = true) ∧
      (standard.evaluate .notEqual y x = .ok true ↔
        y.isHashable = true ∧ Value.equal y x = false) := by
  -- Between two faces the comparison is the equality of values and fails only on what signals.
  have hequal {b : Bool} :
      Comparison.equal y x = .ok b ↔ y.isHashable = true ∧ Value.equal y x = b := by
    show Value.equal? (Value.align y x).1 (Value.align y x).2 = _ ↔ _
    rw [Value.align_of_isAtom h.isAtom]
    exact h.equal?_eq_ok_iff
  constructor
  · show passing (unworded (Comparison.equal y x)) = _ ↔ _
    rw [passing_eq_ok_iff, unworded_eq_ok_iff, hequal]
  -- Inequality negates that comparison, so it fails in the same cases.
  · show passing (unworded ((Comparison.equal y x).map not)) = _ ↔ _
    rw [passing_eq_ok_iff, unworded_eq_ok_iff, map_eq_ok_iff]
    constructor
    · rintro ⟨b, hb, hnot⟩
      rw [Bool.not_eq_true'] at hnot
      rw [hnot] at hb
      exact hequal.mp hb
    · exact fun h => ⟨false, hequal.mpr h, rfl⟩

end OperatorTable

/-- Criteria of the type ask whether a field of the other type is one of some values or,
    if they are negated, whether it is none of them. -/
inductive CustomType.Lists : CustomType → NamedType → Bool → Prop
  | members (name : String) : Lists .enumValues (.enum name) false
  | texts : Lists .textIn .text false
  | noTexts : Lists .textNotIn .text true
  | numbers {t : NamedType} (ht : t.isAtomic = true) : Lists .numericIn t false
  | noNumbers {t : NamedType} (ht : t.isAtomic = true) : Lists .numericNotIn t true

theorem CustomType.Lists.isAtomic {type : CustomType} {t : NamedType} {negated : Bool}
    (h : type.Lists t negated) : t.isAtomic = true := by
  cases h with
  | members | texts | noTexts => rfl
  | numbers ht | noNumbers ht => exact ht

/-- Only a list of hashable values can be looked up in. -/
theorem Spec.membership_eq_ok_iff {t : MembershipTest} {spec : Spec} :
    membership t = .ok spec ↔ Value.allHashable t.values = true ∧ spec = .member t := by
  rw [membership]
  split
  · rename_i h
    exact ⟨fun hspec => ⟨h, (Except.ok.inj hspec).symm⟩,
      fun hspec => congrArg Except.ok hspec.2.symm⟩
  · rename_i h
    exact iff_of_false error_ne_ok fun hspec => h hspec.1

/-- A list of values that is read has some. -/
theorem Parameters.ne_nil_of_values {p : Parameters} {key : String} {vs : List Value}
    (h : p.values key = .ok vs) : vs ≠ [] := by
  rcases bind_eq_ok_iff.mp h with ⟨v, -, h⟩
  split at h
  · exact absurd h defective_ne_ok
  · rename_i hne
    rw [← Except.ok.inj h]
    exact hne

namespace Context

variable {c : Context} {entity : TypeExpr} {k l : Criterion} {a : Accessor} {t : NamedType}
  {tokens xs : List Value} {negated : Bool} {spec : Spec} {v w x y : Value}

/-- A list of tokens, all of them texts, to look up in it a single value of a type. -/
structure IsValueList (c : Context) (entity : TypeExpr) (k : Criterion) (a : Accessor)
    (t : NamedType) (tokens : List Value) (negated : Bool) : Prop where
  lists : k.type.Lists t negated
  field : c.fieldOf entity k.settings = .ok a
  single : a.element = none
  value : a.valueType = .named t
  values : k.settings.values "values" = .ok tokens
  texts : ∀ w ∈ tokens, w.text?.isSome = true

/-- A text is coerced as texts are read that are to become values of the type. -/
theorem coerce_eq_ok_iff_of_ofText (hfind : c.coercer.find? c.schema t = none)
    (hw : w.text?.isSome = true) {r : Except Fault Value}
    (h : ∀ text, c.schema.ofText t w text = r) :
    c.coercer.coerce c.schema (.named t) w = .ok x ↔ r = .ok x := by
  rcases Option.isSome_iff_exists.mp hw with ⟨text, htext⟩
  show c.coercer.coerceTo c.schema t w = .ok x ↔ _
  rw [Coercer.coerceTo_text_eq hfind htext, mapError_eq_ok_iff, h]

/-- What a token is coerced to is of the type of the field. -/
theorem IsValueList.isInstance_of_coerce (hk : c.IsValueList entity k a t tokens negated)
    (hfind : c.coercer.find? c.schema t = none) (hw : w ∈ tokens)
    (hx : c.coercer.coerce c.schema a.valueType w = .ok x) : c.schema.isInstance x t = true := by
  have hsingle : w.isNull = false ∧ w.elements? = none := by
    have htext := hk.texts w hw
    cases w with
    | text | member => exact ⟨rfl, rfl⟩
    | _ => cases htext
  have hcoerce : Coercer.coerceTo [] c.schema t w = .ok x := by
    rw [hk.value] at hx
    rw [← Coercer.coerceTo_of_find?_eq_none hfind hsingle.1 hsingle.2]
    exact hx
  have ht := NamedType.isSingle_of_isAtomic hk.lists.isAtomic
  exact (Coercer.settles_of_coerceTo ht hsingle.1 hsingle.2 hcoerce).isInstance

/-- A token is the member that its enumeration parses it as. -/
theorem enumToken_eq_ok_iff {name : String} :
    c.enumToken name w = .ok x ↔ c.schema.parseMember name w = .ok x := by
  rw [enumToken]
  split
  · rename_i m hm
    rw [hm, Except.ok.injEq, Except.ok.injEq]
  · rename_i r hr
    rw [hr]
    split
    · exact iff_of_false failWith_ne_ok error_ne_ok
    · exact iff_of_false error_ne_ok error_ne_ok

section Lists

variable {p : Parameters} (hfield : c.fieldOf entity p = .ok a)
  (hvalues : p.values "values" = .ok tokens)

include hfield hvalues

theorem enumValues_eq {name : String} (helement : elementOrValue a = .named (.enum name)) :
    c.enumValues entity p =
      (do passing (Spec.membership ⟨a, ← tokens.mapM (c.enumToken name), false, none⟩)) := by
  rw [enumValues, hfield]
  dsimp only [bind, Except.bind]
  rw [helement, hvalues]

theorem textMembership_eq (negated : Bool) : textMembership negated c entity p =
    (do passing (Spec.membership
      ⟨a, ← tokens.mapM fun w => .ok (.text w.display), negated, none⟩)) := by
  rw [textMembership, hfield, hvalues, mapM_eq_ok_map fun _ _ => rfl]
  rfl

theorem numericMembership_eq (negated : Bool) (helement : elementOrValue a = .named t) :
    numericMembership negated c entity p = (do passing (Spec.membership
      ⟨a, ← tokens.mapM (c.coercer.coerce c.schema (.named t)), negated, none⟩)) := by
  have hnumber : numberType a = .named t := by
    rw [numberType, helement]
    rfl
  rw [numericMembership, hfield, hvalues, ← hnumber]
  rfl

end Lists

/-- The types of lists differ only in how they convert a token, and each does so as the
    operands of comparisons are coerced. -/
theorem IsValueList.exists_convert (hk : c.IsValueList entity k a t tokens negated)
    (hfind : c.coercer.find? c.schema t = none) :
    ∃ convert : Value → Except Fault Value,
      c.compileCriterion entity k =
        (do passing (Spec.membership ⟨a, ← tokens.mapM convert, negated, none⟩)) ∧
      ∀ w ∈ tokens, ∀ x, c.coercer.coerce c.schema a.valueType w = .ok x ↔ convert w = .ok x := by
  have helement : elementOrValue a = .named t := by
    rw [elementOrValue, hk.single, hk.value]
    rfl
  have hcompile {f : Context → TypeExpr → Parameters → Except Fault Spec}
      (hkind : k.type.kind = .custom) (hf : filter? k.type = some f) :
      c.compileCriterion entity k = f c entity k.settings := compileCriterion_of_filter? hkind hf
  have hlists := hk.lists
  rw [hk.value]
  -- By the kind of list. In each the tokens are read by a function of its own, which agrees with
  -- the coercion of the comparisons.
  generalize k.type = type at hcompile hlists
  cases hlists with
  | members name =>
      refine ⟨_, (hcompile rfl rfl).trans (enumValues_eq hk.field hk.values helement),
        fun w hw x => ?_⟩
      -- A token of an enumeration is parsed, and the coercer parses a text in the same way.
      rw [enumToken_eq_ok_iff, ← passing_eq_ok_iff]
      exact coerce_eq_ok_iff_of_ofText hfind (hk.texts w hw) fun _ => rfl
  | texts =>
      exact ⟨_, (hcompile rfl rfl).trans (textMembership_eq hk.field hk.values _),
        fun w hw x => coerce_eq_ok_iff_of_ofText hfind (hk.texts w hw) fun _ => rfl⟩
  | noTexts =>
      exact ⟨_, (hcompile rfl rfl).trans (textMembership_eq hk.field hk.values _),
        fun w hw x => coerce_eq_ok_iff_of_ofText hfind (hk.texts w hw) fun _ => rfl⟩
  | numbers | noNumbers =>
      exact ⟨_, (hcompile rfl rfl).trans (numericMembership_eq hk.field hk.values _ helement),
        fun _ _ _ => Iff.rfl⟩

/-- A list compiles if its tokens can be coerced to values of the field, as the operands
    of comparisons are, and these are hashable. -/
theorem IsValueList.compile_eq_ok_iff (hk : c.IsValueList entity k a t tokens negated)
    (hfind : c.coercer.find? c.schema t = none) :
    c.compileCriterion entity k = .ok spec ↔
      ∃ xs, List.Forall₂ (fun w x => c.coercer.coerce c.schema a.valueType w = .ok x) tokens xs ∧
        Value.allHashable xs = true ∧ spec = .member ⟨a, xs, negated, none⟩ := by
  rcases hk.exists_convert hfind with ⟨convert, hcompile, hconvert⟩
  have hcoerce (xs : List Value) : tokens.mapM convert = .ok xs ↔
      List.Forall₂ (fun w x => c.coercer.coerce c.schema a.valueType w = .ok x) tokens xs := by
    rw [mapM_eq_ok_iff]
    exact ⟨fun h => forall₂_imp_of_mem h fun w hw x _ => (hconvert w hw x).mpr,
      fun h => forall₂_imp_of_mem h fun w hw x _ => (hconvert w hw x).mp⟩
  rw [hcompile, bind_eq_ok_iff]
  refine exists_congr fun xs => ?_
  rw [hcoerce, passing_eq_ok_iff, Spec.membership_eq_ok_iff]

/-- A list compiles exactly if the comparisons with its tokens do, where no token stands
    for a decimal that signals. -/
theorem IsValueList.exists_compile_iff (hk : c.IsValueList entity k a t tokens negated)
    (hfind : c.coercer.find? c.schema t = none) {equalTo : Value → Criterion}
    (hequal : ∀ w ∈ tokens, c.IsComparison entity (equalTo w) a .equal w)
    (hsignals : ∀ w ∈ tokens, ∀ x,
      c.coercer.coerce c.schema a.valueType w = .ok x → x.signals = false) :
    (∃ spec, c.compileCriterion entity k = .ok spec) ↔
      ∀ w ∈ tokens, ∃ spec, c.compileCriterion entity (equalTo w) = .ok spec := by
  constructor
  -- From the list to its comparisons: every token was read, so each of them compiles.
  · rintro ⟨spec, hspec⟩ w hw
    rcases (hk.compile_eq_ok_iff hfind).mp hspec with ⟨xs, hxs, -, -⟩
    rcases forall₂_exists_right hxs hw with ⟨x, -, hx⟩
    exact ⟨_, ((hequal w hw).compile_equal_iff (.inl rfl)).mpr ⟨x, hx, rfl⟩⟩
  · intro hall
    have hcoerce : ∀ w ∈ tokens, ∃ x, c.coercer.coerce c.schema a.valueType w = .ok x := by
      intro w hw
      rcases hall w hw with ⟨spec, hspec⟩
      rcases ((hequal w hw).compile_equal_iff (.inl rfl)).mp hspec with ⟨x, hx, -⟩
      exact ⟨x, hx⟩
    rcases exists_forall₂ hcoerce with ⟨xs, hxs⟩
    -- The comparisons do not ask whether their operands can be put in a set.
    have hhashable : ∀ x ∈ xs, x.isHashable = true := by
      intro x hx
      rcases forall₂_exists_left hxs hx with ⟨w, hw, hx⟩
      have htype := hk.isInstance_of_coerce hfind hw hx
      have hatom := (Schema.isAtom_of_isInstance hk.lists.isAtomic htype).1
      rw [Value.isHashable_of_isAtom hatom, hsignals w hw x hx]
      rfl
    exact ⟨_, (hk.compile_eq_ok_iff hfind).mpr
      ⟨xs, hxs, Value.allHashable_iff.mpr hhashable, rfl⟩⟩

/-- What is read of a field is looked up in the list if it is hashable. Null is not in
    the list. -/
theorem accepts_member_iff (hsingle : a.element = none) (hread : a.read c.schema v = .ok y)
    (hxs : ∀ x ∈ xs, x.isNull = false) :
    (Spec.member ⟨a, xs, negated, none⟩).accepts c.schema v = .ok true ↔
      y.isHashable = true ∧ (Value.contains xs y != negated) = true := by
  have hcollection : a.isCollection = false := by
    rw [Accessor.isCollection, hsingle]
    rfl
  -- For a single value the test asks first whether it can be put in
  -- a set, and null is never in one.
  have haccepts : MembershipTest.accepts ⟨a, xs, negated, none⟩ c.schema v =
      if y.isHashable then .ok (Value.contains xs y != negated) else .error .mismatch := by
    rw [MembershipTest.accepts, hread]
    dsimp only [bind, Except.bind]
    rw [hcollection, if_neg Bool.false_ne_true]
    cases hnull : y.isNull with
    | true =>
        -- The rule for null says what the set would say.
        have hnone : Value.contains xs .null = false := by
          refine List.any_eq_false.mpr fun x hx => ?_
          rw [Value.equal_of_equal? (OperatorTable.equal_null (hxs x hx))]
          exact Bool.false_ne_true
        rw [Value.eq_null_of_isNull hnull, hnone]
        rfl
    | false =>
        dsimp only [MembershipTest.holds, transformed, Option.elim_none, bind, Except.bind]
        cases y.isHashable <;> rfl
  show passing (unworded _) = _ ↔ _
  rw [haccepts, passing_eq_ok_iff, unworded_eq_ok_iff]
  split
  · rename_i hhashable
    exact ⟨fun h => ⟨hhashable, Except.ok.inj h⟩, fun h => congrArg Except.ok h.2⟩
  · rename_i hnot
    exact iff_of_false error_ne_ok fun h => hnot h.1

/-- An atom is in the list if it is equal to one of the values. -/
theorem accepts_member_iff_exists (hsingle : a.element = none) (hread : a.read c.schema v = .ok y)
    (hxs : ∀ x ∈ xs, y.Faces x) :
    (Spec.member ⟨a, xs, false, none⟩).accepts c.schema v = .ok true ↔
      ∃ x ∈ xs, OperatorTable.standard.evaluate .equal y x = .ok true := by
  rw [accepts_member_iff hsingle hread fun x hx => (hxs x hx).isNull, Bool.bne_false,
    Value.contains, List.any_eq_true]
  constructor
  · rintro ⟨hhashable, x, hx, hequal⟩
    exact ⟨x, hx, (OperatorTable.evaluate_equal_iff_of_faces (hxs x hx)).1.mpr ⟨hhashable, hequal⟩⟩
  · rintro ⟨x, hx, hequal⟩
    have hboth := (OperatorTable.evaluate_equal_iff_of_faces (hxs x hx)).1.mp hequal
    exact ⟨hboth.1, x, hx, hboth.2⟩

/-- An atom is not in the list if it differs from all of the values. -/
theorem accepts_member_iff_forall (hsingle : a.element = none) (hread : a.read c.schema v = .ok y)
    (hxs : ∀ x ∈ xs, y.Faces x) (hne : xs ≠ []) :
    (Spec.member ⟨a, xs, true, none⟩).accepts c.schema v = .ok true ↔
      ∀ x ∈ xs, OperatorTable.standard.evaluate .notEqual y x = .ok true := by
  rw [accepts_member_iff hsingle hread fun x hx => (hxs x hx).isNull, Bool.bne_true,
    Bool.not_eq_true', Value.contains, List.any_eq_false]
  constructor
  · rintro ⟨hhashable, hnone⟩ x hx
    exact (OperatorTable.evaluate_equal_iff_of_faces (hxs x hx)).2.mpr
      ⟨hhashable, Bool.eq_false_iff.mpr (hnone x hx)⟩
  · intro hall
    have hboth (x : Value) (hx : x ∈ xs) :=
      (OperatorTable.evaluate_equal_iff_of_faces (hxs x hx)).2.mp (hall x hx)
    rcases List.exists_mem_of_ne_nil xs hne with ⟨x, hx⟩
    exact ⟨(hboth x hx).1, fun x hx => Bool.eq_false_iff.mp (hboth x hx).2⟩

/-- The verdict of a comparison by equality is the outcome of its operator. -/
theorem IsComparison.verdict_equal {op : Operator} (hl : c.IsComparison entity l a op w)
    (hop : op = .equal ∨ op = .notEqual) (hc : c.operators = .standard)
    (hx : c.coercer.coerce c.schema a.valueType w = .ok x) (hread : a.read c.schema v = .ok y) :
    c.verdict entity l v = OperatorTable.standard.evaluate op y x := by
  rw [verdict, (hl.compile_equal_iff hop).mpr ⟨x, hx, rfl⟩]
  exact accepts_test hc hread rfl

/-- A list of values, and the comparisons of the field with these values. The field is no
    collection and of an atomic type without a converter; all tokens are texts, and none
    stands for a decimal that signals. Operators compare as usual.

    The list compiles exactly if the comparisons for equality with all of its tokens do.
    If so, it accepts of the candidates those that one of these comparisons accepts. A
    negated list accepts those that every comparison for being different accepts, null
    among them. -/
theorem verdict_valueList (hc : c.operators = .standard)
    (hk : c.IsValueList entity k a t tokens negated)
    (hfind : c.coercer.find? c.schema t = none) {equalTo unequalTo : Value → Criterion}
    (hequal : ∀ w ∈ tokens, c.IsComparison entity (equalTo w) a .equal w)
    (hunequal : ∀ w ∈ tokens, c.IsComparison entity (unequalTo w) a .notEqual w)
    (hsignals : ∀ w ∈ tokens, ∀ x,
      c.coercer.coerce c.schema a.valueType w = .ok x → x.signals = false) :
    ((∃ spec, c.compileCriterion entity k = .ok spec) ↔
      ∀ w ∈ tokens, ∃ spec, c.compileCriterion entity (equalTo w) = .ok spec) ∧
    ∀ spec, c.compileCriterion entity k = .ok spec →
      ∀ v, c.schema.IsCandidate v entity →
        (negated = false → (c.verdict entity k v = .ok true ↔
          ∃ w ∈ tokens, c.verdict entity (equalTo w) v = .ok true)) ∧
        (negated = true → (c.verdict entity k v = .ok true ↔
          ∀ w ∈ tokens, c.verdict entity (unequalTo w) v = .ok true)) := by
  refine ⟨hk.exists_compile_iff hfind hequal hsignals, fun spec hspec v hv => ?_⟩
  rcases (hk.compile_eq_ok_iff hfind).mp hspec with ⟨xs, hxs, -, rfl⟩
  rcases exists_path_of_fieldOf hk.field with ⟨path, -, hresolve⟩
  rcases exists_read_of_isCandidate (resolve_eq_ok_iff.mpr hresolve) hk.value hv with
    ⟨y, hread, -, hytype⟩
  -- The value read faces every token, so membership and equality are comparable token by token.
  have hfaces (x : Value) (hx : x ∈ xs) : y.Faces x := by
    rcases forall₂_exists_left hxs hx with ⟨w, hw, hx⟩
    exact Schema.faces_of_isInstance hk.lists.isAtomic (fun h => (hytype h).isInstance)
      (hk.isInstance_of_coerce hfind hw hx) (hsignals w hw x hx)
  have hverdict : c.verdict entity k v =
      (Spec.member ⟨a, xs, negated, none⟩).accepts c.schema v := by
    -- The list has been compiled to `xs`.
    rw [verdict, hspec]
    rfl
  rw [hverdict]
  constructor
  · rintro rfl
    rw [accepts_member_iff_exists hk.single hread hfaces]
    -- One token accepts exactly when its own comparison does.
    refine (forall₂_exists_iff (forall₂_imp_of_mem hxs fun w hw x _ hx => ?_)).symm
    rw [(hequal w hw).verdict_equal (.inl rfl) hc hx hread]
  · rintro rfl
    -- With no comparison at all, a value that signals would pass.
    have hne : xs ≠ [] := by
      rintro rfl
      rw [List.forall₂_nil_right_iff] at hxs
      exact Parameters.ne_nil_of_values hk.values hxs
    rw [accepts_member_iff_forall hk.single hread hfaces hne]
    refine (forall₂_forall_iff (forall₂_imp_of_mem hxs fun w hw x _ hx => ?_)).symm
    rw [(hunequal w hw).verdict_equal (.inr rfl) hc hx hread]

section Shifts

/-- Two names. -/
def twoNames : List Value :=
  [.text "early", .text "late"]

/-- Shifts with one of two names, or with neither. -/
def namedAmong (type : CustomType) : Criterion where
  type := type
  parameters := [("field", .text "name"), ("values", .list twoNames)]

/-- Shifts with a name, or with another one. -/
def named (op : Operator) (name : Value) : Criterion where
  field := some "name"
  op := op
  operand := .literal name

theorem values_namedAmong (type : CustomType) :
    (namedAmong type).settings.values "values" = .ok twoNames := by
  have hkept {name : String} (h : Text.isBlankText name = false ∧ Text.trim name = name) :
      Value.keptItem? (.text name) = some (.text name) := by
    show (if Text.isBlankText name then none else some (Value.text (Text.trim name))) = _
    rw [h.1, h.2]
    rfl
  have hread : Value.readList [';'] (.list twoNames) = twoNames := by
    show List.filterMap Value.keptItem? [.text "early", .text "late"] = _
    rw [List.filterMap_cons_some (hkept (by decide +kernel)),
      List.filterMap_cons_some (hkept (by decide +kernel))]
    rfl
  refine bind_eq_ok_iff.mpr ⟨.list twoNames, rfl, ?_⟩
  rw [hread]
  rfl

/-- The shift has the second of the names, so it is in the list of both and not out of it. -/
theorem verdict_valueList_lateShift :
    ofShifts.verdict (Catalog.entityNamed "Shift") (namedAmong .textIn) lateShift = .ok true ∧
    ¬ofShifts.verdict (Catalog.entityNamed "Shift") (namedAmong .textNotIn) lateShift =
      .ok true := by
  have hresolve : ∃ a, ofShifts.resolve (Catalog.entityNamed "Shift") "name" = .ok a ∧
      a.element = none ∧ a.valueType = .named .text := ⟨_, rfl, rfl, rfl⟩
  rcases hresolve with ⟨a, ha, hsingle, hvalue⟩
  -- Both lists, with their comparisons, on the field `name`.
  have hlist {type : CustomType} {negated : Bool} (hlists : type.Lists .text negated) :
      ofShifts.IsValueList (Catalog.entityNamed "Shift") (namedAmong type) a .text twoNames
        negated :=
    ⟨hlists, ha, hsingle, hvalue, values_namedAmong type, by decide⟩
  have hcomparison (op : Operator) : ∀ w ∈ twoNames,
      ofShifts.IsComparison (Catalog.entityNamed "Shift") (named op w) a op w :=
    fun _ _ => ⟨rfl, ⟨_, rfl, ha⟩, rfl, rfl⟩
  have hcoerce : ∀ w ∈ twoNames, ofShifts.coercer.coerce ofShifts.schema a.valueType w = .ok w := by
    rw [hvalue]
    intro w hw
    simp only [twoNames, List.mem_cons, List.not_mem_nil, or_false] at hw
    rcases hw with rfl | rfl <;> rfl
  -- Texts are coerced to themselves and never signal.
  have hsignals : ∀ w ∈ twoNames, ∀ x,
      ofShifts.coercer.coerce ofShifts.schema a.valueType w = .ok x → x.signals = false := by
    intro w hw x hx
    obtain rfl := Except.ok.inj ((hcoerce w hw).symm.trans hx)
    simp only [twoNames, List.mem_cons, List.not_mem_nil, or_false] at hw
    rcases hw with rfl | rfl <;> rfl
  have hcompiles : ∀ w ∈ twoNames, ∃ spec,
      ofShifts.compileCriterion (Catalog.entityNamed "Shift") (named .equal w) = .ok spec :=
    fun w hw => ⟨_, ((hcomparison .equal w hw).compile_equal_iff (.inl rfl)).mpr
      ⟨w, hcoerce w hw, rfl⟩⟩
  have hin := verdict_valueList rfl (hlist .texts) rfl (hcomparison .equal)
    (hcomparison .notEqual) hsignals
  have hout := verdict_valueList rfl (hlist .noTexts) rfl (hcomparison .equal)
    (hcomparison .notEqual) hsignals
  rcases hin.1.mpr hcompiles with ⟨spec, hspec⟩
  rcases hout.1.mpr hcompiles with ⟨spec', hspec'⟩
  have hlate : Value.text "late" ∈ twoNames := List.mem_cons_of_mem _ List.mem_cons_self
  -- The two comparisons with the name of the shift decide both verdicts.
  have hsame : ofShifts.verdict (Catalog.entityNamed "Shift") (named .equal (.text "late"))
      lateShift = .ok true := toOption_eq_some_iff.mp (by decide +kernel)
  have hother : ofShifts.verdict (Catalog.entityNamed "Shift") (named .notEqual (.text "late"))
      lateShift = .ok false := toOption_eq_some_iff.mp (by decide +kernel)
  refine ⟨((hin.2 spec hspec lateShift isCandidate_lateShift).1 rfl).mpr ⟨_, hlate, hsame⟩,
    fun haccepts => ?_⟩
  have hall := ((hout.2 spec' hspec' lateShift isCandidate_lateShift).2 rfl).mp haccepts
  cases hother.symm.trans (hall _ hlate)

end Shifts

end Context

end Criteria
