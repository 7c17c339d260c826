import Criteria.Proofs.Coercion.Typed
import Criteria.Proofs.Number.DecimalText
import Criteria.Proofs.Number.Whole
import Criteria.Proofs.Value.Equality

/-!
# Settled Values

What has been coerced to a type is of the type, and coercing it again changes
nothing.

The second coercion hardly ever takes the way of the first. A text becomes a moment by
a rule for texts, and the moment then passes because it is one already; a token becomes
a member, and the member is also a number or a text and goes through the rules for
these. So the ways are not compared. Instead it is shown for each kind of value that a
rule can make that such a value is settled (`Coercer.Settles`), and then what each rule
can make is all that matters.

One way is different: what is of the type from the start passes as it is, whatever it
is. Then the second coercion is the first one over again.

A decimal is the only kind of value whose second coercion reads a text. It is settled
because decimals within bounds are read as they were written.

## Main definitions

* `NamedType.isSingle`: The type of single values.
* `Coercer.Settles`: A value of a type that coercing leaves as it is.

## Theorems

* `Coercer.settles_of_isInstance`, `Coercer.settles_member`, `Coercer.settles_decimal`:
  The kinds of values that are settled.
* `Coercer.givesOnly_convert`: What rules make is settled.
* `Coercer.coerce_settles`: What has been coerced is settled.
-/

namespace Criteria

/-- The values of the type are single ones, whether they can be compared or not. -/
def NamedType.isSingle (t : NamedType) : Bool :=
  t.isPlain || t == .decimal || t == .clock

namespace Coercer

/-- The value is of the type, and coercing it to the type leaves it as it is. -/
structure Settles (s : Schema) (t : NamedType) (v : Value) : Prop where
  isInstance : s.isInstance v t = true
  coerceTo : coerceTo [] s t v = .ok v

section Ways

variable {s : Schema} {t : NamedType} {v : Value}

/-- Without converters there are three ways: for numbers, for texts and for the rest. -/
theorem convert_nil (s : Schema) (t : NamedType) (v : Value) : convert [] s t v =
    if isNumber v then s.ofNumber t v
    else v.text?.elim (s.ofOther t v) fun text => s.ofText t v text := by
  rw [convert, find?_nil]
  cases v.text? <;> rfl

/-- A value that holds no others is converted. -/
theorem coerceTo_eq (c : Coercer) (hnull : v.isNull = false) (hv : v.elements? = none) :
    c.coerceTo s t v = (c.convert s t v).mapError (reported v t.name) := by
  cases v with
  | null => cases hnull
  | list | tuple | set => cases hv
  | _ => rfl

/-- To a type without a converter, values are coerced as without any converters. -/
theorem coerceTo_of_find?_eq_none {c : Coercer} (h : c.find? s t = none)
    (hnull : v.isNull = false) (hv : v.elements? = none) :
    c.coerceTo s t v = coerceTo [] s t v := by
  have hconvert : c.convert s t v = convert [] s t v := by
    rw [convert, convert, h, find?_nil]
  rw [coerceTo_eq c hnull hv, coerceTo_eq [] hnull hv, hconvert]

/-- What stands for a text is read as its type says, if there is no converter. -/
theorem coerceTo_text_eq {c : Coercer} (h : c.find? s t = none) {text : String}
    (htext : v.text? = some text) :
    c.coerceTo s t v = (s.ofText t v text).mapError (reported v t.name) := by
  have hnumber : isNumber v = false := by
    rw [isNumber, Value.number?_of_text? htext]
    rfl
  have hsingle : v.isNull = false ∧ v.elements? = none := by
    cases v with
    | text | member => exact ⟨rfl, rfl⟩
    | _ => cases htext
  rw [coerceTo_of_find?_eq_none h hsingle.1 hsingle.2, coerceTo_eq [] hsingle.1 hsingle.2,
    convert_nil, hnumber, htext]
  rfl

theorem coerceTo_of_convert (hnull : v.isNull = false) (hv : v.elements? = none)
    (h : convert [] s t v = .ok v) : coerceTo [] s t v = .ok v := by
  rw [coerceTo_eq [] hnull hv, h]
  rfl

end Ways

section Kinds

variable {s : Schema} {t : NamedType} {v : Value}

/-- What is neither a number nor a text passes if it is of the type. -/
theorem settles_of_isInstance (hnumber : v.number? = none) (htext : v.text? = none)
    (hnull : v.isNull = false) (hv : v.elements? = none) (h : s.isInstance v t = true) :
    Settles s t v := by
  refine ⟨h, coerceTo_of_convert hnull hv ?_⟩
  rw [convert_nil, isNumber, hnumber, htext]
  exact if_pos h

theorem settles_bool (s : Schema) (b : Bool) : Settles s .bool (.bool b) := by
  refine ⟨s.isInstance_ofValue _, coerceTo_of_convert rfl rfl ?_⟩
  cases b <;> rfl

theorem settles_int (s : Schema) (n : Int) : Settles s .int (.int n) := by
  refine ⟨s.isInstance_ofValue _, coerceTo_of_convert rfl rfl ?_⟩
  have hwhole : Schema.wholeOfNumber (.int n) = .ok n := by
    show expected (.failed .overflow) (Decimal.ofInt n).truncate? = _
    rw [Decimal.truncate?_ofInt]
    rfl
  show passing ((Schema.wholeOfNumber (.int n)).map Value.int) = _
  rw [hwhole]
  rfl

theorem settles_float (s : Schema) (x : Binary64) : Settles s .float (.float x) :=
  ⟨s.isInstance_ofValue _, coerceTo_of_convert rfl rfl rfl⟩

theorem settles_text (s : Schema) (w : String) : Settles s .text (.text w) :=
  ⟨s.isInstance_ofValue _, coerceTo_of_convert rfl rfl rfl⟩

/-- A decimal is read from its own text. -/
theorem settles_decimal (s : Schema) {d : Decimal} (h : d.Fits) :
    Settles s .decimal (.decimal d) := by
  refine ⟨s.isInstance_ofValue _, coerceTo_of_convert rfl rfl ?_⟩
  have hread : Schema.decimalOfText d.text = .ok (.decimal d) := by
    rw [Schema.decimalOfText, Decimal.readDecimal?_text h]
    rfl
  show passing (Schema.decimalOfText d.text) = _
  rw [hread]
  rfl

theorem settles_moment (s : Schema) (m : Moment) : Settles s .moment (.moment m) :=
  settles_of_isInstance rfl rfl rfl rfl (s.isInstance_ofValue _)

theorem settles_date (s : Schema) (d : Date) : Settles s .date (.date d) :=
  settles_of_isInstance rfl rfl rfl rfl (s.isInstance_ofValue _)

theorem settles_clock (s : Schema) (c : ClockTime) : Settles s .clock (.clock c) :=
  settles_of_isInstance rfl rfl rfl rfl (s.isInstance_ofValue _)

theorem settles_duration (s : Schema) (d : Duration) : Settles s .duration (.duration d) :=
  settles_of_isInstance rfl rfl rfl rfl (s.isInstance_ofValue _)

theorem settles_uuid (s : Schema) (u : Uuid) : Settles s .uuid (.uuid u) :=
  settles_of_isInstance rfl rfl rfl rfl (s.isInstance_ofValue _)

/-- A member of an enumeration stands for itself, also where it is a number or a text. -/
theorem settles_member {m : EnumMember} {e : EnumType} (he : s.enum? m.type = some e) :
    Settles s (.enum m.type) (.member m) := by
  -- A member is parsed as itself.
  have hparse : s.parseMember m.type (.member m) = .ok (.member m) := by
    have htype : (m.type == e.name) = true := by
      rw [Schema.name_of_enum? he, beq_self_eq_true]
    rw [Schema.parseMember, he]
    dsimp only
    rw [EnumType.parse]
    dsimp only
    rw [if_pos htype]
    rfl
  refine ⟨s.isInstance_ofValue _, coerceTo_of_convert rfl rfl ?_⟩
  have hpassing : passing (s.parseMember m.type (.member m)) = .ok (.member m) := by
    rw [hparse]
    rfl
  rw [convert_nil]
  -- Whether the member counts as a number, as a text or as neither,
  -- parsing or its type lets it through.
  split
  · exact hpassing
  · cases (Value.member m).text? with
    | some text => exact hpassing
    | none => exact if_pos (s.isInstance_ofValue _)

end Kinds

section Rules

variable {s : Schema} {t : NamedType} {v : Value}

/-- A token stands for a settled member. -/
theorem givesOnly_parseMember (s : Schema) (name : String) (token : Value) :
    GivesOnly (Settles s (.enum name)) (s.parseMember name token) := by
  rw [Schema.parseMember]
  cases henum : s.enum? name with
  | none => exact givesOnly_error _
  | some e =>
      refine (e.givesOnly_parse token).map fun m hm => ?_
      have htype : m.type = name := by
        rcases hm with hm | ⟨-, hm⟩
        · rw [EnumType.type_of_mem_members hm, Schema.name_of_enum? henum]
        · rw [hm, Schema.name_of_enum? henum]
      rw [← htype] at henum ⊢
      exact settles_member henum

/-- The decimal that is read from a text is settled. -/
theorem givesOnly_decimalOfText (s : Schema) (text : String) :
    GivesOnly (Settles s .decimal) (Schema.decimalOfText text) := by
  intro r hr
  rcases map_eq_ok_iff.mp hr with ⟨d, hd, rfl⟩
  exact settles_decimal s (Decimal.fits_of_readDecimal? (expected_eq_ok_iff.mp hd))

/-- The value is settled, or else it is the one that was there and is of the type. -/
def SettlesFrom (s : Schema) (t : NamedType) (v r : Value) : Prop :=
  Settles s t r ∨ r = v ∧ s.isInstance v t = true

/-- A number that a text stands for, or that of an identifier. -/
theorem givesOnly_wholeOfOther (s : Schema) (v : Value) :
    GivesOnly (Settles s .int) (Schema.wholeOfOther v) := by
  unfold Schema.wholeOfOther
  split
  · exact (givesOnly_true _).map fun n _ => settles_int s n
  · exact givesOnly_ok (settles_int s _)
  · exact givesOnly_error _

/-- A full hour. -/
theorem givesOnly_hourOf (s : Schema) (v : Value) :
    GivesOnly (Settles s .clock) (Schema.hourOf v) := by
  unfold Schema.hourOf
  split
  · exact givesOnly_error _
  · split
    · exact givesOnly_error _
    · split
      · exact givesOnly_error _
      · split
        · exact givesOnly_ok (settles_clock s _)
        · exact givesOnly_error _

/-- What is built where no other rule applies. -/
theorem givesOnly_construct (ht : t.isSingle = true) :
    GivesOnly (Settles s t) (s.construct t v) := by
  cases t <;> simp only [Schema.construct]
  case bool => exact givesOnly_ok (settles_bool s _)
  case int => exact (givesOnly_wholeOfOther s v).passing
  case float =>
    refine GivesOnly.passing (GivesOnly.unworded ?_)
    exact (givesOnly_true _).map fun x _ => settles_float s x
  case text => exact givesOnly_ok (settles_text s _)
  case clock => exact (givesOnly_hourOf s v).passing
  case uuid | enum | decimal | date | moment | duration =>
    exact GivesOnly.passing (givesOnly_error _)
  all_goals cases ht

/-- What is of the type passes, and other values are made to be of the type. -/
theorem givesOnly_ofOther (ht : t.isSingle = true) :
    GivesOnly (SettlesFrom s t v) (s.ofOther t v) := by
  rw [Schema.ofOther]
  split
  · rename_i h
    exact givesOnly_ok (.inr ⟨rfl, h⟩)
  · exact fun r hr => .inl (givesOnly_construct ht r hr)

/-- The rules for numbers. -/
theorem givesOnly_ofNumber (ht : t.isSingle = true) :
    GivesOnly (SettlesFrom s t v) (s.ofNumber t v) := by
  have hsettled {x : Except Fault Value} (hx : GivesOnly (Settles s t) x) :
      GivesOnly (SettlesFrom s t v) x := fun r hr => .inl (hx r hr)
  -- Each type has a rule for numbers, whose results settle, or it
  -- falls back on the rule for the rest.
  cases t <;> simp only [Schema.ofNumber]
  case enum name => exact hsettled (givesOnly_parseMember s name v).passing
  case bool => exact hsettled (Schema.givesOnly_boolOfNumber (settles_bool s) v).passing
  case int => exact hsettled (GivesOnly.passing ((givesOnly_true _).map fun n _ => settles_int s n))
  case float =>
    refine hsettled (GivesOnly.passing (GivesOnly.unworded ?_))
    exact (givesOnly_true _).map fun x _ => settles_float s x
  case decimal => exact hsettled (givesOnly_decimalOfText s _).passing
  case text =>
    refine hsettled ?_
    split <;> exact givesOnly_ok (settles_text s _)
  case moment =>
    exact hsettled (GivesOnly.passing ((givesOnly_true _).map fun m _ => settles_moment s m))
  case date =>
    exact hsettled (GivesOnly.passing ((givesOnly_true _).map fun m _ => settles_date s m.date))
  case duration =>
    refine hsettled (GivesOnly.passing (GivesOnly.unworded ?_))
    exact GivesOnly.after fun x => GivesOnly.after fun d => givesOnly_ok (settles_duration s d)
  -- There is no rule that makes a time of day or an identifier of a number.
  case clock | uuid => exact givesOnly_ofOther ht
  all_goals cases ht

/-- The rules for texts. -/
theorem givesOnly_ofText (ht : t.isSingle = true) (text : String) :
    GivesOnly (Settles s t) (s.ofText t v text) := by
  -- A text that is read gives a value of the constructor, and all of these settle.
  have hbuild {α : Type} {f : α → Value} (hf : ∀ a, Settles s t (f a)) {x : Except Refusal α} :
      GivesOnly (Settles s t) (passing (x.map f)) :=
    GivesOnly.passing ((givesOnly_true x).map fun a _ => hf a)
  cases t <;> simp only [Schema.ofText]
  case enum name => exact (givesOnly_parseMember s name v).passing
  case text => exact givesOnly_ok (settles_text s _)
  case bool => exact hbuild (settles_bool s)
  case int => exact hbuild (settles_int s)
  case float =>
    refine GivesOnly.passing (GivesOnly.unworded ?_)
    exact (givesOnly_true _).map fun x _ => settles_float s x
  case decimal => exact (givesOnly_decimalOfText s _).passing
  case moment => exact hbuild (settles_moment s)
  case date => exact hbuild (settles_date s)
  case clock => exact hbuild (settles_clock s)
  case duration => exact hbuild (settles_duration s)
  case uuid => exact hbuild (settles_uuid s)
  all_goals cases ht

/-- What any of the rules makes is settled. -/
theorem givesOnly_convert (ht : t.isSingle = true) :
    GivesOnly (SettlesFrom s t v) (convert [] s t v) := by
  rw [convert_nil]
  split
  · exact givesOnly_ofNumber ht
  · cases v.text? with
    | some text => exact fun r hr => .inl (givesOnly_ofText ht text r hr)
    | none => exact givesOnly_ofOther ht

theorem settles_of_coerceTo {r : Value} (ht : t.isSingle = true) (hnull : v.isNull = false)
    (hv : v.elements? = none) (h : coerceTo [] s t v = .ok r) : Settles s t r := by
  have hconvert : convert [] s t v = .ok r := by
    rw [coerceTo_eq [] hnull hv] at h
    exact mapError_eq_ok_iff.mp h
  rcases givesOnly_convert ht r hconvert with hr | ⟨rfl, htype⟩
  · exact hr
  · exact ⟨htype, h⟩

end Rules

/-- What has been coerced is settled. Without converters, if a value that is neither null
    nor a collection is coerced to a type of single values, or to one that allows null
    besides, then the result is of that type, and coercing it again gives the result
    itself. -/
theorem coerce_settles (s : Schema) {te : TypeExpr} {t : NamedType}
    (hte : te.unwrapOptional.1 = .named t) (ht : t.isSingle = true) {v r : Value}
    (hnull : v.isNull = false) (hv : v.elements? = none) (h : coerce [] s te v = .ok r) :
    s.isInstance r t = true ∧ coerce [] s te r = .ok r := by
  have hcoerce (x : Value) : coerce [] s te x = coerceTo [] s t x := by
    rw [coerce, hte]
  rw [hcoerce] at h
  have hsettles := settles_of_coerceTo ht hnull hv h
  exact ⟨hsettles.isInstance, (hcoerce r).trans hsettles.coerceTo⟩

/-- A text in which blanks and underscores stand between the digits. -/
theorem coerce_settles_decimal : coerce [] ⟨[], [], .first⟩ (.union [.named .decimal, .named .null])
      (.text " 1_5e+3 ") = .ok (.decimal (.finite false 15 3)) ∧
    coerce [] ⟨[], [], .first⟩ (.union [.named .decimal, .named .null])
        (.decimal (.finite false 15 3)) = .ok (.decimal (.finite false 15 3)) := by
  have h : coerce [] ⟨[], [], .first⟩ (.union [.named .decimal, .named .null]) (.text " 1_5e+3 ") =
      .ok (.decimal (.finite false 15 3)) := by rfl
  exact ⟨h, (coerce_settles ⟨[], [], .first⟩ rfl rfl rfl rfl h).2⟩

end Coercer

end Criteria
