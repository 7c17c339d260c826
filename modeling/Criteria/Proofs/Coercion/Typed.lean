import Criteria.Coercion.Basic
import Criteria.Proofs.Schema.Scales

/-!
# Coerced Values

What is coerced to a plain type is of that type.

The operands of criteria come from payloads, so they are null, truths, numbers and
texts. Coercing them leads through rules of its own for every pair of kinds, and
through a converter where one is registered. Each of them is a row of steps that may
fail, and only the last one builds the value. So what is asked of each rule is which
results it can give (`GivesOnly`), whatever the steps before.

Converters are arbitrary. They are sound if what they make is of the type they are
registered for; without any converters that is so anyway.

## Main definitions

* `Value.isScalar`: Null, a truth, a number or a text.
* `NamedType.isPlain`: The type of single values that can be compared.
* `Coercer.IsSound`: Converters make values of their types.

## Theorems

* `Schema.givesOnly_parseMember`: A token stands for a genuine member.
* `Schema.givesOnly_ofNumber`, `Schema.givesOnly_ofText`: The rules for numbers and
  for texts.
* `Coercer.givesOnly_coerceTo`: Coercing to a plain type.
-/

namespace Criteria

/-- Null, a truth, a number or a text, as payloads have them. -/
def Value.isScalar : Value → Bool
  | null | bool _ | int _ | float _ | text _ => true
  | _ => false

/-- Values of the type are single values that can be compared with each other: truths,
    whole and floating numbers, texts, dates, moments, lengths of time, identifiers and
    members of enumerations. -/
def NamedType.isPlain : NamedType → Bool
  | bool | int | float | text | date | moment | duration | uuid | enum _ => true
  | _ => false

/-- What converters make of values is of the type that they are registered for, or
    null. -/
def Coercer.IsSound (c : Coercer) (s : Schema) : Prop :=
  ∀ t f, c.find? s t = some f → ∀ v, GivesOnly (fun x => x.isNull = true ∨ s.HasType x t) (f v)

namespace EnumType

theorem mem_of_firstMember {test : EnumMember → Except Failure Bool} {ms : List EnumMember} :
    GivesOnly (∀ m ∈ ·, m ∈ ms) (firstMember test ms) := by
  induction ms with
  | nil => exact givesOnly_ok fun m hm => absurd hm (Option.not_mem_none m)
  | cons m ms ih =>
      rw [firstMember]
      refine GivesOnly.after fun b => ?_
      cases b with
      | true => exact givesOnly_ok fun x hx => Option.mem_some_iff.mp hx ▸ List.mem_cons_self
      | false => exact fun o ho x hx => List.mem_cons_of_mem m (ih o ho x hx)

/-- A token stands for one of the members, unless it is a member of a type of the same
    name, which stands for itself. -/
theorem givesOnly_parse (e : EnumType) (token : Value) :
    GivesOnly (fun m => m ∈ e.members ∨ (token = .member m ∧ m.type = e.name)) (e.parse token) := by
  -- A place may be outside of the row, and then there is no member.
  have hplace (place : Int) (unknown : Refusal) :
      GivesOnly (· ∈ e.members) (expected unknown (e.atPlace? place)) := by
    unfold atPlace?
    split
    · cases hm : e.members[place.toNat]? with
      | none => exact givesOnly_error _
      | some m => exact givesOnly_ok (List.mem_of_getElem? hm)
    · exact givesOnly_error _
  have htext {x : Except Refusal EnumMember} (hx : GivesOnly (· ∈ e.members) x) :
      GivesOnly (fun m => m ∈ e.members ∨ (token = .member m ∧ m.type = e.name)) x :=
    fun m hm => .inl (hx m hm)
  unfold parse
  extract_lets text unknown fromText
  -- A token is a name, then what a member stands for, then a place in the row of members.
  have hfrom : GivesOnly (· ∈ e.members) fromText := by
    dsimp only [fromText]
    split
    · rename_i m hm
      exact givesOnly_ok (List.mem_of_find?_eq_some hm)
    · refine mem_of_firstMember.unworded.bind fun o ho => ?_
      cases o with
      | some m => exact givesOnly_ok (ho m rfl)
      | none =>
          dsimp only
          split
          · exact GivesOnly.after fun place => hplace place _
          · exact givesOnly_error _
  -- A token that is a member of the enumeration is taken as it is.
  split
  · rename_i m
    split
    · rename_i htype
      exact givesOnly_ok (.inr ⟨rfl, beq_iff_eq.mp htype⟩)
    · exact htext hfrom
  · exact htext hfrom

end EnumType

namespace Schema

variable {s : Schema} {t : NamedType} {v : Value}

/-- A value is of its own type. -/
theorem hasType_ofValue (h : s.IsGenuine v) : s.HasType v (.ofValue v) :=
  ⟨s.isInstance_ofValue v, h⟩

/-- An enumeration has the name it is known by. -/
theorem name_of_enum? {name : String} {e : EnumType} (h : s.enum? name = some e) :
    e.name = name := by
  have hfound := List.find?_some h
  exact beq_iff_eq.mp hfound

/-- A token stands for a genuine member. -/
theorem givesOnly_parseMember (name : String) (hv : v.isScalar = true) :
    GivesOnly (s.HasType · (.enum name)) (s.parseMember name v) := by
  rw [parseMember]
  cases henum : s.enum? name with
  | none => exact givesOnly_error _
  | some e =>
      refine (e.givesOnly_parse v).map fun m hm => ?_
      rcases hm with hm | ⟨rfl, -⟩
      · have htype : m.type = name := by
          rw [EnumType.type_of_mem_members hm, name_of_enum? henum]
        rw [← htype] at henum ⊢
        exact hasType_ofValue ⟨e, henum, hm⟩
      · cases hv

/-- What is of no other type fails where there is no rule that makes an identifier of
    it. -/
theorem givesOnly_ofOther_uuid (hv : s.IsGenuine v) :
    GivesOnly (s.HasType · .uuid) (s.ofOther .uuid v) := by
  rw [ofOther]
  split
  · rename_i h
    exact givesOnly_ok ⟨h, hv⟩
  · exact givesOnly_error _

/-- A truth is made of zero or one. -/
theorem givesOnly_boolOfNumber {P : Value → Prop} (hP : ∀ b, P (.bool b)) (v : Value) :
    GivesOnly P (boolOfNumber v) := by
  unfold boolOfNumber
  refine GivesOnly.after fun isZero => GivesOnly.after fun isOne => ?_
  split
  · exact givesOnly_ok (hP false)
  · split
    · exact givesOnly_ok (hP true)
    · exact givesOnly_error _

/-- A step that builds a value of the type gives nothing else. -/
theorem givesOnly_build {ε α : Type} (f : α → Value) (hf : ∀ a, s.HasType (f a) t)
    (x : Except ε α) : GivesOnly (s.HasType · t) (x.map f) :=
  (givesOnly_true x).map fun a _ => hf a

/-- The rules for numbers and truths. -/
theorem givesOnly_ofNumber (ht : t.isPlain = true) (hv : v.isScalar = true) :
    GivesOnly (s.HasType · t) (s.ofNumber t v) := by
  have hgenuine : s.IsGenuine v := by
    cases v with
    | member => cases hv
    | _ => trivial
  -- Each plain type is built by a constructor of its own values.
  cases t <;> simp only [ofNumber]
  case enum name => exact (givesOnly_parseMember name hv).passing
  case bool =>
    have hbool (b : Bool) : s.HasType (.bool b) .bool := hasType_ofValue trivial
    exact (givesOnly_boolOfNumber hbool v).passing
  case int => exact (givesOnly_build .int (fun n => hasType_ofValue trivial) _).passing
  case float => exact (givesOnly_build .float (fun x => hasType_ofValue trivial) _).unworded.passing
  case text => split <;> exact givesOnly_ok (hasType_ofValue trivial)
  case moment => exact (givesOnly_build .moment (fun m => hasType_ofValue trivial) _).passing
  case date =>
    exact (givesOnly_build (fun m : Moment => .date m.date) (fun m => hasType_ofValue trivial)
      _).passing
  case duration =>
    refine GivesOnly.passing (GivesOnly.unworded ?_)
    refine GivesOnly.after fun x => GivesOnly.after fun d => ?_
    exact givesOnly_ok (hasType_ofValue trivial)
  case uuid => exact givesOnly_ofOther_uuid hgenuine
  all_goals cases ht

/-- The rules for texts. -/
theorem givesOnly_ofText (ht : t.isPlain = true) (hv : v.isScalar = true) (text : String) :
    GivesOnly (s.HasType · t) (s.ofText t v text) := by
  have hbuild {α : Type} (f : α → Value) (hf : ∀ a, s.HasType (f a) t) (x : Except Refusal α) :
      GivesOnly (s.HasType · t) (passing (x.map f)) := (givesOnly_build f hf x).passing
  cases t <;> simp only [ofText]
  case enum name => exact (givesOnly_parseMember name hv).passing
  case text => exact givesOnly_ok (hasType_ofValue trivial)
  case bool => exact hbuild .bool (fun b => hasType_ofValue trivial) _
  case int => exact hbuild .int (fun n => hasType_ofValue trivial) _
  case float =>
    exact (givesOnly_build .float (fun x => hasType_ofValue trivial) _).unworded.passing
  case moment => exact hbuild .moment (fun m => hasType_ofValue trivial) _
  case date => exact hbuild .date (fun d => hasType_ofValue trivial) _
  case duration => exact hbuild .duration (fun d => hasType_ofValue trivial) _
  case uuid => exact hbuild .uuid (fun u => hasType_ofValue trivial) _
  all_goals cases ht

end Schema

namespace Coercer

variable {c : Coercer} {s : Schema} {t : NamedType} {v : Value}

theorem find?_nil (s : Schema) (t : NamedType) : find? [] s t = none :=
  List.findSome?_eq_none_iff.mpr fun _ _ => rfl

/-- Without converters there is none that could make anything else. -/
theorem isSound_nil (s : Schema) : IsSound [] s := by
  intro t f hfind
  rw [find?_nil] at hfind
  cases hfind

/-- What is coerced to a plain type is null or of that type. -/
theorem givesOnly_coerceTo (hc : c.IsSound s) (ht : t.isPlain = true) (hv : v.isScalar = true) :
    GivesOnly (fun x => x.isNull = true ∨ s.HasType x t) (c.coerceTo s t v) := by
  -- Null is kept by the coercion, and anything else goes through the conversion.
  have hconvert (hnull : v.isNull = false) :
      GivesOnly (fun x => x.isNull = true ∨ s.HasType x t) (c.convert s t v) := by
    unfold convert
    split
    · rename_i f hf
      exact hc t f hf v
    · split
      · exact fun x hx => .inr (Schema.givesOnly_ofNumber ht hv x hx)
      · rename_i hnumber
        split
        · exact fun x hx => .inr (Schema.givesOnly_ofText ht hv _ x hx)
        · rename_i htext
          cases v with
          | null => cases hnull
          | bool | int | float => exact absurd rfl hnumber
          | text => cases htext
          | _ => cases hv
  cases v with
  | null => exact givesOnly_ok (.inl rfl)
  | bool | int | float | text => exact (hconvert rfl).mapError _
  | _ => cases hv

end Coercer

end Criteria
