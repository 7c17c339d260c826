import Criteria.Coercion.Token
import Criteria.Proofs.Number.Numeral
import Criteria.Proofs.Outcome
import Criteria.Proofs.Schema.Trichotomy
import Criteria.Proofs.Value.Equality

/-!
# Tokens of Members

The tokens that a member of an enumeration is found by.

A token is looked up three times: among the names, among the values and their texts, and
as a place. Each time the first member wins that fits, so a member may be captured on the
way by one that stands before it, or by any other that has the name it is asked for.
`EnumType.TellsTokens` is what excludes this: names differ in more than case, and no
value has, without the blanks around it, the name or the value of another member for
its text. Then a token that is a name meets the member in the first round, and a token
that is a value or its text meets the member in the first or in the second one, and
neither meets another member. Places are never asked for.

The blanks around a token are taken off before it is held against texts, but those of
the values stay. A value that is a text with blanks around it is found as a value
only; numbers and truths have no blanks around them, and are found by their texts also
where they do not equal themselves.

## Main definitions

* `EnumMember.Denotes`: The tokens of a member.
* `EnumType.TellsTokens`: No member has a token of another one.

## Theorems

* `EnumValue.trim_display`: The texts of numbers and truths have no blanks around them.
* `EnumType.parse_of_name`, `EnumType.parse_of_value`: What is found by name, and what
  by value.
* `EnumType.TellsTokens.parse_eq`: A member is found by each of its tokens.
-/

namespace Criteria

section Blanks

open Numeral

theorem isBlank_of_isPlain {cs : List Char} (h : IsPlain cs) : ∀ c ∈ cs, Text.isBlank c = false :=
  fun c hc => isBlank_of_isDigit (h c hc)

theorem isBlank_of_all {cs : List Char} (h : (cs.all fun c => !Text.isBlank c) = true) :
    ∀ c ∈ cs, Text.isBlank c = false := by
  simpa using h

namespace Binary64

theorem isBlank_of_mem_positional (n : Nat) (k : Int) :
    ∀ c ∈ (positional n k).toList, Text.isBlank c = false := by
  have hdigits := IsPlain.toDigits n
  rw [positional, String.toList_ofList]
  dsimp only
  split
  · simp only [List.forall_mem_cons, List.forall_mem_append]
    exact ⟨rfl, rfl, isBlank_of_isPlain (.zeros _), isBlank_of_isPlain hdigits⟩
  · split
    · simp only [List.forall_mem_cons, List.forall_mem_append]
      exact ⟨⟨isBlank_of_isPlain hdigits, isBlank_of_isPlain (.zeros _)⟩, rfl, rfl,
        fun c hc => absurd hc List.not_mem_nil⟩
    · simp only [List.forall_mem_cons, List.forall_mem_append]
      exact ⟨isBlank_of_isPlain (hdigits.take _), rfl, isBlank_of_isPlain (hdigits.drop _)⟩

theorem isBlank_of_mem_scientific (n : Nat) (k : Int) :
    ∀ c ∈ (scientific displayStyle n k).toList, Text.isBlank c = false := by
  -- Digits, signs, a point and the letter of the exponent are all that is written.
  have hdigits := isBlank_of_isPlain (IsPlain.toDigits n)
  rw [scientific]
  split
  · exact fun c hc => absurd hc List.not_mem_nil
  · rename_i d ds hds
    rw [hds, List.forall_mem_cons] at hdigits
    have hsign : ∀ c ∈ (if k + ds.length < 0 then "-" else displayStyle.plus).toList,
        Text.isBlank c = false := by
      split
      · exact isBlank_of_all rfl
      · exact isBlank_of_all rfl
    have hexponent : ∀ c ∈ (exponentText displayStyle (k + ds.length)).toList,
        Text.isBlank c = false := by
      rw [exponentText]
      simp only [String.toList_append, String.toList_ofList, List.forall_mem_append]
      exact ⟨⟨isBlank_of_all rfl, hsign⟩, isBlank_of_isPlain (.zeros _),
        isBlank_of_isPlain (.toDigits _)⟩
    simp only [String.toList_append, String.toList_ofList, List.forall_mem_append,
      List.forall_mem_cons]
    refine ⟨⟨hdigits.1, ?_⟩, hexponent⟩
    split
    · exact fun c hc => absurd hc List.not_mem_nil
    · exact List.forall_mem_cons.mpr ⟨rfl, hdigits.2⟩

/-- No character of a written double is a blank. -/
theorem isBlank_of_mem_text (x : Binary64) : ∀ c ∈ x.text.toList, Text.isBlank c = false := by
  have hsign (negative : Bool) : ∀ c ∈ (if negative then "-" else "").toList,
      Text.isBlank c = false := by
    cases negative <;> exact isBlank_of_all rfl
  unfold text write
  -- The two words have no blanks, and a finite float is written in one of two forms.
  split
  · exact isBlank_of_all rfl
  · simp only [String.toList_append, List.forall_mem_append]
    exact ⟨hsign _, isBlank_of_all rfl⟩
  · simp only [String.toList_append, List.forall_mem_append]
    refine ⟨hsign _, ?_⟩
    split
    · exact isBlank_of_all rfl
    · split
      · exact isBlank_of_mem_positional _ _
      · exact isBlank_of_mem_scientific _ _

end Binary64

theorem isBlank_of_mem_toString (n : Int) : ∀ c ∈ (toString n).toList, Text.isBlank c = false := by
  rcases Json.exists_numeral_toString n with ⟨t, ht, hchars, -⟩
  rw [← hchars]
  exact isBlank_of_mem_chars ht

/-- The texts of numbers and truths have no blanks around them. -/
theorem EnumValue.trim_display {v : EnumValue} (h : v.toValue.text? = none) :
    Text.trim v.toValue.display = v.toValue.display := by
  cases v with
  | text s => cases h
  | int n => exact trim_eq_self (isBlank_of_mem_toString n)
  | float x => exact trim_eq_self x.isBlank_of_mem_text
  | bool b => cases b <;> decide +kernel

end Blanks

/-- A token stands for the member: it is the member itself, its name in any case and with
    blanks around it, its value, or the text of its value. -/
inductive EnumMember.Denotes (m : EnumMember) : Value → Prop
  | self : Denotes m (.member m)
  | name {text : String} (h : Text.lower (Text.trim text) = Text.lower m.name) :
      Denotes m (.text text)
  | value : Denotes m m.value.toValue
  | text : Denotes m (.text m.value.toValue.display)

namespace EnumType

/-- The members are told by their tokens: their names differ in more than case, and the
    text of a value, without the blanks around it and in any case, is neither the name
    nor the text of the value of another member. -/
structure TellsTokens (e : EnumType) : Prop extends e.IsDistinct where
  name_inj : ∀ m ∈ e.members, ∀ n ∈ e.members, Text.lower m.name = Text.lower n.name → m = n
  text_ne_name : ∀ m ∈ e.members, ∀ n ∈ e.members,
    Text.lower (Text.trim m.value.toValue.display) = Text.lower n.name → m = n
  text_inj : ∀ m ∈ e.members, ∀ n ∈ e.members,
    Text.lower (Text.trim m.value.toValue.display) = Text.lower n.value.toValue.display → m = n

variable {e : EnumType} {m n : EnumMember} {token : Value} {text : String}

/-- If the test holds of one member only, this is the first for which it holds. -/
theorem firstMember_eq {test : EnumMember → Except Failure Bool} {ms : List EnumMember}
    (hm : m ∈ ms) (htest : ∀ n ∈ ms, test n = .ok (n == m)) :
    firstMember test ms = .ok (some m) := by
  induction ms with
  | nil => exact absurd hm List.not_mem_nil
  | cons n ms ih =>
      rw [List.forall_mem_cons] at htest
      rw [firstMember, htest.1]
      by_cases hn : n = m
      · rw [hn, beq_self_eq_true]
        rfl
      · have hrest : m ∈ ms := (List.mem_cons.mp hm).resolve_left fun h => hn h.symm
        rw [beq_eq_false_iff_ne.mpr hn]
        exact ih hrest htest.2

/-- A name finds the one member that has it. -/
theorem find?_isNamed (hm : m ∈ e.members) (hname : Text.lower m.name = Text.lower text)
    (hinj : ∀ n ∈ e.members, Text.lower n.name = Text.lower text → n = m) :
    e.members.find? (isNamed text) = some m := by
  cases hfind : e.members.find? (isNamed text) with
  | none => exact absurd (beq_iff_eq.mpr hname) (List.find?_eq_none.mp hfind m hm)
  | some n =>
      have hnamed : isNamed text n = true := List.find?_some hfind
      rw [hinj n (List.mem_of_find?_eq_some hfind) (beq_iff_eq.mp hnamed)]

/-- A token that is the name of one member. -/
theorem parse_of_name (hm : m ∈ e.members)
    (hname : Text.lower m.name = Text.lower (Text.trim text))
    (hinj : ∀ n ∈ e.members, Text.lower n.name = Text.lower (Text.trim text) → n = m) :
    e.parse (.text text) = .ok m := by
  unfold parse
  dsimp only [Value.display]
  rw [find?_isNamed hm hname hinj]
  rfl

/-- A token that is the value of one member or its text, and the name of no other one. -/
theorem parse_of_value (hm : m ∈ e.members) (htoken : ∀ n, token ≠ .member n)
    (hname : ∀ n ∈ e.members, Text.lower n.name = Text.lower (Text.trim token.display) → n = m)
    (htest : ∀ n ∈ e.members, standsFor token (Text.trim token.display) n = .ok (n == m)) :
    e.parse token = .ok m := by
  unfold parse
  split
  · rename_i n
    exact absurd rfl (htoken n)
  · dsimp only
    -- A member with that name is the one with that value, so either search ends in the same member.
    cases hfind : e.members.find? (isNamed (Text.trim token.display)) with
    | some n =>
        have hnamed : isNamed (Text.trim token.display) n = true := List.find?_some hfind
        rw [hname n (List.mem_of_find?_eq_some hfind) (beq_iff_eq.mp hnamed)]
        rfl
    | none =>
        rw [firstMember_eq hm htest]
        rfl

/-- A text equals only a text. -/
theorem text_of_equal_text {v : EnumValue} (h : Value.equal v.toValue (.text text) = true) :
    v = .text text := by
  cases v with
  | text s =>
      have hsame : s = text := beq_iff_eq.mp h
      rw [hsame]
  | int | float | bool => cases h

namespace TellsTokens

variable (he : e.TellsTokens) (hm : m ∈ e.members)

include he hm

/-- The value of a member and its text stand for no other member. -/
theorem eq_of_standsFor (hn : n ∈ e.members)
    (htoken : token = m.value.toValue ∨ token = .text m.value.toValue.display)
    (h : Value.equal n.value.toValue token = true ∨
      Text.lower n.value.toValue.display = Text.lower (Text.trim m.value.toValue.display)) :
    n = m := by
  rcases h with hequal | htext
  -- The token is the value itself or its text.
  · rcases htoken with rfl | rfl
    · exact he.eq_of_value hn hm hequal
    · have hvalue := text_of_equal_text hequal
      cases hmvalue : m.value.toValue.text? with
      | some s =>
          -- Both values are the same text.
          refine he.eq_of_value hn hm ?_
          rw [hvalue]
          cases hv : m.value with
          | text w => exact beq_self_eq_true w
          | int | float | bool => rw [hv] at hmvalue; cases hmvalue
      | none =>
          refine (he.text_inj m hm n hn ?_).symm
          rw [EnumValue.trim_display hmvalue, hvalue]
          rfl
  · exact (he.text_inj m hm n hn htext.symm).symm

omit he hm in
/-- The value of a member and its text stand for the member. -/
theorem standsFor_self (htoken : token = m.value.toValue ∨ token = .text m.value.toValue.display) :
    Value.equal m.value.toValue token = true ∨
      Text.lower m.value.toValue.display = Text.lower (Text.trim m.value.toValue.display) := by
  cases hvalue : m.value.toValue.text? with
  | none => exact .inr (by rw [EnumValue.trim_display hvalue])
  | some s =>
      -- A text has its blanks in both forms of the token.
      refine .inl ?_
      cases hv : m.value with
      | text w =>
          rw [hv] at htoken
          rcases htoken with rfl | rfl <;> exact beq_self_eq_true w
      | int | float | bool => rw [hv] at hvalue; cases hvalue

/-- The value of a member and its text are tokens of the member. -/
theorem parse_value (htoken : token = m.value.toValue ∨ token = .text m.value.toValue.display) :
    e.parse token = .ok m := by
  have hdisplay : token.display = m.value.toValue.display := by
    rcases htoken with rfl | rfl <;> rfl
  -- A value is no member of an enumeration and does not signal.
  have hplain : (∀ n, token ≠ .member n) ∧ token.signals = false := by
    rcases htoken with rfl | rfl
    · cases m.value <;> exact ⟨nofun, rfl⟩
    · exact ⟨nofun, rfl⟩
  refine parse_of_value hm hplain.1 (fun n hn hname => ?_) fun n hn => ?_
  · rw [hdisplay] at hname
    exact (he.text_ne_name m hm n hn hname.symm).symm
  -- A member stands for the token if its value or the text of it does.
  · rw [standsFor, n.value.equal?_toValue hplain.2, hdisplay]
    refine congrArg Except.ok (Bool.eq_iff_iff.mpr ?_)
    rw [Bool.or_eq_true, beq_iff_eq, beq_iff_eq]
    constructor
    · exact he.eq_of_standsFor hm hn htoken
    · rintro rfl
      exact standsFor_self htoken

/-- A member is found by each of its tokens. -/
theorem parse_eq (h : m.Denotes token) : e.parse token = .ok m := by
  cases h with
  | self =>
      unfold parse
      exact if_pos (beq_iff_eq.mpr (type_of_mem_members hm))
  | name hname =>
      refine parse_of_name hm hname.symm fun n hn hsame => ?_
      exact he.name_inj n hn m hm (hsame.trans hname)
  | value => exact he.parse_value hm (.inl rfl)
  | text => exact he.parse_value hm (.inr rfl)

end TellsTokens

end EnumType

end Criteria
