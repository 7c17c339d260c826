import Criteria.Proofs.Coercion.Reported
import Criteria.Proofs.Coercion.Settled
import Criteria.Proofs.Number.Rational
import Criteria.Proofs.Text.Trimming

/-!
# Coercion to Whole Numbers

Which whole number a number or a text is coerced to, compared with the number that it
stands for.

Every representation takes a way of its own. Truths and whole numbers are taken as they
are. Floats are asked first whether they are whole. Texts are read as whole numbers, and
failing that as decimals, which are asked as well. Only decimals are not asked: their
fraction is cut off. So the coercion keeps the number, or reports that there is no whole
number to keep, except on decimals with a fraction (`Coercer.coerce_int_cases`).

## Main definitions

* `readNumber?`: The number that a text stands for.
* `Value.rational?`: The rational number that a value stands for.

## Theorems

* `Schema.wholeOfText_eq_ok_iff`, `Schema.wholeOfNumber_eq_ok_iff`,
  `Schema.wholeOfNumber_decimal`: The rules for texts, for numbers and for decimals.
* `Coercer.coerce_int_cases`: Coercing to a whole number.
-/

namespace Criteria

/-- The number that a text stands for: a whole number, or else a decimal. -/
def readNumber? (text : String) : Option Decimal :=
  ((readInt? text).map Decimal.ofInt).or (readDecimal? text)

/-- The rational number that a value stands for, as a number or as a text. -/
def Value.rational? (v : Value) : Option ℚ :=
  (v.number?.or (v.text?.bind readNumber?)).bind Decimal.rational?

namespace Text

theorem readInt?_trim (text : String) : readInt? (trim text) = readInt? text := by
  rw [readInt?, readInt?, readIntChars?, readIntChars?, trim, String.toList_ofList,
    trimChars_trimChars]

theorem readDecimal?_trim (text : String) : readDecimal? (trim text) = readDecimal? text := by
  rw [readDecimal?, readDecimal?, trim, String.toList_ofList, trimChars_trimChars]

theorem readNumber?_trim (text : String) : readNumber? (trim text) = readNumber? text := by
  rw [readNumber?, readNumber?, readInt?_trim, readDecimal?_trim]

end Text

namespace Schema

variable {v : Value} {n : Int}

/-- What is cut off a decimal leaves a whole number if the decimal is finite. -/
theorem expected_truncate?_eq_ok_iff {r : Refusal} {d : Decimal} :
    expected r d.truncate? = .ok n ↔ d.rational?.map towardZero = some n := by
  rw [expected_eq_ok_iff]
  cases hq : d.rational? with
  | none => rw [Decimal.truncate?_eq_none hq, Option.map_none]
  | some q => rw [Decimal.truncate?_eq hq, Option.map_some]

/-- A text that stands for a whole number is read as this number, and no other text is
    read. -/
theorem wholeOfText_eq_ok_iff {text : String} :
    wholeOfText text = .ok n ↔ (readNumber? text).bind Decimal.rational? = some (n : ℚ) := by
  rw [wholeOfText, readNumber?]
  -- A whole number is tried first, and only then a decimal.
  cases hint : readInt? text with
  | some m =>
      rw [Option.map_some, Option.some_or, Option.bind_some, Decimal.rational?_ofInt]
      simp only [Except.ok.injEq, Option.some.injEq, Int.cast_inj]
  | none =>
      rw [Option.map_none, Option.none_or]
      cases hdec : readDecimal? text with
      | none => exact iff_of_false (by rintro ⟨⟩) (by rintro ⟨⟩)
      | some d =>
          -- The checks on a decimal as one condition.
          have hchecks (signaling whole : Bool) {r : Refusal} (x : Except Refusal Int) :
              (if signaling then refuse .undefinedResult else if !whole then .error r else x) =
                .ok n ↔ signaling = false ∧ whole = true ∧ x = .ok n := by
            cases signaling <;> cases whole <;> simp [refuse]
          dsimp only
          rw [hchecks, expected_eq_ok_iff, Decimal.isWhole_and_truncate?_iff, Option.bind_some]
          exact and_iff_right_of_imp Decimal.isSignaling_eq_false

/-- A number other than a decimal is taken exactly if it is whole. -/
theorem wholeOfNumber_eq_ok_iff (hv : ∀ d, v ≠ .decimal d) :
    wholeOfNumber v = .ok n ↔ v.number?.bind Decimal.rational? = some (n : ℚ) := by
  -- Truths, whole numbers and their members are all read through this.
  have hint (m : Int) : expected (.failed .overflow) (Decimal.ofInt m).truncate? = .ok n ↔
      (some (Decimal.ofInt m)).bind Decimal.rational? = some (n : ℚ) := by
    rw [expected_eq_ok_iff, Decimal.truncate?_ofInt, Option.bind_some, Decimal.rational?_ofInt,
      Option.some.injEq, Option.some.injEq, Int.cast_inj]
  -- By the kind of number: a float checks that it is whole, the others are.
  cases v with
  | float x =>
      rw [wholeOfNumber, Value.number?, Option.bind_some, ← Binary64.isWhole_and_truncate?_iff]
      cases x.isWhole with
      | true => exact expected_eq_ok_iff.trans (and_iff_right rfl).symm
      | false => exact iff_of_false (by rintro ⟨⟩) fun h => Bool.false_ne_true h.1
  | decimal d => exact absurd rfl (hv d)
  | bool b => exact hint b.toInt
  | int m => exact hint m
  | member m =>
      rcases m with ⟨type, kind, name, place, value⟩
      cases kind <;> cases value <;> first
        | exact hint _
        | exact iff_of_false (by rintro ⟨⟩) (by rintro ⟨⟩)
  | _ => exact iff_of_false (by rintro ⟨⟩) (by rintro ⟨⟩)

/-- A decimal is taken without its fraction. -/
theorem wholeOfNumber_decimal (d : Decimal) :
    wholeOfNumber (.decimal d) = .ok n ↔ d.rational?.map towardZero = some n := by
  cases d with
  | finite negative m e =>
      show expected (.failed .overflow) (Decimal.finite negative m e).truncate? = _ ↔ _
      exact expected_truncate?_eq_ok_iff
  | infinite | undefined => exact iff_of_false (by rintro ⟨⟩) (by rintro ⟨⟩)

end Schema

namespace Coercer

variable {c : Coercer} {s : Schema} {te : TypeExpr} {v : Value}

/-- A refusal that is reported is reported with its words. -/
theorem reported_refused {r : Refusal} (h : r.IsReported) (v : Value) (target : String) :
    reported v target (.refused r) = .filter (.coercion v.literal target (some r.reason)) := by
  have hr : r.cause.isReported = true := h
  rw [reported]
  cases hcause : r.cause <;> rw [hcause] at hr <;> first | rfl | cases hr

/-- Numbers and texts are coerced to whole numbers by rules that report what they refuse;
    only a decimal may become another number than it is. -/
theorem exists_rule_coerce_int (hte : te.unwrapOptional.1 = .named .int)
    (hfind : c.find? s .int = none) (hv : v.number?.isSome ∨ v.text?.isSome) :
    ∃ x : Except Refusal Int,
      c.coerce s te v = (passing (x.map .int)).mapError (reported v "int") ∧
      FailsOnly Refusal.IsReported x ∧
      ∀ n, x = .ok n ↔ v.rational? = some (n : ℚ) ∨
        ∃ d, v = .decimal d ∧ d.rational?.map towardZero = some n := by
  -- A number or a text is neither null nor a collection.
  have hsingle : v.isNull = false ∧ v.elements? = none := by
    cases v <;> first | exact ⟨rfl, rfl⟩ | rcases hv with ⟨⟨⟩⟩ | ⟨⟨⟩⟩
  have hcoerce : c.coerce s te v = (c.convert s .int v).mapError (reported v "int") := by
    rw [coerce, hte]
    exact coerceTo_eq c hsingle.1 hsingle.2
  rw [hcoerce, convert, hfind]
  dsimp only
  -- The rule depends on whether the value is a number or a text.
  cases hnumber : v.number? with
  | some d =>
      have hnum : isNumber v = true := by rw [isNumber, hnumber]; rfl
      refine ⟨Schema.wholeOfNumber v, by rw [if_pos hnum]; rfl,
        Schema.failsOnly_wholeOfNumber v, fun n => ?_⟩
      have hrational : v.rational? = v.number?.bind Decimal.rational? := by
        rw [Value.rational?, hnumber, Option.some_or]
      rw [hrational]
      -- Decimals are truncated, every other number is taken only if it is whole.
      by_cases hdec : ∃ d, v = .decimal d
      · rcases hdec with ⟨d, rfl⟩
        rw [Schema.wholeOfNumber_decimal]
        refine ⟨fun h => .inr ⟨d, rfl, h⟩, ?_⟩
        rintro (h | ⟨e, he, h⟩)
        · rw [Value.number?, Option.bind_some] at h
          rw [h, Option.map_some, towardZero_intCast]
        · rw [Value.decimal.inj he]
          exact h
      · rw [Schema.wholeOfNumber_eq_ok_iff fun d hd => hdec ⟨d, hd⟩]
        refine ⟨.inl, ?_⟩
        rintro (h | ⟨d, hd, -⟩)
        · exact h
        · exact absurd ⟨d, hd⟩ hdec
  | none =>
      have hnum : ¬isNumber v = true := by rw [isNumber, hnumber]; exact Bool.false_ne_true
      rw [if_neg hnum]
      cases htext : v.text? with
      | none => rw [hnumber, htext] at hv; exact absurd hv (by decide)
      | some text =>
          refine ⟨Schema.wholeOfText (Text.trim text), rfl, Schema.failsOnly_wholeOfText _,
            fun n => ?_⟩
          have hrational : v.rational? = (readNumber? text).bind Decimal.rational? := by
            rw [Value.rational?, hnumber, htext, Option.none_or, Option.bind_some]
          rw [hrational, Schema.wholeOfText_eq_ok_iff, Text.readNumber?_trim]
          refine ⟨.inl, ?_⟩
          rintro (h | ⟨d, rfl, -⟩)
          · exact h
          · cases hnumber

/-- A number or a text is coerced to the whole number that it is equal to, if there is
    one. Otherwise, a decimal with a fraction is coerced to its whole part, and everything
    else is reported as a value that cannot be converted. -/
theorem coerce_int_cases (hte : te.unwrapOptional.1 = .named .int)
    (hfind : c.find? s .int = none) (hv : v.number?.isSome ∨ v.text?.isSome) :
    (∃ n : Int, v.rational? = some (n : ℚ) ∧ c.coerce s te v = .ok (.int n)) ∨
    (∃ d q, v = .decimal d ∧ d.rational? = some q ∧ (∀ n : Int, q ≠ n) ∧
      c.coerce s te v = .ok (.int (towardZero q))) ∨
    ((∀ n : Int, v.rational? ≠ some (n : ℚ)) ∧ (∀ d, v = .decimal d → d.rational? = none) ∧
      ∃ reason, c.coerce s te v = .error (.filter (.coercion v.literal "int" (some reason)))) := by
  rcases exists_rule_coerce_int hte hfind hv with ⟨x, hcoerce, hfails, hx⟩
  rw [hcoerce]
  cases x with
  | ok n =>
      have hok : (passing (Except.map Value.int (.ok n))).mapError (reported v "int") =
          .ok (.int n) := rfl
      rcases (hx n).mp rfl with h | ⟨d, rfl, hd⟩
      · exact .inl ⟨n, h, hok⟩
      · rcases Option.map_eq_some_iff.mp hd with ⟨q, hq, rfl⟩
        -- A decimal that was truncated is whole after all, or it lost a fraction.
        by_cases hwhole : ∃ m : Int, q = m
        · rcases hwhole with ⟨m, rfl⟩
          exact .inl ⟨m, hq, by rw [hok, towardZero_intCast]⟩
        · exact .inr (.inl ⟨d, q, rfl, hq, not_exists.mp hwhole, hok⟩)
  | error r =>
      have hno (n : Int) := not_or.mp fun h => absurd ((hx n).mpr h) (by rintro ⟨⟩)
      refine .inr (.inr ⟨fun n => (hno n).1, fun d hd => ?_, r.reason, ?_⟩)
      -- A decimal with a number would have been truncated and taken.
      · refine Option.eq_none_iff_forall_ne_some.mpr fun q hq => (hno (towardZero q)).2 ⟨d, hd, ?_⟩
        rw [hq, Option.map_some]
      · exact congrArg Except.error (reported_refused (hfails r rfl) v "int")

/-- A text with a fraction is refused. -/
theorem coerce_int_cases_fraction : ∃ reason,
    coerce [] ⟨[], [], .first⟩ (.union [.named .int, .named .null]) (.text " 2.50") =
      .error (.filter (.coercion "' 2.50'" "int" (some reason))) := by
  have hrational : (Value.text " 2.50").rational? = some (5 / 2) := by
    have hread : readNumber? " 2.50" = some (.finite false 250 (-2)) := by decide +kernel
    show (readNumber? " 2.50").bind Decimal.rational? = some (5 / 2)
    rw [hread, Option.bind_some, Decimal.rational?, withSign]
    norm_num
  -- Two and a half is no whole number, which leaves the third case.
  have hnot (n : Int) : (5 / 2 : ℚ) ≠ n := by
    intro h
    have htwice : (5 : ℚ) = ((2 * n : Int) : ℚ) := by push_cast; linarith
    have : (5 : Int) = 2 * n := by exact_mod_cast htwice
    omega
  have htype : (TypeExpr.union [.named .int, .named .null]).unwrapOptional.1 = .named .int := rfl
  rcases coerce_int_cases (v := .text " 2.50") htype (find?_nil ⟨[], [], .first⟩ _) (.inr rfl) with
    ⟨n, h, -⟩ | ⟨d, q, h, -⟩ | ⟨-, -, h⟩
  · rw [hrational] at h
    exact absurd (Option.some.inj h) (hnot n)
  · cases h
  · exact h

/-- A decimal loses its fraction without a word. -/
theorem not_coerce_int_of_fraction : ¬∀ (v : Value) (n : Int),
    coerce [] ⟨[], [], .first⟩ (.named .int) v = .ok (.int n) → v.rational? = some (n : ℚ) := by
  intro h
  have hone := h (.decimal (.finite false 15 (-1))) 1 rfl
  have hvalue : (Value.decimal (.finite false 15 (-1))).rational? = some (3 / 2) := by
    show some ((withSign false 15 : ℚ) * 10 ^ (-1 : Int)) = some (3 / 2)
    rw [withSign]
    norm_num
  rw [hvalue, Option.some.injEq] at hone
  norm_num at hone

end Coercer

end Criteria
