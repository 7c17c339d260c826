import Criteria.Proofs.Number.DecimalText

/-!
# Digits of Every Script

Numbers that are written in the digits of any script, or of several.

Such a digit is no blank and no letter, and letter case does nothing to it; this is
looked up once for all scripts (`Text.decimal_spec`, `Text.lowerChar_of_isDecimal`). So
the readers of whole numbers, decimals and doubles do with a run of these digits what they
do with plain ones.

## Main definitions

* `IsDigits`: A run of decimal digits.

## Theorems

* `Text.forall_decimal`: What holds of ten digits of each script holds of all.
* `readInt?_of_isDigits`, `readDecimal?_of_isDigits`, `isSome_readBinary64?_of_isDigits`:
  The readers.
-/

namespace Criteria

open Text Numeral

/-- A run of decimal digits of whatever scripts. -/
def IsDigits (cs : List Char) : Prop :=
  ∀ c ∈ cs, isDecimal c = true

instance (cs : List Char) : Decidable (IsDigits cs) :=
  decidable_of_iff (cs.all isDecimal = true) List.all_eq_true

namespace Text

/-- Without a capital sigma a text is put into lower case character by character. -/
theorem lower_eq_flatMap {s : String} (h : ∀ c ∈ s.toList, c ≠ 'Σ') :
    lower s = String.ofList (s.toList.flatMap lowerChar) := by
  have hnone : s.toList.contains 'Σ' = false := by
    rw [Bool.eq_false_iff]
    intro hmem
    rw [List.contains_iff_mem] at hmem
    exact h 'Σ' hmem rfl
  rw [lower]
  simp only [hnone, Bool.false_eq_true, if_false]

/-- A decimal digit is one of the ten of some script. -/
theorem exists_zero {c : Char} (hc : isDecimal c = true) :
    ∃ z ∈ zeros, z ≤ c.toNat ∧ c.toNat < z + 10 := by
  rw [isDecimal, digitValue?, Option.isSome_map] at hc
  rcases Option.isSome_iff_exists.mp hc with ⟨z, hz⟩
  have hrange := List.find?_some hz
  rw [Bool.and_eq_true, decide_eq_true_eq, decide_eq_true_eq] at hrange
  exact ⟨z, List.mem_of_find?_eq_some hz, hrange⟩

/-- What holds of the ten digits of each script holds of every decimal digit. -/
theorem forall_decimal {P : Char → Prop}
    (h : ∀ z ∈ zeros, ∀ i < 10, P (Char.ofNat (z + i))) {c : Char} (hc : isDecimal c = true) :
    P c := by
  rcases exists_zero hc with ⟨z, hz, hle, hlt⟩
  have hchar : Char.ofNat (z + (c.toNat - z)) = c := by
    rw [Nat.add_sub_cancel' hle, Char.ofNat_toNat]
  rw [← hchar]
  exact h z hz (c.toNat - z) (by omega)

/-- Decimal digits are neither blanks nor letters. -/
theorem decimal_spec {c : Char} (hc : isDecimal c = true) :
    isBlank c = false ∧ c.isAlpha = false :=
  forall_decimal (P := fun c => isBlank c = false ∧ c.isAlpha = false) (by decide +kernel) hc

/-- The case tables pass over the digits. -/
theorem lowerRuns_spec :
    (lowerRuns.any fun r => zeros.any fun z => z ≤ r.last && r.first < z + 10) = false ∧
      (lowerFull.any fun e => zeros.any fun z => z ≤ e.1 && e.1 < z + 10) = false := by
  decide +kernel

/-- Decimal digits have no case. -/
theorem lowerChar_of_isDecimal {c : Char} (hc : isDecimal c = true) : lowerChar c = [c] := by
  rcases exists_zero hc with ⟨z, hz, hle, hlt⟩
  -- A range that covers the character would meet one of the blocks of ten digits.
  have hwithin {first last : Nat} (hfirst : first ≤ c.toNat) (hlast : c.toNat ≤ last) :
      (zeros.any fun z => z ≤ last && first < z + 10) = true := by
    refine List.any_eq_true.mpr ⟨z, hz, ?_⟩
    rw [Bool.and_eq_true, decide_eq_true_eq, decide_eq_true_eq]
    omega
  -- Neither table of capitals has an entry for it.
  have hfull : lowerFull.lookup c.toNat = none := by
    refine List.lookup_eq_none_iff.mpr fun e he => bne_iff_ne.mpr fun heq => ?_
    exact List.any_eq_false.mp lowerRuns_spec.2 e he (hwithin (Nat.le_of_eq heq.symm)
      (Nat.le_of_eq heq))
  have hruns : lowerRuns.find? (fun r => r.covers c.toNat) = none := by
    refine Array.find?_eq_none.mpr fun r hr hcovers => ?_
    rw [CaseRun.covers, Bool.and_eq_true, Bool.and_eq_true, decide_eq_true_eq,
      decide_eq_true_eq] at hcovers
    rcases Array.mem_iff_getElem.mp hr with ⟨i, hi, rfl⟩
    exact Array.any_eq_false.mp lowerRuns_spec.1 i hi (hwithin hcovers.1.1 hcovers.1.2)
  rw [lowerChar]
  split
  · -- The only script whose digits are decided without the tables is the plain one.
    rename_i hplain
    have hzero : ∀ z ∈ zeros, z < 0x80 → z = 0x30 := by decide
    obtain rfl := hzero z hz (by omega)
    have hdigit : c.isDigit = true := by
      rw [Char.isDigit, Bool.and_eq_true, decide_eq_true_eq, decide_eq_true_eq]
      exact ⟨hle, Nat.le_of_lt_succ hlt⟩
    have hlower := lowerChar_of_isDigit hdigit
    rwa [lowerChar, if_pos hplain] at hlower
  · rw [mapCase, hfull, hruns]

theorem ne_of_isDecimal {c d : Char} (hc : isDecimal c = true) (hd : isDecimal d = false) :
    c ≠ d := by
  rintro rfl
  exact Bool.false_ne_true (hd.symm.trans hc)

end Text

namespace IsDigits

variable {c : Char} {cs : List Char}

theorem head (h : IsDigits (c :: cs)) : isDecimal c = true :=
  h c List.mem_cons_self

theorem tail (h : IsDigits (c :: cs)) : IsDigits cs := fun d hd =>
  h d (List.mem_cons_of_mem c hd)

theorem lowerChars_eq (h : IsDigits cs) : lowerChars cs = cs := by
  induction cs with
  | nil => rfl
  | cons c cs ih =>
      have hrest : lowerChars cs = cs := ih h.tail
      rw [lowerChars] at hrest ⊢
      rw [List.flatMap_cons, lowerChar_of_isDecimal h.head, hrest]
      rfl

theorem isClean (h : IsDigits cs) : Decimal.IsClean cs := fun c hc =>
  ⟨(decimal_spec (h c hc)).1, ne_of_isDecimal (h c hc) (by decide)⟩

/-- A text of digits is in lower case. -/
theorem lower_eq (h : IsDigits cs) : lower (String.ofList cs) = String.ofList cs := by
  have hsigma : ∀ c ∈ (String.ofList cs).toList, c ≠ 'Σ' := by
    rw [String.toList_ofList]
    exact fun c hc => ne_of_isDecimal (h c hc) (by decide)
  have hlower : cs.flatMap lowerChar = cs := h.lowerChars_eq
  rw [lower_eq_flatMap hsigma, String.toList_ofList, hlower]

/-- A run of digits is taken as a whole. -/
theorem takeDigits_append {rest : List Char} (h : IsDigits cs)
    (hrest : ∀ c ∈ rest.head?, isDecimal c = false ∧ c ≠ '_') :
    takeDigits (cs ++ rest) = (cs, rest) := by
  induction cs with
  | nil =>
      rcases rest with _ | ⟨c, rest⟩
      · rfl
      · exact takeDigits_of_not rest (hrest c rfl).1
  | cons c cs ih =>
      have hnext : (cs ++ rest).head? ≠ some '_' := by
        rcases cs with _ | ⟨d, cs⟩
        · exact fun hd => (hrest '_' hd).2 rfl
        · exact fun hd => ne_of_isDecimal h.tail.head (by decide) (Option.some.inj hd)
      rw [List.cons_append, takeDigits_cons h.head hnext, ih h.tail]

theorem takeDigits_eq (h : IsDigits cs) : takeDigits cs = (cs, []) := by
  have happend : takeDigits (cs ++ []) = (cs, []) := h.takeDigits_append nofun
  rwa [List.append_nil] at happend

theorem takeSign_eq (h : IsDigits cs) : takeSign cs = (false, cs) := by
  rw [takeSign.eq_def]
  split
  · exact absurd rfl (ne_of_isDecimal h.head (by decide))
  · exact absurd rfl (ne_of_isDecimal h.head (by decide))
  · rfl

end IsDigits

section Readers

variable {cs : List Char} (h : IsDigits cs) (hne : cs ≠ []) (hlength : cs.length ≤ maxDigits)

include h hne

/-- Digits make a number without an exponent. -/
theorem readScientific?_of_isDigits : readScientific? cs = some (digitsValue cs, 0) := by
  have hempty : cs.isEmpty = false := List.isEmpty_eq_false_iff.mpr hne
  rw [readScientific?, takeFixed?, h.takeDigits_eq]
  simp only [hempty, Bool.false_eq_true, if_false]
  rfl

theorem isSome_readBinary64?_of_isDigits : (readBinary64? (String.ofList cs)).isSome = true := by
  rw [readBinary64?, String.toList_ofList, trimChars_eq_self fun c hc => (h.isClean c hc).1,
    h.takeSign_eq]
  dsimp only
  split
  · rfl
  · rfl
  · rfl
  · rw [readScientific?_of_isDigits h hne]
    rfl

include hlength

theorem readInt?_of_isDigits : readInt? (String.ofList cs) = some (digitsValue cs : Int) := by
  rw [readInt?, String.toList_ofList, readIntChars?,
    trimChars_eq_self fun c hc => (h.isClean c hc).1, h.takeSign_eq]
  dsimp only
  rw [h.takeDigits_eq]
  rcases cs with _ | ⟨d, ds⟩
  · exact absurd rfl hne
  · exact if_neg (Nat.not_lt.mpr hlength)

theorem readDecimal?_of_isDigits :
    readDecimal? (String.ofList cs) = some (.finite false (digitsValue cs) 0) := by
  -- A number of at most that many digits is within the bounds of decimals as it stands.
  have hfits : Decimal.fits (digitsValue cs) 0 = true := by
    have hcount : Decimal.digitCount (digitsValue cs) ≤ cs.length :=
      (digitCount_le_iff (List.length_pos_iff.mpr hne)).mpr (digitsValue_lt cs)
    rw [Decimal.fits, Bool.and_eq_true, decide_eq_true_eq, decide_eq_true_eq]
    simp only [maxDigits, maxDecimalPlace, minDecimalPlace] at hlength ⊢
    omega
  have hscientific := readScientific?_of_isDigits h hne
  rw [readDecimal?, String.toList_ofList, h.isClean.filter_trimChars, h.takeSign_eq]
  dsimp only
  rw [h.lowerChars_eq]
  -- A digit begins neither an infinity nor an undefined number.
  rcases cs with _ | ⟨d, ds⟩
  · exact absurd rfl hne
  · rw [if_neg (Decimal.not_infinity (ne_of_isDecimal h.head (by decide))),
      Decimal.readUndefined?_cons false (ne_of_isDecimal h.head (by decide))
        (ne_of_isDecimal h.head (by decide)), hscientific]
    exact if_pos hfits

end Readers

end Criteria
