import Criteria.Number.Decimal
import Criteria.Number.Reading
import Criteria.Value.Lenient
import Criteria.Wire.Reader
import Mathlib.Algebra.Group.Nat.Defs

/-!
# Plain Digits

Numbers are written with the ten digits of the plain alphabet, and read with the
digits of every script. Here the two meet: on a run of plain digits every reader
of the library takes the whole run, and its value is the number that the run was
written for.

`forall_digit` reduces a fact about a plain digit to the ten of them, so that it
can be decided.

## Main definitions

* `IsPlain`: A run of plain digits.

## Theorems

* `digitsValue_toDigits`: The value of the digits of a number.
* `digitsValue_append_zeros`, `digitsValue_zeros_append`: Zeros at either end.
* `digitsValue_lt`: The number of characters bounds the value.
* `lt_pow_digitCount`, `pow_digitCount_le`: A number lies between two powers of
  ten.
* `takeDigits_append`, `Json.takeDigits_append`: Readers take a whole run.
* `natAbs_lt_of_readIntChars?`, `Lenient.natAbs_lt_of_intOfText?`: Whole numbers
  that are read are not too long to be read again.
-/

namespace Criteria

open Text

/-- A run of plain digits. -/
def IsPlain (cs : List Char) : Prop :=
  ∀ c ∈ cs, c.isDigit = true

/-- What holds of the ten plain digits holds of every one. -/
theorem forall_digit {P : Char → Prop} (h : ∀ d < 10, P (Nat.digitChar d)) {c : Char}
    (hc : c.isDigit = true) : P c := by
  have hbound : 48 ≤ c.toNat ∧ c.toNat ≤ 57 := by
    rw [Char.isDigit, Bool.and_eq_true, decide_eq_true_eq, decide_eq_true_eq] at hc
    exact hc
  have hchar : c = Nat.digitChar (c.toNat - 48) := by
    have hten : ∀ d < 10, Char.ofNat (d + 48) = Nat.digitChar d := by decide
    rw [← hten _ (by omega), Nat.sub_add_cancel hbound.1, Char.ofNat_toNat]
  rw [hchar]
  exact h _ (by omega)

section Digits

variable {c : Char}

theorem Json.isDigit_of_isDigit (hc : c.isDigit = true) : Json.isDigit c = true :=
  forall_digit (P := fun c => Json.isDigit c = true) (by decide) hc

theorem isDecimal_of_isDigit (hc : c.isDigit = true) : isDecimal c = true :=
  forall_digit (P := fun c => isDecimal c = true) (by decide) hc

theorem digitValue?_of_isDigit (hc : c.isDigit = true) :
    digitValue? c = some (c.toNat - '0'.toNat) :=
  forall_digit (P := fun c => digitValue? c = some (c.toNat - '0'.toNat)) (by decide) hc

theorem isBlank_of_isDigit (hc : c.isDigit = true) : isBlank c = false :=
  forall_digit (P := fun c => isBlank c = false) (by decide) hc

theorem lowerChar_of_isDigit (hc : c.isDigit = true) : lowerChar c = [c] :=
  forall_digit (P := fun c => lowerChar c = [c]) (by decide +kernel) hc

theorem ne_of_isDigit {d : Char} (hc : c.isDigit = true) (hd : d.isDigit = false) : c ≠ d := by
  rintro rfl
  exact Bool.false_ne_true (hd.symm.trans hc)

end Digits

namespace IsPlain

variable {cs ds : List Char}

theorem nil : IsPlain [] := fun _ hc => absurd hc List.not_mem_nil

theorem append (hcs : IsPlain cs) (hds : IsPlain ds) : IsPlain (cs ++ ds) := fun c hc =>
  (List.mem_append.mp hc).elim (hcs c) (hds c)

theorem tail {c : Char} (h : IsPlain (c :: cs)) : IsPlain cs := fun d hd =>
  h d (List.mem_cons_of_mem c hd)

theorem head {c : Char} (h : IsPlain (c :: cs)) : c.isDigit = true :=
  h c List.mem_cons_self

theorem take (h : IsPlain cs) (n : Nat) : IsPlain (cs.take n) := fun c hc =>
  h c (List.mem_of_mem_take hc)

theorem drop (h : IsPlain cs) (n : Nat) : IsPlain (cs.drop n) := fun c hc =>
  h c (List.mem_of_mem_drop hc)

theorem zeros (n : Nat) : IsPlain (List.replicate n '0') := fun c hc => by
  rw [List.eq_of_mem_replicate hc]
  rfl

theorem toDigits (n : Nat) : IsPlain (Nat.toDigits 10 n) := fun _ hc =>
  Nat.isDigit_of_mem_toDigits (by decide) (by decide) hc

end IsPlain

section Values

variable {ds : List Char}

/-- The value of plain digits, as the library has it. -/
theorem digitsValue_eq (h : IsPlain ds) : digitsValue ds = Nat.ofDigitChars 10 ds 0 := by
  have hfold (init : Nat) : ds.foldl (fun n c => 10 * n + (digitValue? c).getD 0) init =
      Nat.ofDigitChars 10 ds init := by
    induction ds generalizing init with
    | nil => rfl
    | cons c ds ih =>
        rw [List.foldl_cons, Nat.ofDigitChars_cons, digitValue?_of_isDigit h.head]
        exact ih h.tail _
  exact hfold 0

/-- The value of the digits of a number is the number. -/
theorem digitsValue_toDigits (n : Nat) : digitsValue (Nat.toDigits 10 n) = n := by
  rw [digitsValue_eq (.toDigits n), Nat.ofDigitChars_ten_toDigits]

theorem digitsValue_append_zeros (h : IsPlain ds) (n : Nat) :
    digitsValue (ds ++ List.replicate n '0') = digitsValue ds * 10 ^ n := by
  rw [digitsValue_eq (h.append (.zeros n)), digitsValue_eq h, Nat.ofDigitChars_append,
    Nat.ofDigitChars_replicate_zero, Nat.mul_comm]

theorem digitsValue_zeros_append (h : IsPlain ds) (n : Nat) :
    digitsValue (List.replicate n '0' ++ ds) = digitsValue ds := by
  rw [digitsValue_eq ((IsPlain.zeros n).append h), digitsValue_eq h, Nat.ofDigitChars_append,
    Nat.ofDigitChars_replicate_zero, Nat.mul_zero]

theorem digitValue?_getD_le (c : Char) : (digitValue? c).getD 0 ≤ 9 := by
  cases h : digitValue? c with
  | none => exact Nat.zero_le 9
  | some d =>
      rcases Option.map_eq_some_iff.mp h with ⟨z, hz, rfl⟩
      have hrange := List.find?_some hz
      rw [Bool.and_eq_true, decide_eq_true_eq, decide_eq_true_eq] at hrange
      rw [Option.getD_some]
      omega

/-- What is written by characters is less than the power of ten of their number. -/
theorem digitsValue_lt (ds : List Char) : digitsValue ds < 10 ^ ds.length := by
  -- The fold has a number of digits in front of it, so the induction is for every start.
  have hfold (init : Nat) : ds.foldl (fun n c => 10 * n + (digitValue? c).getD 0) init <
      (init + 1) * 10 ^ ds.length := by
    induction ds generalizing init with
    | nil => exact Nat.lt_of_lt_of_eq (Nat.lt_succ_self init) (Nat.mul_one _).symm
    | cons c ds ih =>
        have hdigit := digitValue?_getD_le c
        have hstep : (10 * init + (digitValue? c).getD 0 + 1) * 10 ^ ds.length ≤
            (10 * (init + 1)) * 10 ^ ds.length := Nat.mul_le_mul_right _ (by omega)
        calc (c :: ds).foldl (fun n c => 10 * n + (digitValue? c).getD 0) init
            < (10 * init + (digitValue? c).getD 0 + 1) * 10 ^ ds.length := ih _
          _ ≤ (10 * (init + 1)) * 10 ^ ds.length := hstep
          _ = (init + 1) * 10 ^ (c :: ds).length := by
            rw [List.length_cons, Nat.pow_succ', Nat.mul_comm 10 (init + 1), Nat.mul_assoc]
  have hzero := hfold 0
  rw [Nat.zero_add, Nat.one_mul] at hzero
  exact hzero

end Values

section Counts

variable {n : Nat}

theorem digitCount_pos (n : Nat) : 0 < Decimal.digitCount n :=
  Nat.length_toDigits_pos

theorem digitCount_le_iff {k : Nat} (hk : 0 < k) : Decimal.digitCount n ≤ k ↔ n < 10 ^ k :=
  Nat.length_toDigits_le_iff (by decide) hk

theorem lt_pow_digitCount (n : Nat) : n < 10 ^ Decimal.digitCount n :=
  (digitCount_le_iff (digitCount_pos n)).mp (Nat.le_refl _)

/-- The leading digit of a number that is not zero counts. -/
theorem pow_digitCount_le (hn : 0 < n) : 10 ^ (Decimal.digitCount n - 1) ≤ n := by
  rcases Nat.eq_zero_or_pos (Decimal.digitCount n - 1) with h | h
  · rw [h]
    exact hn
  · have hpos := digitCount_pos n
    refine Nat.le_of_not_lt fun hlt => ?_
    have hle := (digitCount_le_iff h).mpr hlt
    omega

/-- The first digit of a number that is not zero is not zero. -/
theorem head_toDigits_ne_zero (hn : 0 < n) : (Nat.toDigits 10 n).head? ≠ some '0' := by
  intro h
  rcases hds : Nat.toDigits 10 n with _ | ⟨d, ds⟩
  · exact Nat.toDigits_ne_nil hds
  · rw [hds] at h
    obtain rfl : d = '0' := Option.some.inj h
    -- Without the zero the digits would be too few.
    have hplain : IsPlain ds := by
      have := IsPlain.toDigits n
      rw [hds] at this
      exact this.tail
    have hvalue := digitsValue_toDigits n
    rw [hds] at hvalue
    have hzero := digitsValue_zeros_append hplain 1
    rw [List.replicate_one, List.singleton_append, hvalue] at hzero
    have hlt := digitsValue_lt ds
    have hle := pow_digitCount_le hn
    rw [Decimal.digitCount, hds, List.length_cons, Nat.add_sub_cancel] at hle
    omega

end Counts

section Readers

variable {ds rest : List Char}

/-- A run of plain digits is taken to its end. -/
theorem Json.takeDigits_append (hds : IsPlain ds)
    (hrest : ∀ c ∈ rest.head?, Json.isDigit c = false) :
    Json.takeDigits (ds ++ rest) = (ds, rest) := by
  have hall : ∀ c ∈ ds, Json.isDigit c = true := fun c hc => Json.isDigit_of_isDigit (hds c hc)
  rw [Json.takeDigits, List.takeWhile_append_of_pos hall, List.dropWhile_append_of_pos hall]
  cases rest with
  | nil => rw [List.takeWhile_nil, List.dropWhile_nil, List.append_nil]
  | cons c rest =>
      have hc := hrest c rfl
      rw [List.takeWhile_cons_of_neg (by rw [hc]; decide),
        List.dropWhile_cons_of_neg (by rw [hc]; decide), List.append_nil]

theorem takeDigits_cons {c : Char} {cs : List Char} (hc : isDecimal c = true)
    (hcs : cs.head? ≠ some '_') :
    takeDigits (c :: cs) = (c :: (takeDigits cs).1, (takeDigits cs).2) := by
  rw [takeDigits.eq_def]
  split
  · rename_i heq
    rw [(List.cons.inj heq).2] at hcs
    exact absurd rfl hcs
  · rename_i heq
    rw [← (List.cons.inj heq).1, ← (List.cons.inj heq).2, if_pos hc]
  · rename_i heq
    exact absurd heq (List.cons_ne_nil c cs)

theorem takeDigits_of_not {c : Char} (cs : List Char) (hc : isDecimal c = false) :
    takeDigits (c :: cs) = ([], c :: cs) := by
  have hneg : ¬isDecimal c = true := by rw [hc]; decide
  rw [takeDigits.eq_def]
  split
  · rename_i heq
    obtain ⟨rfl, rfl⟩ := List.cons.inj heq
    exact if_neg hneg
  · rename_i heq
    obtain ⟨rfl, rfl⟩ := List.cons.inj heq
    exact if_neg hneg
  · rename_i heq
    exact absurd heq (List.cons_ne_nil c cs)

/-- The same with digits of every script. -/
theorem takeDigits_append (hds : IsPlain ds)
    (hrest : ∀ c ∈ rest.head?, isDecimal c = false ∧ c ≠ '_') :
    takeDigits (ds ++ rest) = (ds, rest) := by
  induction ds with
  | nil =>
      rcases rest with _ | ⟨c, rest⟩
      · rfl
      · exact takeDigits_of_not rest (hrest c rfl).1
  -- An underscore would be taken with the digit behind it, so what
  -- follows a digit is looked at first.
  | cons d ds ih =>
      have hnext : (ds ++ rest).head? ≠ some '_' := by
        intro h
        rcases ds with _ | ⟨e, ds⟩
        · exact (hrest '_' h).2 rfl
        · have he : e = '_' := Option.some.inj h
          exact ne_of_isDigit hds.tail.head rfl he
      rw [List.cons_append, takeDigits_cons (isDecimal_of_isDigit hds.head) hnext, ih hds.tail]

end Readers

section Bounds

theorem natAbs_withSign (negative : Bool) (n : Nat) : (withSign negative n).natAbs = n := by
  cases negative with
  | true => exact Int.natAbs_neg n
  | false => rfl

theorem withSign_natAbs (x : Int) : withSign (x < 0) x.natAbs = x := by
  rw [withSign]
  by_cases hx : x < 0
  · rw [decide_eq_true hx, if_pos rfl]
    omega
  · rw [decide_eq_false hx, if_neg Bool.false_ne_true]
    omega

theorem lt_pow_maxDigits {n k : Nat} (h : n < 10 ^ k) (hk : k ≤ maxDigits) : n < 10 ^ maxDigits :=
  Nat.lt_of_lt_of_le h (Nat.pow_le_pow_right (by decide) hk)

/-- Whole numbers that are read have few enough digits. -/
theorem natAbs_lt_of_readIntChars? {cs : List Char} {n : Int} (h : readIntChars? cs = some n) :
    n.natAbs < 10 ^ maxDigits := by
  rw [readIntChars?] at h
  dsimp only at h
  split at h
  · rename_i d ds _
    split at h
    · exact absurd h (by simp only [reduceCtorEq, not_false_eq_true])
    · rename_i hlength
      rw [← Option.some.inj h, natAbs_withSign]
      refine lt_pow_maxDigits (digitsValue_lt (d :: ds)) ?_
      rw [List.length_cons]
      omega
  · exact absurd h (by simp only [reduceCtorEq, not_false_eq_true])

theorem length_takeSign (cs : List Char) : (takeSign cs).2.length ≤ cs.length := by
  rw [takeSign.eq_def]
  split
  · exact Nat.le_succ _
  · exact Nat.le_succ _
  · exact Nat.le_refl _

/-- Digits that are taken are no more than the characters. -/
theorem Lenient.length_digits? {afterDigit : Bool} {cs ds : List Char}
    (h : digits? afterDigit cs = some ds) : ds.length ≤ cs.length := by
  fun_induction digits? afterDigit cs generalizing ds with
  | case1 =>
      obtain rfl := Option.some.inj h
      exact Nat.le_refl 0
  | case2 => exact absurd h (by simp only [reduceCtorEq, not_false_eq_true])
  | case3 cs ih => exact Nat.le_succ_of_le (ih h)
  | case4 afterDigit c cs hscore hc ih =>
      rcases Option.map_eq_some_iff.mp h with ⟨rest, hrest, rfl⟩
      exact Nat.succ_le_succ (ih hrest)
  | case5 afterDigit c cs hscore hc =>
      exact absurd h (by simp only [reduceCtorEq, not_false_eq_true])

/-- The same for whole numbers in texts where a reader is lenient. -/
theorem Lenient.natAbs_lt_of_intOfText? {s : String} {n : Int} (h : intOfText? s = some n) :
    n.natAbs < 10 ^ maxDigits := by
  rw [intOfText?] at h
  dsimp only at h
  split at h
  · exact absurd h (by simp only [reduceCtorEq, not_false_eq_true])
  · rename_i hlength
    rcases Option.map_eq_some_iff.mp h with ⟨ds, hds, rfl⟩
    have hdigits := length_digits? hds
    have hsign := length_takeSign (withoutZeros (Text.trimChars s.toList))
    rw [natAbs_withSign]
    exact lt_pow_maxDigits (digitsValue_lt ds) (by omega)

/-- The same for floats that are whole. -/
theorem Lenient.natAbs_lt_of_intOfFloat? {x : Binary64} {n : Int} (h : intOfFloat? x = some n) :
    n.natAbs < 10 ^ maxDigits := by
  rw [intOfFloat?] at h
  split at h
  · rcases Option.filter_eq_some_iff.mp h with ⟨-, hn⟩
    have hbound : n.natAbs < floatBound := of_decide_eq_true hn
    have hle : floatBound ≤ 10 ^ 19 := by decide
    exact lt_pow_maxDigits (Nat.lt_of_lt_of_le hbound hle) (by decide)
  · exact absurd h (by simp only [reduceCtorEq, not_false_eq_true])

end Bounds

end Criteria
