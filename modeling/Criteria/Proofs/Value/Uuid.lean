import Criteria.Proofs.Number.Numeral
import Criteria.Value.Uuid

/-!
# Identifiers as They Are Written

An identifier is read from its written form.

What the reader takes off before it looks at digits is never there: no group of
digits holds a brace or the first letter of one of the words of the resource name,
and the digits do not begin with a sign or a mark of their base. The hyphens are
there, and taking them off puts the groups together again.

## Main definitions

* `Uuid.IsHex`: A run of plain hexadecimal digits.
* `Uuid.hexFold`: The number of hexadecimal digits, after what was read so far.

## Theorems

* `Uuid.hexNumber?_of_isHex`: Plain digits are read as their number.
* `Uuid.read?_text`: An identifier is read from its written form.
-/

namespace Criteria

namespace Uuid

open Text Numeral

/-- A run of plain hexadecimal digits. -/
def IsHex (cs : List Char) : Prop :=
  ∀ c ∈ cs, ∃ d < 16, c = Nat.digitChar d

/-- The number of hexadecimal digits, after what was read so far. -/
def hexFold (n : Nat) (cs : List Char) : Nat :=
  cs.foldl (fun n c => n * 16 + (hexValue? c).getD 0) n

section Digits

variable {cs ds : List Char} {c : Char}

/-- What holds of the sixteen digits holds of every one. -/
theorem IsHex.forall {P : Char → Prop} (hcs : IsHex cs) (h : ∀ d < 16, P (Nat.digitChar d)) :
    ∀ c ∈ cs, P c := by
  intro c hc
  rcases hcs c hc with ⟨d, hd, rfl⟩
  exact h d hd

theorem IsHex.append (hcs : IsHex cs) (hds : IsHex ds) : IsHex (cs ++ ds) := fun c hc =>
  (List.mem_append.mp hc).elim (hcs c) (hds c)

theorem hexValue?_digitChar : ∀ d < 16, hexValue? (Nat.digitChar d) = some d := by
  decide

/-- The digits of a number are plain, and their number is the number. -/
theorem isHex_toDigits (n : Nat) : IsHex (Nat.toDigits 16 n) ∧
    hexFold 0 (Nat.toDigits 16 n) = n := by
  -- The last digit is split off, and what is before it writes a smaller number.
  induction n using Nat.strongRecOn with
  | ind n ih =>
      by_cases hn : n < 16
      · rw [Nat.toDigits_of_lt_base hn]
        refine ⟨fun c hc => ⟨n, hn, List.mem_singleton.mp hc⟩, ?_⟩
        rw [hexFold, List.foldl_cons, List.foldl_nil, hexValue?_digitChar n hn, Option.getD_some,
          Nat.zero_mul, Nat.zero_add]
      · have hlast : n % 16 < 16 := Nat.mod_lt n (by decide)
        have hrest := ih (n / 16) (by omega)
        rw [Nat.toDigits_of_base_le (by decide) (by omega)]
        refine ⟨hrest.1.append fun c hc => ⟨n % 16, hlast, List.mem_singleton.mp hc⟩, ?_⟩
        have hfold : hexFold 0 (Nat.toDigits 16 (n / 16) ++ [Nat.digitChar (n % 16)]) =
            hexFold 0 (Nat.toDigits 16 (n / 16)) * 16 + n % 16 := by
          rw [hexFold, List.foldl_append, List.foldl_cons, List.foldl_nil,
            hexValue?_digitChar _ hlast, Option.getD_some]
          rfl
        rw [hfold, hrest.2]
        omega

theorem hexFold_zeros_append (n : Nat) (cs : List Char) :
    hexFold 0 (List.replicate n '0' ++ cs) = hexFold 0 cs := by
  induction n with
  | zero => rfl
  | succ n ih =>
      rw [List.replicate_succ, List.cons_append, ← ih]
      rfl

theorem hexNumber?_cons (n : Nat) (afterDigit : Bool) (hc : c ≠ '_') :
    hexNumber? n afterDigit (c :: cs) =
      (hexValue? c).bind fun d => hexNumber? (n * 16 + d) true cs := by
  rw [hexNumber?.eq_def]
  split
  · rename_i heq
    cases heq
  · rename_i heq
    exact absurd (List.cons.inj heq).1 hc
  · rename_i heq
    obtain ⟨rfl, rfl⟩ := List.cons.inj heq
    rfl

/-- Plain digits are read as their number. -/
theorem hexNumber?_of_isHex (hcs : IsHex cs) (n : Nat) (afterDigit : Bool)
    (h : cs ≠ [] ∨ afterDigit = true) : hexNumber? n afterDigit cs = some (hexFold n cs) := by
  induction cs generalizing n afterDigit with
  | nil =>
      rw [hexNumber?, if_pos (h.resolve_left fun hne => hne rfl)]
      rfl
  | cons c cs ih =>
      have hscore := hcs.forall (P := (· ≠ '_')) (by decide) c List.mem_cons_self
      rcases hcs c List.mem_cons_self with ⟨d, hd, rfl⟩
      rw [hexNumber?_cons n afterDigit hscore, hexValue?_digitChar d hd, Option.bind_some,
        ih (fun a ha => hcs a (List.mem_cons_of_mem _ ha)) _ _ (.inr rfl), hexFold, hexFold,
        List.foldl_cons, hexValue?_digitChar d hd, Option.getD_some]

/-- No base mark stands before plain digits. -/
theorem unmarked_of_isHex (hcs : IsHex cs) : unmarked cs = cs := by
  have hmark {m : Char} (hm : m ∈ cs) : ¬((m == 'x' || m == 'X') = true) :=
    hcs.forall (P := fun m => ¬((m == 'x' || m == 'X') = true)) (by decide) m hm
  rw [unmarked.eq_def]
  split
  · exact if_neg (hmark (List.mem_cons_of_mem _ List.mem_cons_self))
  · exact if_neg (hmark (List.mem_cons_of_mem _ List.mem_cons_self))
  · rfl

/-- Plain digits have no sign. -/
theorem signedHex?_of_isHex (hcs : IsHex cs) (hne : cs ≠ []) :
    signedHex? cs = some (hexFold 0 cs) := by
  have hblank : ∀ c ∈ cs, isBlank c = false := hcs.forall (by decide)
  have hsign {a : Char} (ha : ∀ d < 16, Nat.digitChar d ≠ a) {r : List Char} : cs ≠ a :: r := by
    rintro rfl
    exact hcs.forall (P := (· ≠ a)) ha a List.mem_cons_self rfl
  rw [signedHex?, trimChars_eq_self hblank]
  split
  · exact absurd rfl (hsign (by decide))
  · exact absurd rfl (hsign (by decide))
  · rw [unmarked_of_isHex hcs, hexNumber?_of_isHex hcs 0 false (.inl hne)]

end Digits

section Texts

/-- A word whose first letter is nowhere is nowhere itself. -/
theorem withoutWord_eq_self {word cs : List Char} {a : Char} (hword : word.head? = some a)
    (h : ∀ c ∈ cs, c ≠ a) : withoutWord word 0 cs = cs := by
  induction cs with
  | nil => rfl
  | cons c cs ih =>
      have hnot : word.isPrefixOf (c :: cs) = false := by
        rcases word with _ | ⟨b, word⟩
        · cases hword
        · rw [List.isPrefixOf_cons_cons, Bool.and_eq_false_iff]
          obtain rfl : b = a := Option.some.inj hword
          exact .inl (beq_eq_false_iff_ne.mpr (h c List.mem_cons_self).symm)
      rw [withoutWord, hnot, if_neg Bool.false_ne_true,
        ih fun d hd => h d (List.mem_cons_of_mem c hd)]

variable (u : Uuid)

/-- There are thirty-two digits, and their number is the identifier. -/
theorem digits_spec : u.digits.length = 32 ∧ IsHex u.digits ∧ hexFold 0 u.digits = u.value := by
  have hlength : (Nat.toDigits 16 u.value).length ≤ 32 :=
    (Nat.length_toDigits_le_iff (by decide) (by decide)).mpr u.lt_bound
  have hdigits := isHex_toDigits u.value
  rw [digits, hexPadded, String.toList_ofList]
  refine ⟨?_, IsHex.append (fun c hc => ?_) hdigits.1, ?_⟩
  · rw [List.length_append, List.length_replicate, Nat.sub_add_cancel hlength]
  · exact ⟨0, by decide, List.eq_of_mem_replicate hc⟩
  · rw [hexFold_zeros_append, hdigits.2]

/-- The written form without its hyphens. -/
theorem filter_text : u.text.toList.filter (· != '-') = u.digits := by
  have hhyphen : ∀ c ∈ u.digits, (c != '-') = true := u.digits_spec.2.1.forall (by decide)
  -- The hyphens stand between the groups only, and the groups joined are all digits.
  have hgroup (start count : Nat) : ((u.digits.drop start).take count).filter (· != '-') =
      (u.digits.drop start).take count :=
    List.filter_eq_self.mpr fun c hc => hhyphen c (List.mem_of_mem_drop (List.mem_of_mem_take hc))
  have hlast : (u.digits.drop 20).take 12 = u.digits.drop 20 := by
    refine List.take_of_length_le ?_
    rw [List.length_drop, u.digits_spec.1]
  have hjoin (start count : Nat) :
      (u.digits.drop start).take count ++ u.digits.drop (start + count) =
      u.digits.drop start := by
    rw [← List.drop_drop, List.take_append_drop]
  have htext : u.text.toList = (u.digits.drop 0).take 8 ++ '-' :: ((u.digits.drop 8).take 4 ++
      '-' :: ((u.digits.drop 12).take 4 ++ '-' :: ((u.digits.drop 16).take 4 ++
      '-' :: (u.digits.drop 20).take 12))) := by
    simp [text, String.intercalate_cons_cons]
  have hdrop (cs : List Char) : ('-' :: cs).filter (· != '-') = cs.filter (· != '-') :=
    List.filter_cons_of_neg (by decide)
  simp only [htext, List.filter_append, hdrop, hgroup]
  rw [hlast, hjoin 16 4, hjoin 12 4, hjoin 8 4, hjoin 0 8, List.drop_zero]

/-- A character of the written form is a digit or a hyphen. -/
theorem mem_text {c : Char} (hc : c ∈ u.text.toList) : c ∈ u.digits ∨ c = '-' := by
  by_cases hhyphen : c = '-'
  · exact .inr hhyphen
  · refine .inl ?_
    rw [← u.filter_text, List.mem_filter]
    exact ⟨hc, bne_iff_ne.mpr hhyphen⟩

/-- What holds of the digits and of the hyphen holds of all of the written form. -/
theorem forall_text {P : Char → Prop} (h : ∀ d < 16, P (Nat.digitChar d)) (hhyphen : P '-') :
    ∀ c ∈ u.text.toList, P c := by
  intro c hc
  rcases u.mem_text hc with hc | rfl
  · exact u.digits_spec.2.1.forall h c hc
  · exact hhyphen

/-- An identifier is read from its written form. -/
theorem read?_text : read? u.text = some u := by
  rcases u.digits_spec with ⟨hlength, hhex, hvalue⟩
  have hletter : ∀ c ∈ u.text.toList, c ≠ 'u' := u.forall_text (by decide) (by decide)
  have hbrace : ∀ c ∈ u.text.toList, (c == '{' || c == '}') = false :=
    u.forall_text (by decide) (by decide)
  have hne : u.digits ≠ [] := by
    intro hnil
    rw [hnil] at hlength
    cases hlength
  rw [read?, withoutWord_eq_self rfl hletter, withoutWord_eq_self rfl hletter]
  rw [stripChars_eq_self hbrace, u.filter_text, if_pos hlength, signedHex?_of_isHex hhex hne,
    hvalue, Option.bind_some, of?, dif_pos u.lt_bound]

end Texts

end Uuid

end Criteria
