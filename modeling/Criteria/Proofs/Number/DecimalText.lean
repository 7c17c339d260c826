import Criteria.Proofs.Number.Numeral

/-!
# Decimals and Their Texts

A decimal that was read from a text is written as a text that is read as the same
decimal.

A decimal keeps more than its value: trailing zeros, the sign of a zero, and what an
undefined result says. All of this has to come back. The written form moves the point
into the coefficient and gives what is left of the exponent behind a letter, in one of
three ways, depending on where the point falls. `Decimal.Spells` says what the three
have in common: a row of digits whose value is the coefficient, and a place for the
point that makes up for the exponent.

Not every coefficient and exponent that could be written can also be read, because the
places of the digits are bounded. What has been read is within the bounds, which is
`fits_of_readDecimal?`, and the bounds are all that reading asks for.

## Main definitions

* `Decimal.Fits`: The digits of a decimal stand within the bounds.
* `Decimal.exponentChars`: The exponent of a written decimal.
* `Decimal.Spells`: Digits and an exponent that spell a magnitude.

## Theorems

* `Decimal.fits_of_readDecimal?`: What is read is within the bounds.
* `Decimal.exists_spells`: The digits and the exponent of a written magnitude.
* `Decimal.readDecimal?_text`: A decimal within the bounds is read as itself.
-/

namespace Criteria

open Text Numeral

namespace Decimal

/-- The digits of a decimal stand within the bounds for decimals. -/
def Fits : Decimal → Prop
  | finite _ c e => fits c e = true
  | _ => True

/-- What is read as a decimal is within the bounds. -/
theorem fits_of_readDecimal? {s : String} {d : Decimal} (h : readDecimal? s = some d) :
    d.Fits := by
  -- An undefined result has no digits that could be too long.
  have hundefined {negative : Bool} {cs : List Char} {u : Decimal}
      (h : readUndefined? negative cs = some u) : u.Fits := by
    rw [readUndefined?.eq_def] at h
    dsimp only at h
    split at h
    · split at h
      · exact Option.some.inj h ▸ trivial
      · cases h
    · split at h
      · exact Option.some.inj h ▸ trivial
      · cases h
    · cases h
  rw [readDecimal?] at h
  dsimp only at h
  split at h
  -- An infinity fits as well, and a finite number is checked when it is read.
  · exact Option.some.inj h ▸ trivial
  · split at h
    · rename_i hd
      exact Option.some.inj h ▸ hundefined hd
    · split at h
      · split at h
        · rename_i hfits
          exact Option.some.inj h ▸ hfits
        · cases h
      · cases h

/-- The exponent of a written decimal; zero is not written. -/
def exponentChars (x : Int) : List Char :=
  if x = 0 then [] else 'E' :: (if x < 0 then '-' else '+') :: Nat.toDigits 10 x.natAbs

/-- Digits before and behind the point and an exponent spell `c · 10 ^ e`. -/
structure Spells (whole fraction : List Char) (x : Int) (c : Nat) (e : Int) : Prop where
  ne_nil : whole ≠ []
  whole_plain : IsPlain whole
  fraction_plain : IsPlain fraction
  value : digitsValue (whole ++ fraction) = c
  places : x - fraction.length = e

section Writing

variable {c : Nat} {e : Int}

/-- The exponent as it is written. -/
theorem toList_exponentText (x : Int) :
    (if x = 0 then "" else if 0 < x then "E+" ++ toString x else "E" ++ toString x).toList =
      exponentChars x := by
  by_cases hzero : x = 0
  · rw [exponentChars, if_pos hzero, if_pos hzero]
    rfl
  · rw [exponentChars, if_neg hzero, if_neg hzero]
    by_cases hpos : 0 < x
    · rw [if_pos hpos, if_neg (by omega), String.toList_append, Json.toList_toString,
        decide_eq_false (by omega)]
      rfl
    · rw [if_neg hpos, if_pos (by omega), String.toList_append, Json.toList_toString,
        decide_eq_true (by omega)]
      rfl

/-- A written magnitude consists of digits with a point and of an exponent. -/
theorem exists_spells (c : Nat) (e : Int) : ∃ whole fraction x, Spells whole fraction x c e ∧
    (magnitudeText c e).toList = whole ++ (fractionChars fraction ++ exponentChars x) := by
  have hplain := IsPlain.toDigits c
  have hvalue := digitsValue_toDigits c
  have hlength : 0 < (Nat.toDigits 10 c).length := Nat.length_toDigits_pos
  rw [magnitudeText, String.toList_append, String.toList_ofList, toList_exponentText]
  dsimp only
  generalize Nat.toDigits 10 c = ds at hplain hvalue hlength ⊢
  -- In scientific form the point is behind the first digit.
  generalize hpoint : (if e ≤ 0 ∧ -6 < e + (ds.length : Int) then e + (ds.length : Int) else 1) =
    point
  by_cases hbefore : point ≤ 0
  · -- Zeros stand between the point and the digits.
    have hplace : point = e + ds.length := by
      split at hpoint <;> omega
    have hfraction := (IsPlain.zeros (-point).toNat).append hplain
    have hne : List.replicate (-point).toNat '0' ++ ds ≠ [] :=
      List.append_ne_nil_of_right_ne_nil _ (List.length_pos_iff.mp hlength)
    refine ⟨['0'], _, e + ds.length - point,
      ⟨List.cons_ne_nil _ _, .zeros 1, hfraction, ?_, ?_⟩, ?_⟩
    · rw [← List.replicate_one, digitsValue_zeros_append hfraction, digitsValue_zeros_append hplain,
        hvalue]
    · rw [List.length_append, List.length_replicate]
      omega
    · rw [if_pos hbefore, fractionChars_of_ne_nil hne]
      rfl
  rw [if_neg hbefore]
  by_cases hbehind : (ds.length : Int) ≤ point
  · -- No zeros are needed, since the point is at the end or behind the only digit.
    have hexact : point = ds.length := by
      split at hpoint <;> omega
    refine ⟨ds, [], e + ds.length - point,
      ⟨List.length_pos_iff.mp hlength, hplain, .nil, ?_, ?_⟩, ?_⟩
    · rw [List.append_nil, hvalue]
    · rw [List.length_nil]
      omega
    · rw [if_pos hbehind, hexact, Int.sub_self, Int.toNat_zero, List.replicate_zero,
        List.append_nil]
      rfl
  -- The point stands among the digits, which are cut there.
  · have hsplit : ds.take point.toNat ++ ds.drop point.toNat = ds := List.take_append_drop _ ds
    have hwhole : ds.take point.toNat ≠ [] := by
      rw [← List.length_pos_iff, List.length_take]
      omega
    have hfraction : ds.drop point.toNat ≠ [] := by
      rw [← List.length_pos_iff, List.length_drop]
      omega
    refine ⟨_, ds.drop point.toNat, e + ds.length - point,
      ⟨hwhole, hplain.take _, hplain.drop _, ?_, ?_⟩, ?_⟩
    · rw [hsplit, hvalue]
    · rw [List.length_drop]
      omega
    · rw [if_neg hbehind, fractionChars_of_ne_nil hfraction, List.append_assoc]

end Writing

section Reading

variable {whole fraction cs : List Char} {x : Int} {c : Nat} {e : Int}

theorem isDecimal_head_exponentChars :
    ∀ a ∈ (exponentChars x).head?, isDecimal a = false ∧ a ≠ '_' ∧ a ≠ '.' := by
  rw [exponentChars]
  split
  · exact fun a ha => absurd ha (Option.not_mem_none a)
  · intro a ha
    obtain rfl : 'E' = a := Option.some.inj ha
    decide

theorem readExponent?_exponentChars : readExponent? (exponentChars x) = some x := by
  rw [exponentChars]
  split
  · rename_i hzero
    rw [hzero]
    rfl
  · have hsign : takeSign ((if x < 0 then '-' else '+') :: Nat.toDigits 10 x.natAbs) =
        (decide (x < 0), Nat.toDigits 10 x.natAbs) := by
      by_cases hx : x < 0
      · rw [if_pos hx, decide_eq_true hx]
        rfl
      · rw [if_neg hx, decide_eq_false hx]
        rfl
    rw [readExponent?_cons (.inr rfl) hsign, withSign_natAbs]

/-- What spells a magnitude is read as its coefficient and exponent. -/
theorem Spells.readScientific? (h : Spells whole fraction x c e) :
    readScientific? (whole ++ (fractionChars fraction ++ exponentChars x)) = some (c, e) := by
  rw [Criteria.readScientific?,
    takeFixed?_append h.ne_nil h.whole_plain h.fraction_plain isDecimal_head_exponentChars]
  show (readExponent? (exponentChars x)).bind _ = _
  rw [readExponent?_exponentChars, h.value]
  show some (c, x - (fraction.length : Int)) = _
  rw [h.places]

/-- No character is a blank or an underscore. -/
def IsClean (cs : List Char) : Prop :=
  ∀ a ∈ cs, isBlank a = false ∧ a ≠ '_'

namespace IsClean

theorem cons {a : Char} (ha : isBlank a = false ∧ a ≠ '_') (hcs : IsClean cs) :
    IsClean (a :: cs) :=
  List.forall_mem_cons.mpr ⟨ha, hcs⟩

theorem nil : IsClean [] := fun _ ha => absurd ha List.not_mem_nil

theorem append {ds : List Char} (hcs : IsClean cs) (hds : IsClean ds) : IsClean (cs ++ ds) :=
  fun a ha => (List.mem_append.mp ha).elim (hcs a) (hds a)

theorem of_isPlain (h : IsPlain cs) : IsClean cs := fun a ha =>
  ⟨isBlank_of_isDigit (h a ha), ne_of_isDigit (h a ha) (by decide)⟩

theorem signChars (negative : Bool) : IsClean (signChars negative) := by
  cases negative with
  | false => exact .nil
  | true => exact .cons (by decide) .nil

theorem fractionChars (h : IsPlain fraction) : IsClean (fractionChars fraction) := by
  cases fraction with
  | nil => exact .nil
  | cons d ds => exact .cons (by decide) (of_isPlain h)

theorem exponentChars (x : Int) : IsClean (exponentChars x) := by
  rw [Decimal.exponentChars]
  split
  · exact .nil
  · refine .cons (by decide) (.cons ?_ (of_isPlain (.toDigits _)))
    split <;> decide

/-- Such a text is not changed before it is read. -/
theorem filter_trimChars (h : IsClean cs) : (trimChars cs).filter (· != '_') = cs := by
  rw [trimChars_eq_self fun a ha => (h a ha).1, List.filter_eq_self]
  exact fun a ha => bne_iff_ne.mpr (h a ha).2

end IsClean

theorem lowerChars_of_isPlain (h : IsPlain cs) : lowerChars cs = cs := by
  induction cs with
  | nil => rfl
  | cons d ds ih =>
      have hrest : lowerChars ds = ds := ih h.tail
      rw [lowerChars] at hrest ⊢
      rw [List.flatMap_cons, lowerChar_of_isDigit h.head, hrest]
      rfl

/-- The names of the infinities begin with one letter. -/
theorem not_infinity {a : Char} (ha : a ≠ 'i') :
    ¬((a :: cs == "inf".toList || a :: cs == "infinity".toList) = true) := by
  rw [Bool.or_eq_true, beq_iff_eq, beq_iff_eq]
  rintro (h | h)
  · exact ha (List.cons.inj h).1
  · exact ha (List.cons.inj h).1

/-- The names of the undefined results begin with one of two. -/
theorem readUndefined?_cons {a : Char} (negative : Bool) (hn : a ≠ 'n') (hs : a ≠ 's') :
    readUndefined? negative (a :: cs) = none := by
  rw [readUndefined?.eq_def]
  dsimp only
  split
  · rename_i heq
    exact absurd (List.cons.inj heq).1 hn
  · rename_i heq
    exact absurd (List.cons.inj heq).1 hs
  · rfl

/-- A finite decimal within the bounds is read as itself. -/
theorem readDecimal?_finite (negative : Bool) (h : fits c e = true) :
    readDecimal? (text (.finite negative c e)) = some (.finite negative c e) := by
  rcases exists_spells c e with ⟨whole, fraction, x, hspells, hchars⟩
  have htext : (text (.finite negative c e)).toList =
      signChars negative ++ (whole ++ (fractionChars fraction ++ exponentChars x)) := by
    rw [text, String.toList_append, hchars]
    cases negative <;> rfl
  -- The text holds no blanks and no underscores that the reader would drop.
  have hclean : IsClean (text (.finite negative c e)).toList := by
    rw [htext]
    exact (IsClean.signChars _).append ((IsClean.of_isPlain hspells.whole_plain).append
      ((IsClean.fractionChars hspells.fraction_plain).append (.exponentChars x)))
  have hscientific := hspells.readScientific?
  rw [readDecimal?, hclean.filter_trimChars, htext]
  -- A text that begins with a digit is none of the words.
  -- The first character behind the sign decides which reader is used.
  rcases hcs : whole ++ (fractionChars fraction ++ exponentChars x) with _ | ⟨d, rest⟩
  · exact absurd (List.append_eq_nil_iff.mp hcs).1 hspells.ne_nil
  · have hd : d.isDigit = true := by
      rcases hwhole : whole with _ | ⟨d', ds⟩
      · exact absurd hwhole hspells.ne_nil
      · have hplain := hspells.whole_plain
        rw [hwhole, List.cons_append] at hcs
        rw [hwhole] at hplain
        exact (List.cons.inj hcs).1 ▸ hplain.head
    have hlower : lowerChars (d :: rest) = d :: lowerChars rest := by
      rw [lowerChars, List.flatMap_cons, lowerChar_of_isDigit hd]
      rfl
    rw [hcs] at hscientific
    rw [takeSign_append negative hd]
    dsimp only
    rw [hlower, if_neg (not_infinity (ne_of_isDigit hd (by decide))),
      readUndefined?_cons negative (ne_of_isDigit hd (by decide)) (ne_of_isDigit hd (by decide)),
      hscientific]
    exact if_pos h

/-- An undefined decimal is read as itself. -/
theorem readDecimal?_undefined (signaling negative : Bool) (payload : Nat) :
    readDecimal? (text (.undefined signaling negative payload)) =
      some (.undefined signaling negative payload) := by
  -- What the undefined result says is left out where it is zero.
  obtain ⟨ds, hds, hvalue, hplain⟩ : ∃ ds,
      (if payload = 0 then "" else toString payload).toList = ds ∧ digitsValue ds = payload ∧
        IsPlain ds := by
    by_cases hzero : payload = 0
    · refine ⟨[], ?_, hzero.symm, .nil⟩
      rw [if_pos hzero]
      rfl
    · refine ⟨Nat.toDigits 10 payload, ?_, digitsValue_toDigits payload, .toDigits payload⟩
      rw [if_neg hzero]
      exact Nat.toList_repr
  have hdecimal : ds.all isDecimal = true :=
    List.all_eq_true.mpr fun a ha => isDecimal_of_isDigit (hplain a ha)
  have htext : (text (.undefined signaling negative payload)).toList =
      signChars negative ++ ((if signaling then "sNaN" else "NaN").toList ++ ds) := by
    rw [text, String.toList_append, String.toList_append, hds, List.append_assoc]
    cases negative <;> rfl
  have hclean : IsClean (text (.undefined signaling negative payload)).toList := by
    rw [htext]
    refine (IsClean.signChars _).append (IsClean.append ?_ (.of_isPlain hplain))
    cases signaling with
    | false => exact .cons (by decide) (.cons (by decide) (.cons (by decide) .nil))
    | true =>
        exact .cons (by decide) (.cons (by decide) (.cons (by decide) (.cons (by decide) .nil)))
  -- Behind the sign stands the word, and the digits behind it do not change when they are lowered.
  have hsign :
      takeSign (signChars negative ++ ((if signaling then "sNaN" else "NaN").toList ++ ds)) =
        (negative, (if signaling then "sNaN" else "NaN").toList ++ ds) := by
    cases negative <;> cases signaling <;> rfl
  have hlower : lowerChars ((if signaling then "sNaN" else "NaN").toList ++ ds) =
      (if signaling then "snan" else "nan").toList ++ ds := by
    rw [lowerChars, List.flatMap_append]
    refine congr_arg₂ (· ++ ·) ?_ (lowerChars_of_isPlain hplain)
    cases signaling <;> decide +kernel
  -- The word is none of those for infinity.
  have hfinite : ¬(((if signaling then "snan" else "nan").toList ++ ds == "inf".toList ||
      (if signaling then "snan" else "nan").toList ++ ds == "infinity".toList) = true) := by
    cases signaling with
    | true => exact not_infinity (a := 's') (by decide)
    | false => exact not_infinity (a := 'n') (by decide)
  have hread : readUndefined? negative ((if signaling then "snan" else "nan").toList ++ ds) =
      some (.undefined signaling negative payload) := by
    rw [← hvalue]
    cases signaling <;> exact if_pos hdecimal
  rw [readDecimal?, hclean.filter_trimChars, htext, hsign]
  dsimp only
  rw [hlower, if_neg hfinite, hread]

/-- A decimal within the bounds is read as itself. -/
theorem readDecimal?_text {d : Decimal} (h : d.Fits) : readDecimal? d.text = some d := by
  cases d with
  | finite negative c e => exact readDecimal?_finite negative h
  | infinite negative => cases negative <;> decide +kernel
  | undefined signaling negative payload => exact readDecimal?_undefined signaling negative payload

end Reading

end Decimal

end Criteria
