import Criteria.Proofs.Number.Shortest

/-!
# Written Numbers

A number that is written is read as itself.

Every number is written in one of few shapes: an integer as its digits, a double
with a point or with an exponent. `Numeral` takes them together as a sign, whole
digits, digits of a fraction and an exponent, of which the last two may be
missing. What the reader does is shown once for numerals, step by step as it
takes them apart, and the shapes are then numerals of known value.

The reader of a number stops where its text can no longer be part of one, so a
number may stand in front of anything that `Ends` it.

## Main definitions

* `Json.Ends`: A text in front of which a number ends.
* `Numeral`: The parts of a written number.
* `Numeral.chars`: The characters of a numeral.
* `Numeral.toBinary64`: The double that a numeral stands for.

## Theorems

* `Numeral.readNumber_whole`, `Numeral.readNumber_real`: What is read.
* `exists_writes_positional`, `exists_writes_scientific`: The two shapes.
* `Json.readNumber_toString`: An integer is read as itself.
* `Json.readNumber_write`: A finite double is read as itself.
-/

namespace Criteria

open Text

/-- A text in front of which a number ends. -/
def Json.Ends (cs : List Char) : Prop :=
  ∀ c ∈ cs.head?, Json.isDigit c = false ∧ c ≠ '.' ∧ c ≠ 'e' ∧ c ≠ 'E'

/-- The parts of a written number. -/
structure Numeral where
  negative : Bool
  whole : List Char
  fraction : List Char := []
  exponent : Option Int := none

namespace Numeral

/-- A minus sign or nothing. -/
def signChars (negative : Bool) : List Char :=
  if negative then ['-'] else []

/-- A point and digits, or nothing. -/
def fractionChars : List Char → List Char
  | [] => []
  | d :: ds => '.' :: d :: ds

/-- An exponent or nothing. -/
def exponentChars : Option Int → List Char
  | none => []
  | some x => 'e' :: (signChars (x < 0) ++ Nat.toDigits 10 x.natAbs)

/-- The characters of a numeral without its sign. -/
def body (t : Numeral) : List Char :=
  t.whole ++ (fractionChars t.fraction ++ exponentChars t.exponent)

/-- The characters of a numeral. -/
def chars (t : Numeral) : List Char :=
  signChars t.negative ++ t.body

/-- The digits are plain ones, and no zeros stand in front. -/
structure IsWritten (t : Numeral) : Prop where
  ne_nil : t.whole ≠ []
  plain : IsPlain t.whole
  leading : t.whole.head? = some '0' → t.whole = ['0']
  fraction : IsPlain t.fraction

/-- The double that a numeral stands for. -/
def toBinary64 (t : Numeral) : Binary64 :=
  .ofScientific t.negative (digitsValue (t.whole ++ t.fraction))
    (t.exponent.getD 0 - t.fraction.length)

section Reading

variable {t : Numeral} {ds rest : List Char} {x : Option Int}

/-- A written numeral without its sign begins with a digit. -/
theorem IsWritten.exists_head (h : t.IsWritten) :
    ∃ d cs, t.body = d :: cs ∧ d.isDigit = true := by
  rcases hw : t.whole with _ | ⟨d, ds⟩
  · exact absurd hw h.ne_nil
  · refine ⟨d, _, by rw [body, hw]; rfl, ?_⟩
    have hplain := h.plain
    rw [hw] at hplain
    exact hplain.head

theorem isDigit_head_exponentChars (hrest : Json.Ends rest) :
    ∀ c ∈ (exponentChars x ++ rest).head?, Json.isDigit c = false ∧ c ≠ '.' := by
  cases x with
  | none => exact fun c hc => ⟨(hrest c hc).1, (hrest c hc).2.1⟩
  | some x =>
      intro c hc
      obtain rfl : 'e' = c := Option.some.inj hc
      decide

theorem isDigit_head_fractionChars (hrest : Json.Ends rest) :
    ∀ c ∈ (fractionChars ds ++ (exponentChars x ++ rest)).head?, Json.isDigit c = false := by
  cases ds with
  | nil => exact fun c hc => (isDigit_head_exponentChars hrest c hc).1
  | cons d ds =>
      intro c hc
      obtain rfl : '.' = c := Option.some.inj hc
      decide

theorem fractionChars_of_ne_nil (h : ds ≠ []) : fractionChars ds = '.' :: ds := by
  cases ds with
  | nil => exact absurd rfl h
  | cons d ds => rfl

theorem takeMinus_append {d : Char} {cs : List Char} (negative : Bool) (hd : d.isDigit = true) :
    Json.takeMinus (signChars negative ++ d :: cs) = (signChars negative, d :: cs) := by
  cases negative with
  | true => rfl
  | false =>
      have hne : d ≠ '-' := ne_of_isDigit hd (by decide)
      rw [signChars, if_neg Bool.false_ne_true, List.nil_append, Json.takeMinus.eq_def]
      split
      · rename_i heq
        exact absurd (List.cons.inj heq).1 hne
      · rfl

theorem takeWhole?_append (h : t.IsWritten)
    (hrest : ∀ c ∈ rest.head?, Json.isDigit c = false) :
    Json.takeWhole? (t.whole ++ rest) = some (t.whole, rest) := by
  rw [Json.takeWhole?.eq_def]
  -- The reader looks at a leading zero first: with one, the whole part is that digit alone.
  split
  · rename_i cs heq
    have hzero : t.whole = ['0'] := by
      refine h.leading ?_
      rw [← List.head?_append_of_ne_nil _ h.ne_nil, heq]
      rfl
    rw [hzero] at heq ⊢
    rw [← (List.cons.inj heq).2]
    rfl
  -- Otherwise all digits are taken, and there is at least one.
  · rw [Json.takeDigits_append h.plain hrest]
    split
    · rename_i heq
      exact absurd (Prod.mk.inj heq).1 h.ne_nil
    · rfl

theorem takeFraction_append (hds : IsPlain ds)
    (hrest : ∀ c ∈ rest.head?, Json.isDigit c = false ∧ c ≠ '.') :
    Json.takeFraction (fractionChars ds ++ rest) = (fractionChars ds, rest) := by
  cases ds with
  | nil =>
      rw [fractionChars, List.nil_append, Json.takeFraction.eq_def]
      split
      · exact absurd rfl (hrest '.' rfl).2
      · rfl
  | cons d ds =>
      have hread : Json.takeDigits (d :: (ds ++ rest)) = (d :: ds, rest) :=
        Json.takeDigits_append hds fun c hc => (hrest c hc).1
      rw [fractionChars, List.cons_append, List.cons_append, Json.takeFraction, hread]

-- The sign is what of the first character is one; the digits come behind it.
theorem takeExponent_cons {cs sign ds : List Char} {d : Char}
    (hsign : ((cs.take 1).filter fun c => c = '+' || c = '-') = sign)
    (hdigits : Json.takeDigits (cs.drop sign.length) = (d :: ds, rest)) :
    Json.takeExponent ('e' :: cs) = ('e' :: (sign ++ d :: ds), rest) := by
  rw [Json.takeExponent, if_pos (Or.inl rfl)]
  dsimp only
  rw [hsign, hdigits]

theorem takeExponent_append (hrest : Json.Ends rest) :
    Json.takeExponent (exponentChars x ++ rest) = (exponentChars x, rest) := by
  -- Without an exponent nothing is taken: what follows neither
  -- continues the number nor starts an exponent.
  cases x with
  | none =>
      rcases rest with _ | ⟨c, rest⟩
      · rfl
      · have hc := hrest c rfl
        rw [exponentChars, List.nil_append, Json.takeExponent, if_neg (by tauto)]
  | some x =>
      have hdigits := Json.takeDigits_append (.toDigits x.natAbs) fun c hc => (hrest c hc).1
      rcases hds : Nat.toDigits 10 x.natAbs with _ | ⟨d, ds⟩
      · exact absurd hds Nat.toDigits_ne_nil
      · rw [hds] at hdigits
        have hd : d.isDigit = true := by
          have := IsPlain.toDigits x.natAbs
          rw [hds] at this
          exact this.head
        -- The first character behind the `e` is a digit, so it cannot be taken for a sign.
        have hplus : d ≠ '+' := ne_of_isDigit hd (by decide)
        have hminus : d ≠ '-' := ne_of_isDigit hd (by decide)
        rw [exponentChars, hds, List.cons_append]
        by_cases hx : x < 0
        · have hsign : signChars (x < 0) = ['-'] := by rw [decide_eq_true hx]; rfl
          rw [hsign]
          exact takeExponent_cons rfl hdigits
        · have hsign : signChars (x < 0) = [] := by rw [decide_eq_false hx]; rfl
          have hnone : ([d].filter fun c => c = '+' || c = '-') = [] := by
            rw [List.filter_cons_of_neg (by simp [hplus, hminus]), List.filter_nil]
          rw [hsign]
          exact takeExponent_cons hnone hdigits

/-- Every character of a numeral is a digit or one of few others. -/
theorem isBlank_of_mem_chars (h : t.IsWritten) : ∀ c ∈ t.chars, isBlank c = false := by
  -- The characters of a numeral are signs, digits, a point and the letter of the exponent; each
  -- piece is without blanks on its own.
  have hsign (negative : Bool) : ∀ c ∈ signChars negative, isBlank c = false := by
    cases negative with
    | false => exact fun c hc => absurd hc List.not_mem_nil
    | true =>
        intro c hc
        rw [List.mem_singleton.mp hc]
        decide
  have hplain {cs : List Char} (hcs : IsPlain cs) : ∀ c ∈ cs, isBlank c = false :=
    fun c hc => isBlank_of_isDigit (hcs c hc)
  have happend {as bs : List Char} (ha : ∀ c ∈ as, isBlank c = false)
      (hb : ∀ c ∈ bs, isBlank c = false) : ∀ c ∈ as ++ bs, isBlank c = false :=
    fun c hc => (List.mem_append.mp hc).elim (ha c) (hb c)
  have hcons {a : Char} {bs : List Char} (ha : isBlank a = false)
      (hb : ∀ c ∈ bs, isBlank c = false) : ∀ c ∈ a :: bs, isBlank c = false :=
    List.forall_mem_cons.mpr ⟨ha, hb⟩
  refine happend (hsign _) (happend (hplain h.plain) (happend ?_ ?_))
  · rcases hf : t.fraction with _ | ⟨d, ds⟩
    · exact fun c hc => absurd hc List.not_mem_nil
    · have hfraction := h.fraction
      rw [hf] at hfraction
      exact hcons (by decide) (hplain hfraction)
  · cases t.exponent with
    | none => exact fun c hc => absurd hc List.not_mem_nil
    | some x => exact hcons (by decide) (happend (hsign _) (hplain (.toDigits _)))

theorem stripChars_eq_self {p : Char → Bool} {cs : List Char} (h : ∀ c ∈ cs, p c = false) :
    stripChars p cs = cs := by
  have hdrop {cs : List Char} (h : ∀ c ∈ cs, p c = false) : cs.dropWhile p = cs := by
    rcases cs with _ | ⟨c, cs⟩
    · rfl
    · exact List.dropWhile_cons_of_neg (by rw [h c List.mem_cons_self]; decide)
  rw [stripChars, hdrop h, dropEndWhile, hdrop fun c hc => h c (List.mem_reverse.mp hc),
    List.reverse_reverse]

theorem trimChars_eq_self {cs : List Char} (h : ∀ c ∈ cs, isBlank c = false) :
    trimChars cs = cs :=
  stripChars_eq_self h

/-- A text without blanks is not trimmed. -/
theorem trim_eq_self {s : String} (h : ∀ c ∈ s.toList, isBlank c = false) : trim s = s := by
  rw [trim, trimChars_eq_self h, String.ofList_toList]

theorem takeSign_append {d : Char} {cs : List Char} (negative : Bool) (hd : d.isDigit = true) :
    takeSign (signChars negative ++ d :: cs) = (negative, d :: cs) := by
  cases negative with
  | true => rfl
  | false =>
      rw [signChars, if_neg Bool.false_ne_true, List.nil_append, takeSign.eq_def]
      split
      · rename_i heq
        exact absurd (List.cons.inj heq).1 (ne_of_isDigit hd (by decide))
      · rename_i heq
        exact absurd (List.cons.inj heq).1 (ne_of_isDigit hd (by decide))
      · rfl

theorem isDecimal_head_exponentChars :
    ∀ c ∈ (exponentChars x).head?, isDecimal c = false ∧ c ≠ '_' ∧ c ≠ '.' := by
  cases x with
  | none => exact fun c hc => absurd hc (Option.not_mem_none c)
  | some x =>
      intro c hc
      obtain rfl : 'e' = c := Option.some.inj hc
      decide

/-- Digits with a point among them, and how many of them are behind it. -/
theorem takeFixed?_append {whole fraction : List Char} (hne : whole ≠ []) (hwhole : IsPlain whole)
    (hfraction : IsPlain fraction)
    (hrest : ∀ c ∈ rest.head?, isDecimal c = false ∧ c ≠ '_' ∧ c ≠ '.') :
    takeFixed? (whole ++ (fractionChars fraction ++ rest)) =
      some (whole ++ fraction, fraction.length, rest) := by
  have hempty : whole.isEmpty = false := by
    rw [List.isEmpty_eq_false_iff]
    exact hne
  have hends : ∀ c ∈ rest.head?, isDecimal c = false ∧ c ≠ '_' := fun c hc =>
    ⟨(hrest c hc).1, (hrest c hc).2.1⟩
  -- By the fraction: without one there is no point to pass.
  rcases fraction with _ | ⟨d, ds⟩
  · rw [takeFixed?, fractionChars, List.nil_append, takeDigits_append hwhole hends]
    dsimp only
    -- What follows the digits is no point.
    split
    · exact absurd rfl (hrest '.' rfl).2.2
    · simp only [hempty, Bool.false_eq_true, if_false, List.append_nil, List.length_nil]
  -- Behind the point the digits are taken a second time.
  · have hdigits : takeDigits (d :: ds ++ rest) = (d :: ds, rest) :=
      takeDigits_append hfraction hends
    rw [takeFixed?, fractionChars, List.cons_append, takeDigits_append hwhole]
    · simp only [hdigits, hempty, Bool.false_and, Bool.false_eq_true, if_false]
    · intro c hc
      obtain rfl : '.' = c := Option.some.inj hc
      decide

/-- The digits of a numeral and how many of them are behind the point. -/
theorem takeFixed?_body (h : t.IsWritten) : takeFixed? t.body =
    some (t.whole ++ t.fraction, t.fraction.length, exponentChars t.exponent) :=
  takeFixed?_append h.ne_nil h.plain h.fraction isDecimal_head_exponentChars

/-- An exponent is a letter, a sign and digits. -/
theorem readExponent?_cons {c : Char} {cs : List Char} (hc : c = 'e' ∨ c = 'E') {negative : Bool}
    {n : Nat} (hcs : takeSign cs = (negative, Nat.toDigits 10 n)) :
    readExponent? (c :: cs) = some (withSign negative n) := by
  have hletter : (c == 'e' || c == 'E') = true := by
    rw [Bool.or_eq_true, beq_iff_eq, beq_iff_eq]
    exact hc
  have hdigits : takeDigits (Nat.toDigits 10 n ++ []) = (Nat.toDigits 10 n, []) :=
    takeDigits_append (.toDigits n) fun c hc => absurd hc (Option.not_mem_none c)
  have hvalue := digitsValue_toDigits n
  rw [List.append_nil] at hdigits
  rw [readExponent?, if_pos hletter, hcs]
  rcases hds : Nat.toDigits 10 n with _ | ⟨d, ds⟩
  · exact absurd hds Nat.toDigits_ne_nil
  · rw [hds] at hdigits hvalue
    simp only [hdigits, hvalue]

/-- The digits of a number have no sign in front. -/
theorem takeSign_toDigits (negative : Bool) (n : Nat) :
    takeSign (signChars negative ++ Nat.toDigits 10 n) = (negative, Nat.toDigits 10 n) := by
  have hplain := IsPlain.toDigits n
  rcases hds : Nat.toDigits 10 n with _ | ⟨d, ds⟩
  · exact absurd hds Nat.toDigits_ne_nil
  · rw [hds] at hplain
    exact takeSign_append negative hplain.head

theorem readExponent?_exponentChars : readExponent? (exponentChars x) = some (x.getD 0) := by
  cases x with
  | none => rfl
  | some x =>
      rw [exponentChars, readExponent?_cons (.inl rfl) (takeSign_toDigits _ _), withSign_natAbs,
        Option.getD_some]

/-- A numeral is read as the double it stands for. -/
theorem readBinary64?_chars (h : t.IsWritten) :
    readBinary64? (String.ofList t.chars) = some t.toBinary64 := by
  obtain ⟨d, cs, hbody, hd⟩ := h.exists_head
  -- A sign is taken first; the body of a numeral begins with a digit.
  have hsign : takeSign t.chars = (t.negative, t.body) := by
    rw [chars, hbody, takeSign_append _ hd]
  have hlower : lowerChars t.body = d :: lowerChars cs := by
    rw [hbody, lowerChars, List.flatMap_cons, lowerChar_of_isDigit hd]
    rfl
  -- A text that begins with a digit is none of the words.
  have hword {word : String} {w : Char} {ws : List Char} (hw : word.toList = w :: ws)
      (hne : w.isDigit = false) : String.ofList (lowerChars t.body) ≠ word := by
    intro heq
    have hlist := congrArg String.toList heq
    rw [String.toList_ofList, hlower, hw] at hlist
    exact ne_of_isDigit hd hne (List.cons.inj hlist).1
  rw [readBinary64?, String.toList_ofList, trimChars_eq_self (isBlank_of_mem_chars h), hsign]
  dsimp only
  split
  · rename_i heq
    exact absurd heq (hword (w := 'i') rfl (by decide))
  · rename_i heq
    exact absurd heq (hword (w := 'i') rfl (by decide))
  · rename_i heq
    exact absurd heq (hword (w := 'n') rfl (by decide))
  -- What is left is the reading of a number with an exponent, piece by piece.
  · rw [readScientific?, takeFixed?_body h]
    show (Option.map _ ((readExponent? (exponentChars t.exponent)).bind _)) = _
    rw [readExponent?_exponentChars]
    rfl

/-- A numeral without fraction and exponent is read as an integer. -/
theorem readIntChars?_chars (h : t.IsWritten) (hf : t.fraction = []) (hx : t.exponent = none) :
    readIntChars? t.chars = if maxDigits < t.whole.length then none
      else some (withSign t.negative (digitsValue t.whole)) := by
  have hbody : t.body = t.whole := by
    rw [body, hf, hx, fractionChars, exponentChars, List.append_nil, List.append_nil]
  obtain ⟨d, cs, hcons, hd⟩ := h.exists_head
  rw [hbody] at hcons
  have hdigits : takeDigits (t.whole ++ []) = (t.whole, []) :=
    takeDigits_append h.plain fun c hc => absurd hc (Option.not_mem_none c)
  rw [List.append_nil, hcons] at hdigits
  rw [readIntChars?, trimChars_eq_self (isBlank_of_mem_chars h), chars, hbody, hcons,
    takeSign_append _ hd]
  simp only [hdigits, List.length_cons]

theorem takeMinus_chars (h : t.IsWritten) (rest : List Char) :
    Json.takeMinus (t.chars ++ rest) = (signChars t.negative, t.body ++ rest) := by
  obtain ⟨d, cs, hbody, hd⟩ := h.exists_head
  rw [chars, List.append_assoc, hbody, List.cons_append, takeMinus_append _ hd]

theorem takeWhole?_body (h : t.IsWritten) (hrest : Json.Ends rest) :
    Json.takeWhole? (t.body ++ rest) =
      some (t.whole, fractionChars t.fraction ++ (exponentChars t.exponent ++ rest)) := by
  rw [body, List.append_assoc, List.append_assoc,
    takeWhole?_append h (isDigit_head_fractionChars hrest)]

/-- A numeral without fraction and exponent is read as an integer. -/
theorem readNumber_whole (h : t.IsWritten) (hf : t.fraction = []) (hx : t.exponent = none)
    (hlength : t.whole.length ≤ maxDigits) (hrest : Json.Ends rest) :
    Json.readNumber (t.chars ++ rest) =
      .ok (.int (withSign t.negative (digitsValue t.whole)), rest) := by
  have hchars : signChars t.negative ++ t.whole = t.chars := by
    rw [chars, body, hf, hx, fractionChars, exponentChars, List.append_nil, List.append_nil]
  -- Without fraction and exponent the characters are those of a whole
  -- number, within the limit of digits.
  have hint : readIntChars? (signChars t.negative ++ t.whole) =
      some (withSign t.negative (digitsValue t.whole)) := by
    rw [hchars, readIntChars?_chars h hf hx, if_neg (by omega)]
  have hnone : ((fractionChars t.fraction).isEmpty && (exponentChars t.exponent).isEmpty) =
      true := by
    rw [hf, hx]
    rfl
  rw [Json.readNumber, takeMinus_chars h]
  simp only [takeWhole?_body h hrest,
    takeFraction_append h.fraction (isDigit_head_exponentChars hrest), takeExponent_append hrest,
    hnone, if_true, hint]

/-- A numeral with a fraction or an exponent is read as a double. -/
theorem readNumber_real (h : t.IsWritten) (hreal : t.fraction ≠ [] ∨ t.exponent ≠ none)
    (hrest : Json.Ends rest) :
    Json.readNumber (t.chars ++ rest) = .ok (.float t.toBinary64, rest) := by
  have hchars : signChars t.negative ++ t.whole ++ fractionChars t.fraction ++
      exponentChars t.exponent = t.chars := by
    rw [chars, body, List.append_assoc, List.append_assoc]
  -- One of the two pieces is written, which is how the reader tells a float from a whole number.
  have hsome : ((fractionChars t.fraction).isEmpty && (exponentChars t.exponent).isEmpty) =
      false := by
    rcases hreal with hreal | hreal
    · cases hds : t.fraction with
      | nil => exact absurd hds hreal
      | cons d ds => rfl
    · cases hx : t.exponent with
      | none => exact absurd hx hreal
      | some x => exact Bool.and_false _
  rw [Json.readNumber, takeMinus_chars h]
  simp only [takeWhole?_body h hrest,
    takeFraction_append h.fraction (isDigit_head_exponentChars hrest), takeExponent_append hrest,
    hsome, Bool.false_eq_true, if_false, hchars, readBinary64?_chars h]

end Reading

/-- The numeral writes `n · 10 ^ k` as a double. -/
structure Writes (t : Numeral) (n : Nat) (k : Int) : Prop where
  written : t.IsWritten
  real : t.fraction ≠ [] ∨ t.exponent ≠ none
  value : (digitsValue (t.whole ++ t.fraction) : ℚ) * 10 ^ (t.exponent.getD 0 - t.fraction.length) =
    n * 10 ^ k

/-- A numeral that writes a number near a double stands for it. -/
theorem Writes.toBinary64_eq {t : Numeral} {n m : Nat} {k e : Int} (h : t.Writes n k) (hn : 0 < n)
    (hfits : Binary64.Fits m e) (hm : 0 < m) (hnear : Binary64.Near m e (n * 10 ^ k)) :
    t.toBinary64 = .finite t.negative m e := by
  have hpos : 0 < digitsValue (t.whole ++ t.fraction) := by
    refine Nat.pos_of_ne_zero fun hzero => ?_
    have hvalue := h.value
    rw [hzero, Nat.cast_zero, zero_mul] at hvalue
    have hright : (0 : ℚ) < n * 10 ^ k :=
      mul_pos (by exact_mod_cast hn) (Binary64.zpow_ten_pos k)
    exact absurd hvalue hright.ne
  rw [← h.value] at hnear
  exact Binary64.ofScientific_eq_finite t.negative hfits hm hpos hnear

section Shapes

variable {n : Nat}

theorem body_eq (negative : Bool) (whole : List Char) {fraction : List Char} (h : fraction ≠ []) :
    body ⟨negative, whole, fraction, none⟩ = whole ++ '.' :: fraction := by
  rw [body, exponentChars, List.append_nil, fractionChars_of_ne_nil h]

variable {whole fraction ds : List Char}

/-- Digits behind the point. -/
theorem writes_behind (negative : Bool) (hds : IsPlain ds) (hne : ds ≠ []) (j : Nat) :
    Writes ⟨negative, ['0'], List.replicate j '0' ++ ds, none⟩ (digitsValue ds)
      (-((j : Int) + ds.length)) := by
  have hfraction := (IsPlain.zeros j).append hds
  have hdigits : digitsValue (['0'] ++ (List.replicate j '0' ++ ds)) = digitsValue ds := by
    rw [← List.replicate_one, digitsValue_zeros_append hfraction, digitsValue_zeros_append hds]
  refine ⟨⟨List.cons_ne_nil _ _, .zeros 1, fun _ => rfl, hfraction⟩, Or.inl ?_, ?_⟩
  · exact List.append_ne_nil_of_right_ne_nil _ hne
  · show ((digitsValue _ : Nat) : ℚ) * _ = _
    rw [hdigits, Option.getD_none, List.length_append, List.length_replicate]
    congr 2
    omega

/-- Digits before the point. -/
theorem writes_before (negative : Bool) (hds : IsPlain ds) (hne : ds ≠ [])
    (hhead : ds.head? ≠ some '0') (j : Nat) :
    Writes ⟨negative, ds ++ List.replicate j '0', ['0'], none⟩ (digitsValue ds) j := by
  -- The zeros behind the digits multiply them by a power of ten.
  have hdigits : digitsValue (ds ++ List.replicate j '0' ++ ['0']) =
      digitsValue ds * 10 ^ (j + 1) := by
    rw [← List.replicate_one, List.append_assoc, List.replicate_append_replicate,
      digitsValue_append_zeros hds]
  refine ⟨⟨List.append_ne_nil_of_left_ne_nil hne _, hds.append (.zeros j), fun h => ?_, .zeros 1⟩,
    Or.inl (List.cons_ne_nil _ _), ?_⟩
  · rw [List.head?_append_of_ne_nil _ hne] at h
    exact absurd h hhead
  -- The value is unchanged: the power above is taken back by the place of the point.
  · show ((digitsValue _ : Nat) : ℚ) * _ = _
    rw [hdigits, Option.getD_none, List.length_singleton, zpow_natCast]
    push_cast
    rw [zpow_neg_one, pow_succ]
    field_simp

/-- Digits with the point among them. -/
theorem writes_among (negative : Bool) (hwhole : IsPlain whole) (hfraction : IsPlain fraction)
    (hne : whole ≠ []) (hhead : whole.head? ≠ some '0') (hreal : fraction ≠ []) :
    Writes ⟨negative, whole, fraction, none⟩ (digitsValue (whole ++ fraction))
      (-(fraction.length : Int)) := by
  refine ⟨⟨hne, hwhole, fun h => absurd h hhead, hfraction⟩, Or.inl hreal, ?_⟩
  show ((digitsValue _ : Nat) : ℚ) * _ = _
  rw [Option.getD_none, zero_sub]

/-- Digits written with a point. -/
theorem exists_writes_positional (negative : Bool) (hn : 0 < n) (k : Int) :
    ∃ t : Numeral, t.Writes n k ∧ t.negative = negative ∧
      t.body = (Binary64.positional n k).toList := by
  have hplain := IsPlain.toDigits n
  have hvalue := digitsValue_toDigits n
  have hhead := head_toDigits_ne_zero hn
  have hne : Nat.toDigits 10 n ≠ [] := Nat.toDigits_ne_nil
  rw [Binary64.positional, String.toList_ofList]
  dsimp only
  -- Only these four facts about the digits matter from here on.
  generalize Nat.toDigits 10 n = ds at hplain hvalue hhead hne ⊢
  rw [← hvalue]
  have hlength : 0 < ds.length := List.length_pos_iff.mpr hne
  -- The point stands before the digits, behind them, or among them.
  by_cases hplace : (ds.length : Int) + k ≤ 0
  · rw [if_pos hplace]
    have hwrites := writes_behind negative hplain hne (-((ds.length : Int) + k)).toNat
    rw [show -(((-((ds.length : Int) + k)).toNat : Int) + ds.length) = k by omega] at hwrites
    exact ⟨_, hwrites, rfl, body_eq negative _ (List.append_ne_nil_of_right_ne_nil _ hne)⟩
  rw [if_neg hplace]
  by_cases hk : 0 ≤ k
  · rw [if_pos hk]
    have hwrites := writes_before negative hplain hne hhead k.toNat
    rw [Int.toNat_of_nonneg hk] at hwrites
    exact ⟨_, hwrites, rfl, body_eq negative _ (List.cons_ne_nil _ _)⟩
  · rw [if_neg hk]
    -- The digits are cut at the point, into two pieces that both hold some.
    have hsplit : ds.take ((ds.length : Int) + k).toNat ++ ds.drop ((ds.length : Int) + k).toNat =
        ds := List.take_append_drop _ ds
    have hdrop : (ds.drop ((ds.length : Int) + k).toNat).length = (-k).toNat := by
      rw [List.length_drop]
      omega
    have hwhole : ds.take ((ds.length : Int) + k).toNat ≠ [] := by
      rw [← List.length_pos_iff, List.length_take]
      omega
    have hfraction : ds.drop ((ds.length : Int) + k).toNat ≠ [] := by
      rw [← List.length_pos_iff, hdrop]
      omega
    rw [← hsplit, List.head?_append_of_ne_nil _ hwhole] at hhead
    have hwrites := writes_among negative (hplain.take _) (hplain.drop _) hwhole hhead hfraction
    rw [hsplit, hdrop, show -((-k).toNat : Int) = k by omega] at hwrites
    exact ⟨_, hwrites, rfl, body_eq negative _ hfraction⟩

/-- Digits written with an exponent. -/
theorem exists_writes_scientific (negative : Bool) (hn : 0 < n) (k : Int) :
    ∃ t : Numeral, t.Writes n k ∧ t.negative = negative ∧
      t.body = (Binary64.scientific Binary64.wireStyle n k).toList := by
  have hplain := IsPlain.toDigits n
  have hvalue := digitsValue_toDigits n
  have hhead := head_toDigits_ne_zero hn
  -- The first digit stands before the point, the others behind it.
  rcases hds : Nat.toDigits 10 n with _ | ⟨d, ds⟩
  · exact absurd hds Nat.toDigits_ne_nil
  · rw [hds] at hplain hvalue hhead
    refine ⟨⟨negative, [d], ds, some (k + ds.length)⟩,
      ⟨⟨List.cons_ne_nil _ _, fun c hc => ?_, fun h => absurd h hhead, hplain.tail⟩,
        Or.inr (Option.some_ne_none _), ?_⟩, rfl, ?_⟩
    · rw [List.mem_singleton.mp hc]
      exact hplain.head
    · show ((digitsValue (d :: ds) : Nat) : ℚ) * _ = _
      rw [hvalue, Option.getD_some, add_sub_cancel_right]
    -- The exponent is not padded in the style of the wire.
    · have hwidth : 1 - (Nat.toDigits 10 (k + ds.length).natAbs).length = 0 := by
        have : 0 < (Nat.toDigits 10 (k + ds.length).natAbs).length := Nat.length_toDigits_pos
        omega
      have hsign : (if k + ds.length < 0 then "-" else "").toList =
          signChars (decide (k + (ds.length : Int) < 0)) := by
        by_cases hx : k + (ds.length : Int) < 0
        · rw [if_pos hx, decide_eq_true hx]
          rfl
        · rw [if_neg hx, decide_eq_false hx]
          rfl
      rw [Binary64.scientific, hds]
      simp only [Binary64.exponentText, Binary64.wireStyle, hwidth, List.replicate_zero,
        List.nil_append, String.toList_append, String.toList_ofList, hsign]
      cases ds <;> rfl

end Shapes

end Numeral

namespace Json

open Numeral

variable {rest : List Char}

/-- The digits of an integer. -/
theorem toList_toString (n : Int) :
    (toString n).toList = signChars (n < 0) ++ Nat.toDigits 10 n.natAbs := by
  rw [Int.toString_eq_repr, Int.repr_eq_if]
  by_cases hn : 0 ≤ n
  · rw [if_pos hn, Nat.toList_repr, decide_eq_false (by omega), show n.toNat = n.natAbs by omega]
    rfl
  · rw [if_neg hn, String.toList_append, Nat.toList_repr, decide_eq_true (by omega),
      show (-n).toNat = n.natAbs by omega]
    rfl

/-- An integer as a numeral. -/
theorem exists_numeral_toString (n : Int) :
    ∃ t : Numeral, t.IsWritten ∧ t.chars = (toString n).toList ∧ t.fraction = [] ∧
      t.exponent = none ∧ t.whole = Nat.toDigits 10 n.natAbs ∧
      withSign t.negative (digitsValue t.whole) = n := by
  refine ⟨⟨n < 0, Nat.toDigits 10 n.natAbs, [], none⟩,
    ⟨Nat.toDigits_ne_nil, .toDigits _, fun h => ?_, .nil⟩, ?_, rfl, rfl, rfl, ?_⟩
  · rcases Nat.eq_zero_or_pos n.natAbs with hzero | hpos
    · rw [hzero]
      exact Nat.toDigits_zero 10
    · exact absurd h (head_toDigits_ne_zero hpos)
  · rw [toList_toString, chars, body, fractionChars, exponentChars, List.append_nil,
      List.append_nil]
  · rw [digitsValue_toDigits, withSign_natAbs]

/-- An integer that is not too long is read as itself. -/
theorem readNumber_toString {n : Int} (hn : n.natAbs < 10 ^ maxDigits) (hrest : Ends rest) :
    readNumber ((toString n).toList ++ rest) = .ok (.int n, rest) := by
  rcases exists_numeral_toString n with ⟨t, ht, hchars, hf, hx, hwhole, hvalue⟩
  have hlength : t.whole.length ≤ maxDigits := by
    rw [hwhole]
    exact (Nat.length_toDigits_le_iff (by decide) (by decide)).mpr hn
  rw [← hchars, readNumber_whole ht hf hx hlength hrest, hvalue]

/-- A finite double as a numeral. -/
theorem exists_numeral_write {x : Binary64} (hx : x.IsCanonical) :
    ∃ t : Numeral, t.IsWritten ∧ (t.fraction ≠ [] ∨ t.exponent ≠ none) ∧
      t.chars = (x.write Binary64.wireStyle).toList ∧ t.toBinary64 = x := by
  -- Only a finite float is canonical, which leaves the first case.
  rcases x with ⟨negative, m, e⟩ | _ | _
  · have hsign : (if negative then "-" else "").toList = signChars negative := by
      cases negative <;> rfl
    rw [Binary64.write, String.toList_append, hsign]
    -- Zero is written out; any other float is written by its shortest
    -- digits, positionally or with an exponent.
    by_cases hm : m = 0
    · have he : e = Binary64.minExponent := by
        rcases hx.full with hfull | he
        · omega
        · exact he
      refine ⟨⟨negative, ['0'], ['0'], none⟩,
        ⟨List.cons_ne_nil _ _, .zeros 1, fun _ => rfl, .zeros 1⟩,
        Or.inl (List.cons_ne_nil _ _), ?_, ?_⟩
      · rw [if_pos hm]
        rfl
      · rw [toBinary64, hm, he, Binary64.ofScientific]
        exact if_pos (Or.inl rfl)
    · rw [if_neg hm]
      rcases Binary64.near_shortest hx (Nat.pos_of_ne_zero hm) with ⟨hn, hnear⟩
      generalize Binary64.shortest m e = s at hn hnear
      rcases s with ⟨n, k⟩
      simp only at hn hnear ⊢
      split
      · rcases exists_writes_positional negative hn k with ⟨t, ht, hneg, hbody⟩
        refine ⟨t, ht.written, ht.real, by rw [chars, hneg, hbody], ?_⟩
        -- The digits are near enough to the float to be rounded back to it.
        rw [ht.toBinary64_eq hn hx (Nat.pos_of_ne_zero hm) hnear, hneg]
      · rcases exists_writes_scientific negative hn k with ⟨t, ht, hneg, hbody⟩
        refine ⟨t, ht.written, ht.real, by rw [chars, hneg, hbody], ?_⟩
        rw [ht.toBinary64_eq hn hx (Nat.pos_of_ne_zero hm) hnear, hneg]
  · exact absurd hx id
  · exact absurd hx id

/-- A finite double is read as itself. -/
theorem readNumber_write {x : Binary64} (hx : x.IsCanonical) (hrest : Ends rest) :
    readNumber ((x.write Binary64.wireStyle).toList ++ rest) = .ok (.float x, rest) := by
  rcases exists_numeral_write hx with ⟨t, ht, hreal, hchars, hvalue⟩
  rw [← hchars, readNumber_real ht hreal hrest, hvalue]

end Json

end Criteria
