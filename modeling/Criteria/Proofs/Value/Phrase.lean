import Criteria.Proofs.Calendar.Named
import Criteria.Value.Reading
import Mathlib.Algebra.BigOperators.Ring.Finset
import Mathlib.Data.List.DropRight
import Mathlib.Tactic.Ring

/-!
# Reading Intervals in Words

The length of time that is read of a phrase such as `1 day, 2 hours`.

Phrases come last among the forms of a length of time, before plain numbers. So that
they are read as phrases it has to be seen that they have none of the stricter forms: a
letter stands for a unit only at the end of a text, and a phrase has no colons. A phrase
of weeks alone, of which nothing is found, is no number either.

What is read is the sum over the components that are found, each counted by the digits
before its name (`Interval.Phrase.readDuration_text`). For whole numbers without weeks
this is the length that is meant. Otherwise another length is read and no error is
raised: what stands before a point is dropped, and so are weeks beside other units. And a
length beyond all durations is reported as such, not as a text that is no length.

## Main definitions

* `Interval.Phrase.text`: A phrase as a text.
* `Interval.Phrase.total`: The microseconds that are found in a phrase.
* `Interval.Phrase.IsLegible`: Something is found, and it can be read.
* `Interval.Phrase.IsReadWell`: A phrase is read as the length that is meant, or not at all.

## Theorems

* `Interval.readShorthand?_phrase`, `Interval.readColons?_eq_none`,
  `Interval.readBinary64?_weeks`: Forms that a phrase does not have.
* `Interval.Phrase.readDuration_text`: What is read of a phrase.
* `Interval.Phrase.not_isReadWell`: Phrases that are read otherwise than they are meant.
-/

namespace Criteria

namespace Interval

open Text Numeral

section Forms

variable {p : Phrase} {c : Component}

/-- What stands behind the first digits of a component is no digit. -/
theorem Component.IsWritten.isDecimal_head (h : c.IsWritten) (rest : List Char) :
    ∀ x ∈ (fractionChars c.fraction ++ (c.gap ++ (c.word ++ rest))).head?, isDecimal x = false := by
  rcases hfraction : c.fraction with _ | ⟨d, ds⟩
  · exact h.isDecimal_head_behind rest
  · rintro x ⟨⟩
    decide

/-- A letter for a unit would stand at the end, and there is more behind the digits. -/
theorem readShorthand?_component (h : c.IsWritten) (rest : List Char) :
    readShorthand? (c.chars ++ rest) = none := by
  -- A shorthand has one letter behind its number; here two characters follow at least, those of the
  -- fraction or of the unit's word.
  have hlong : ∃ x y zs,
      (fractionChars c.fraction ++ (c.gap ++ (c.word ++ rest))).dropWhile isBlank =
        x :: y :: zs := by
    rcases hfraction : c.fraction with _ | ⟨d, ds⟩
    · have hword : ∃ x y zs, c.word = x :: y :: zs := by
        rw [Component.word]
        cases c.unit <;> exact ⟨_, _, _, rfl⟩
      rcases hword with ⟨x, y, zs, hword⟩
      refine ⟨x, y, zs ++ rest, ?_⟩
      rw [fractionChars, List.nil_append, h.dropWhile_behind, hword]
      rfl
    · exact ⟨'.', d, ds ++ (c.gap ++ (c.word ++ rest)), rfl⟩
  rcases hlong with ⟨x, y, zs, hlong⟩
  rw [readShorthand?, Component.chars, List.append_assoc, List.append_assoc, List.append_assoc,
    digitRun_append h.whole (h.isDecimal_head rest)]
  dsimp only
  rw [hlong]
  split <;> rfl

theorem readShorthand?_phrase (h : p.IsWritten) : readShorthand? p.chars = none :=
  readShorthand?_component (h.written p.first List.mem_cons_self) _

theorem readColons?_eq_none {cs : List Char} (h : ':' ∉ cs) : readColons? cs = none := by
  have hpieces : readColons?.splitColons cs = [cs] := by
    refine List.splitOnP_eq_singleton fun x hx => ?_
    rw [beq_eq_false_iff_ne]
    rintro rfl
    exact h hx
  rw [readColons?, hpieces]

/-- What a component is made of. -/
theorem Component.IsWritten.cases_of_mem (h : c.IsWritten) {x : Char} (hx : x ∈ c.chars) :
    isDecimal x = true ∨ isBlank x = true ∨ x = '.' ∨ x ∈ c.word := by
  rw [Component.chars] at hx
  simp only [List.mem_append] at hx
  -- The character stands among the digits, in the fraction, in the gap or in the word.
  rcases hx with hx | hx | hx | hx
  · exact .inl (h.whole x hx)
  · rcases hfraction : c.fraction with _ | ⟨d, ds⟩
    · rw [hfraction] at hx
      exact absurd hx List.not_mem_nil
    · have hfrac := h.fraction
      rw [hfraction] at hx hfrac
      rcases List.mem_cons.mp hx with hpoint | hdigit
      · exact .inr (.inr (.inl hpoint))
      · exact .inl (hfrac x hdigit)
  · exact .inr (.inl (h.gap x hx))
  · exact .inr (.inr (.inr hx))

theorem Component.IsWritten.not_mem_colon (h : c.IsWritten) : ':' ∉ c.chars := by
  intro hmem
  rcases h.cases_of_mem hmem with hx | hx | hx | hx
  · exact absurd hx (by decide)
  · exact absurd hx (by decide)
  · exact absurd hx (by decide)
  · have hword (u : NamedUnit) (plural : Bool) : ':' ∉ u.word plural := by
      cases u <;> cases plural <;> decide
    exact hword _ _ hx

theorem readColons?_phrase (h : p.IsWritten) : readColons? p.chars = none := by
  have hwritten := h.written
  rw [Phrase.components, List.forall_mem_cons] at hwritten
  refine readColons?_eq_none fun hmem => ?_
  rw [Phrase.chars, Phrase.restChars, List.mem_append, List.mem_flatMap] at hmem
  rcases hmem with hmem | ⟨e, he, hmem⟩
  · exact hwritten.1.not_mem_colon hmem
  · rcases List.mem_append.mp hmem with hmem | hmem
    · rcases h.joints e he ':' hmem with hx | hx
      · exact absurd hx (by decide)
      · exact absurd hx (by decide)
    · exact (hwritten.2 e.2 (List.mem_map.mpr ⟨e, he, rfl⟩)).not_mem_colon hmem

/-- A phrase ends with the name of a unit. -/
theorem Phrase.exists_last (first : Component) (rest : List (List Char × Component)) :
    ∃ cs c, first.chars ++ restChars rest = cs ++ Component.word c := by
  induction rest generalizing first with
  | nil =>
      refine ⟨first.whole ++ (fractionChars first.fraction ++ first.gap), first, ?_⟩
      simp only [restChars, List.flatMap_nil, List.append_nil, Component.chars, List.append_assoc]
  | cons e rest ih =>
      rcases ih e.2 with ⟨cs, c, hlast⟩
      refine ⟨first.chars ++ (e.1 ++ cs), c, ?_⟩
      rw [restChars_cons, hlast]
      simp only [List.append_assoc]

/-- There are no blanks around a phrase. -/
theorem trimChars_phrase (h : p.IsWritten) : trimChars p.chars = p.chars := by
  -- A phrase begins with a digit and ends with the last letter of a unit.
  have hfirst : p.chars.dropWhile isBlank = p.chars := by
    have hwritten := h.written p.first List.mem_cons_self
    rcases hwhole : p.first.whole with _ | ⟨d, ds⟩
    · exact absurd hwhole hwritten.ne_nil
    · have hd := (decimal_spec (hwritten.whole d (hwhole ▸ List.mem_cons_self))).1
      rw [Phrase.chars, Component.chars, hwhole]
      exact List.dropWhile_cons_of_neg (by rw [hd]; exact Bool.false_ne_true)
  have hlast : p.chars.rdropWhile isBlank = p.chars := by
    rcases Phrase.exists_last p.first p.rest with ⟨cs, c, hchars⟩
    refine List.rdropWhile_eq_self_iff.mpr fun hne => ?_
    have hword : p.chars.getLast hne = c.word.getLast c.word_spec.1 := by
      simp only [Phrase.chars, hchars, List.getLast_append_of_ne_nil _ c.word_spec.1]
    rw [hword, (c.word_spec.2 _ (List.getLast_mem c.word_spec.1)).1]
    exact Bool.false_ne_true
  show (p.chars.dropWhile isBlank).rdropWhile isBlank = p.chars
  rw [hfirst, hlast]

section Weeks

variable (h : c.IsWritten) (hunit : c.unit = .week)

include h hunit

/-- Behind the digits of a number of weeks there is nothing that belongs to a number. -/
theorem head_behind_weeks : ∃ x xs, c.gap ++ c.word = x :: xs ∧ isDecimal x = false ∧
    x ≠ '_' ∧ x ≠ '.' ∧ (x == 'e' || x == 'E') = false := by
  -- Without a gap the word of the unit follows, with one a blank.
  rcases hgap : c.gap with _ | ⟨x, xs⟩
  · rw [Component.word, hunit]
    exact ⟨'w', _, rfl, by decide, by decide, by decide, by decide⟩
  · have hx := h.gap x (hgap ▸ List.mem_cons_self)
    refine ⟨x, _, rfl, isDecimal_of_isBlank hx, ?_, ?_, ?_⟩
    · rintro rfl
      exact absurd hx (by decide)
    · rintro rfl
      exact absurd hx (by decide)
    · rw [Bool.or_eq_false_iff, beq_eq_false_iff_ne, beq_eq_false_iff_ne]
      constructor
      · rintro rfl
        exact absurd hx (by decide)
      · rintro rfl
        exact absurd hx (by decide)

theorem readScientific?_weeks : readScientific? c.chars = none := by
  rcases head_behind_weeks h hunit with ⟨x, xs, hbehind, hdecimal, hgroup, hpoint, hexponent⟩
  have hends : ∀ y ∈ (x :: xs).head?, isDecimal y = false ∧ y ≠ '_' := by
    rintro y ⟨⟩
    exact ⟨hdecimal, hgroup⟩
  have hrest : readExponent? (x :: xs) = none := by
    rw [readExponent?, hexponent]
    rfl
  have hwhole : c.whole.isEmpty = false := List.isEmpty_eq_false_iff.mpr h.ne_nil
  -- The number in front is read; behind it stands no exponent and still something else.
  have hfixed : ∃ ds places, takeFixed? c.chars = some (ds, places, x :: xs) := by
    rw [Component.chars, hbehind]
    rcases hfraction : c.fraction with _ | ⟨d, ds⟩
    · rw [fractionChars, List.nil_append, takeFixed?, h.whole.takeDigits_append hends]
      dsimp only
      -- The readers differ by whether a point follows.
      split
      · rename_i heq
        exact absurd (List.cons.inj heq).1 hpoint
      · rw [hwhole]
        exact ⟨_, _, rfl⟩
    · have hds : IsDigits (d :: ds) := hfraction ▸ h.fraction
      have hdigits : takeDigits (d :: (ds ++ x :: xs)) = (d :: ds, x :: xs) :=
        hds.takeDigits_append hends
      rw [fractionChars, takeFixed?, List.cons_append, List.cons_append,
        h.whole.takeDigits_append (by rintro y ⟨⟩; decide)]
      simp only [hdigits, hwhole, Bool.false_and, Bool.false_eq_true, if_false]
      exact ⟨_, _, rfl⟩
  rcases hfixed with ⟨ds, places, hfixed⟩
  rw [readScientific?, hfixed]
  show (readExponent? (x :: xs)).bind _ = none
  rw [hrest]
  rfl

/-- A number of weeks is no plain number. -/
theorem readBinary64?_weeks (htrim : trimChars c.chars = c.chars) :
    readBinary64? (String.ofList c.chars) = none := by
  rcases hwhole : c.whole with _ | ⟨d, ds⟩
  · exact absurd hwhole h.ne_nil
  have hd : isDecimal d = true := h.whole d (hwhole ▸ List.mem_cons_self)
  have hchars : ∃ cs, c.chars = d :: cs := by
    rw [Component.chars, hwhole]
    exact ⟨_, rfl⟩
  rcases hchars with ⟨cs, hchars⟩
  -- A digit is no sign, and the words of floats begin with letters.
  have hsign : takeSign c.chars = (false, c.chars) := by
    rw [hchars, takeSign.eq_def]
    split
    · exact absurd (List.cons.inj (by assumption)).1 (ne_of_isDecimal hd (by decide))
    · exact absurd (List.cons.inj (by assumption)).1 (ne_of_isDecimal hd (by decide))
    · rfl
  have hword {word : String} {w : Char} {ws : List Char} (hword : word.toList = w :: ws)
      (hw : isDecimal w = false) : String.ofList (lowerChars c.chars) ≠ word := by
    intro hsame
    rw [← hsame, String.toList_ofList, hchars, lowerChars, List.flatMap_cons,
      lowerChar_of_isDecimal hd] at hword
    exact ne_of_isDecimal hd hw (List.cons.inj hword).1
  rw [readBinary64?, String.toList_ofList, htrim, hsign]
  dsimp only
  split
  · exact absurd (by assumption) (hword (by rfl) (by decide))
  · exact absurd (by assumption) (hword (by rfl) (by decide))
  · exact absurd (by assumption) (hword (by rfl) (by decide))
  · rw [readScientific?_weeks h hunit]
    rfl

end Weeks

end Forms

/-- Numbers of units add up, unless one of the numbers is too long. -/
theorem sumParts_eq_ok {parts : List (List Char × Nat)}
    (h : ∀ e ∈ parts, e.1.length ≤ maxDigits) :
    sumParts parts = .ok (parts.map fun e => digitsValue e.1 * e.2).sum := by
  induction parts with
  | nil => rfl
  | cons e parts ih =>
      rw [List.forall_mem_cons] at h
      have hrun : runValue e.1 = .ok (digitsValue e.1) := if_neg (Nat.not_lt.mpr h.1)
      rw [sumParts, hrun, ih h.2, List.map_cons, List.sum_cons]
      rfl

theorem sumParts_eq_error {parts : List (List Char × Nat)}
    (h : ∃ e ∈ parts, maxDigits < e.1.length) : sumParts parts = .error .unreadable := by
  -- Induction on the parts, of which the first one that is too long ends the sum.
  induction parts with
  | nil =>
      rcases h with ⟨e, he, -⟩
      exact absurd he List.not_mem_nil
  | cons e parts ih =>
      by_cases hlong : maxDigits < e.1.length
      · have hrun : runValue e.1 = .error .unreadable := if_pos hlong
        rw [sumParts, hrun]
        rfl
      · have hrun : runValue e.1 = .ok (digitsValue e.1) := if_neg hlong
        have hrest : sumParts parts = .error .unreadable := by
          refine ih ?_
          rcases h with ⟨x, hx, hxlong⟩
          rcases List.mem_cons.mp hx with rfl | hx
          · exact absurd hxlong hlong
          · exact ⟨x, hx, hxlong⟩
        rw [sumParts, hrun, hrest]
        rfl

/-- There are durations up to a number of days. -/
theorem ofMicros_eq (n : Nat) : ofMicros n =
    if n < (Duration.maxDays + 1) * dayMicros then .ok ⟨n⟩ else .error .overflow := by
  have hdays : -(Duration.maxDays : Int) ≤ (n : Int) / dayMicros ∧
      (n : Int) / dayMicros ≤ Duration.maxDays ↔ n < (Duration.maxDays + 1) * dayMicros := by
    simp only [Duration.maxDays, dayMicros]
    omega
  unfold ofMicros Duration.of?
  by_cases hn : n < (Duration.maxDays + 1) * dayMicros
  · rw [if_pos hn]
    dsimp only
    rw [if_pos (hdays.mpr hn)]
  · rw [if_neg hn]
    dsimp only
    rw [if_neg (mt hdays.mp hn)]

namespace Phrase

variable {p : Phrase}

/-- The phrase as a text. -/
def text (p : Phrase) : String :=
  String.ofList p.chars

/-- The microseconds that are found in the phrase. -/
def total (p : Phrase) : Nat :=
  (p.counted.map fun c => digitsValue c.lastRun * c.unit.micros).sum

/-- Something is found in the phrase, and none of its numbers is too long. -/
def IsLegible (p : Phrase) : Prop :=
  p.counted ≠ [] ∧ ∀ c ∈ p.counted, c.lastRun.length ≤ maxDigits

instance (p : Phrase) : Decidable p.IsLegible :=
  inferInstanceAs (Decidable (_ ∧ _))

/-- The phrase is read as the length that is meant, or as no length. -/
def IsReadWell (p : Phrase) : Prop :=
  (∃ r, Value.readDuration (.text p.text) = .error r ∧ r.cause = .unreadable) ∨
    ∃ d, Value.readDuration (.text p.text) = .ok d ∧ ((d.micros : Int) : ℚ) = p.length

/-- If nothing is found there are weeks and nothing else. -/
theorem eq_weeks_of_counted (h : p.IsWritten) (hnone : p.counted = []) :
    p.rest = [] ∧ p.first.unit = .week := by
  -- Every component that is no week is counted, so here all of them are weeks.
  have hweeks : ∀ c ∈ p.components, c.unit = .week := by
    intro c hc
    by_contra hunit
    have hmem : c ∈ p.counted := List.mem_filter.mpr ⟨hc, decide_eq_true hunit⟩
    rw [hnone] at hmem
    exact List.not_mem_nil hmem
  have hfirst := hweeks p.first List.mem_cons_self
  refine ⟨?_, hfirst⟩
  rcases hrest : p.rest with _ | ⟨e, rest⟩
  · rfl
  · -- Weeks behind weeks would be a smaller unit.
    have hmem : e.2 ∈ p.rest.map Prod.snd := List.mem_map.mpr ⟨e, hrest ▸ List.mem_cons_self, rfl⟩
    have hlt := (List.pairwise_cons.mp h.descending).1 e.2 hmem
    rw [hweeks e.2 (List.mem_cons_of_mem _ hmem), hfirst] at hlt
    exact absurd hlt (Nat.lt_irrefl _)

/-- Phrases are read by what is found of them. -/
theorem readInterval?_text (h : p.IsWritten) : readInterval? p.text =
    if p.counted = [] then none
    else some (do ofMicros (← sumParts (p.counted.map Component.part))) := by
  have htrim := trimChars_phrase h
  rw [readInterval?, text, String.toList_ofList, htrim]
  rw [readShorthand?_phrase h, readColons?_phrase h, namedParts_phrase h]
  rcases hcounted : p.counted with _ | ⟨c, cs⟩
  · rw [if_pos rfl, List.map_nil]
    rcases eq_weeks_of_counted h hcounted with ⟨hrest, hunit⟩
    have hchars : p.chars = p.first.chars := by
      rw [chars, hrest]
      exact List.append_nil _
    rw [hchars] at htrim ⊢
    rw [readBinary64?_weeks (h.written p.first List.mem_cons_self) hunit htrim]
  · rw [if_neg (List.cons_ne_nil c cs), List.map_cons]

theorem readDuration_eq (p : Phrase) : Value.readDuration (.text p.text) =
    match readInterval? p.text with
    | some r => unworded r
    | none => .error (.interval p.text) :=
  rfl

theorem readDuration_of_legible (h : p.IsWritten) (hlegible : p.IsLegible) :
    Value.readDuration (.text p.text) = unworded (ofMicros p.total) := by
  have hshort : ∀ e ∈ p.counted.map Component.part, e.1.length ≤ maxDigits :=
    List.forall_mem_map.mpr hlegible.2
  rw [readDuration_eq, readInterval?_text h, if_neg hlegible.1, sumParts_eq_ok hshort,
    List.map_map]
  rfl

theorem readDuration_of_not_legible (h : p.IsWritten) (hlegible : ¬p.IsLegible) :
    ∃ r, Value.readDuration (.text p.text) = .error r ∧ r.cause = .unreadable := by
  rw [readDuration_eq, readInterval?_text h]
  by_cases hcounted : p.counted = []
  · rw [if_pos hcounted]
    exact ⟨_, rfl, rfl⟩
  · have hlong : ∃ e ∈ p.counted.map Component.part, maxDigits < e.1.length := by
      by_contra hshort
      push Not at hshort
      exact hlegible ⟨hcounted, List.forall_mem_map.mp hshort⟩
    rw [if_neg hcounted, sumParts_eq_error hlong]
    exact ⟨_, rfl, rfl⟩

/-- Of whole numbers without weeks everything is found. -/
theorem total_eq_length (hwhole : ∀ c ∈ p.components, c.fraction = [])
    (hweek : ∀ c ∈ p.components, c.unit ≠ .week) : (p.total : ℚ) = p.length := by
  have hcounted : p.counted = p.components :=
    List.filter_eq_self.mpr fun c hc => decide_eq_true (hweek c hc)
  have hlength : ∀ c ∈ p.components,
      ((digitsValue c.lastRun * c.unit.micros : Nat) : ℚ) = c.length := by
    intro c hc
    have hdigits : digitsValue ([] : List Char) = 0 := rfl
    rw [Component.lastRun, if_pos (hwhole c hc), Component.length, hwhole c hc, hdigits]
    push_cast
    ring
  rw [total, hcounted, Nat.cast_list_sum, List.map_map, length]
  exact congrArg List.sum (List.map_congr_left hlength)

/-- What is found has to be what is meant. -/
theorem isReadWell_iff_of_legible (h : p.IsWritten) (hlegible : p.IsLegible) : p.IsReadWell ↔
    p.total < (Duration.maxDays + 1) * dayMicros ∧ (p.total : ℚ) = p.length := by
  rw [IsReadWell, readDuration_of_legible h hlegible, ofMicros_eq]
  by_cases hin : p.total < (Duration.maxDays + 1) * dayMicros
  · rw [if_pos hin]
    -- Inside the range the sum is what is read, and the question is whether it is the length.
    constructor
    · rintro (⟨r, hr, -⟩ | ⟨d, hd, hmicros⟩)
      · exact nomatch hr
      · obtain rfl := Except.ok.inj hd
        exact ⟨hin, by exact_mod_cast hmicros⟩
    · intro hmeant
      exact .inr ⟨_, rfl, by exact_mod_cast hmeant.2⟩
  · rw [if_neg hin]
    -- Outside it the reading ends in the overflow of a duration, which a good reading excludes.
    constructor
    · rintro (⟨r, hr, hcause⟩ | ⟨d, hd, -⟩)
      · obtain rfl := Except.error.inj hr
        exact nomatch hcause
      · exact nomatch hd
    · intro hmeant
      exact absurd hmeant.1 hin

/-- What is read of a phrase: nothing if nothing is found or a number is too long, and else
    the sum over what is found. It is read well exactly if this sum is the length that is
    meant and no more than the longest duration; of whole numbers without weeks it is the
    length that is meant. -/
theorem readDuration_text (h : p.IsWritten) :
    (¬p.IsLegible → ∃ r, Value.readDuration (.text p.text) = .error r ∧ r.cause = .unreadable) ∧
    (p.IsLegible → Value.readDuration (.text p.text) = unworded (ofMicros p.total)) ∧
    (p.IsReadWell ↔ (p.IsLegible →
      p.total < (Duration.maxDays + 1) * dayMicros ∧ (p.total : ℚ) = p.length)) ∧
    ((∀ c ∈ p.components, c.fraction = [] ∧ c.unit ≠ .week) → (p.total : ℚ) = p.length) := by
  refine ⟨readDuration_of_not_legible h, readDuration_of_legible h, ?_, fun hplain =>
    total_eq_length (fun c hc => (hplain c hc).1) fun c hc => (hplain c hc).2⟩
  by_cases hlegible : p.IsLegible
  · rw [isReadWell_iff_of_legible h hlegible]
    exact ⟨fun hmeant _ => hmeant, fun hmeant => hmeant hlegible⟩
  · exact iff_of_true (.inl (readDuration_of_not_legible h hlegible)) fun hl => absurd hl hlegible

/-- One day, two hours and thirty minutes. -/
def dayTrip : Phrase where
  first := ⟨['1'], [], [' '], .day, false⟩
  rest := [([',', ' '], ⟨['2'], [], [' '], .hour, true⟩),
    ([' '], ⟨['3', '0'], [], [' '], .minute, true⟩)]

theorem readDuration_text_dayTrip : dayTrip.text = "1 day, 2 hours 30 minutes" ∧
    dayTrip.IsWritten ∧ dayTrip.IsLegible ∧ dayTrip.IsReadWell ∧
    Value.readDuration (.text dayTrip.text) = .ok ⟨95400000000⟩ := by
  have hwritten : dayTrip.IsWritten := by decide
  have hlegible : dayTrip.IsLegible := by decide
  have htotal : dayTrip.total = 95400000000 := by decide
  rcases readDuration_text hwritten with ⟨-, hread, hwell, hplain⟩
  have hlength : (dayTrip.total : ℚ) = dayTrip.length := hplain (by decide)
  have hin : dayTrip.total < (Duration.maxDays + 1) * dayMicros := by decide
  refine ⟨by decide, hwritten, hlegible, hwell.mpr fun _ => ⟨hin, hlength⟩, ?_⟩
  rw [hread hlegible, htotal]
  rfl

/-- One and a half hours. -/
def hourAndHalf : Phrase where
  first := ⟨['1'], ['5'], [' '], .hour, true⟩
  rest := []

/-- One week and two days. -/
def weekAndDays : Phrase where
  first := ⟨['1'], [], [' '], .week, false⟩
  rest := [([' '], ⟨['2'], [], [' '], .day, true⟩)]

/-- More days than the longest duration has. -/
def milliardDays : Phrase where
  first := ⟨'1' :: List.replicate 9 '0', [], [' '], .day, true⟩
  rest := []

/-- Phrases that are read otherwise than they are meant. -/
theorem not_isReadWell :
    (hourAndHalf.text = "1.5 hours" ∧ hourAndHalf.IsWritten ∧ ¬hourAndHalf.IsReadWell) ∧
    (weekAndDays.text = "1 week 2 days" ∧ weekAndDays.IsWritten ∧ ¬weekAndDays.IsReadWell) ∧
    (milliardDays.text = "1000000000 days" ∧ milliardDays.IsWritten ∧
      ¬milliardDays.IsReadWell) := by
  have hhours : hourAndHalf.IsWritten := by decide
  have hweeks : weekAndDays.IsWritten := by decide
  have hdays : milliardDays.IsWritten := by decide
  refine ⟨⟨by decide, hhours, ?_⟩, ⟨by decide, hweeks, ?_⟩, ⟨by decide, hdays, ?_⟩⟩
  · -- Five hours are found.
    have htotal : hourAndHalf.total = 18000000000 := by decide
    have hlength : hourAndHalf.length =
        (((1 : Nat) : ℚ) + ((5 : Nat) : ℚ) / 10 ^ 1) * ((3600000000 : Nat) : ℚ) + 0 := rfl
    rw [isReadWell_iff_of_legible hhours (by decide), htotal, hlength]
    norm_num
  · -- Two days are found.
    have htotal : weekAndDays.total = 172800000000 := by decide
    have hlength : weekAndDays.length =
        (((1 : Nat) : ℚ) + ((0 : Nat) : ℚ) / 10 ^ 0) * ((604800000000 : Nat) : ℚ) +
          ((((2 : Nat) : ℚ) + ((0 : Nat) : ℚ) / 10 ^ 0) * ((86400000000 : Nat) : ℚ) + 0) := rfl
    rw [isReadWell_iff_of_legible hweeks (by decide), htotal, hlength]
    norm_num
  · -- Everything is found, and it is too long.
    rw [isReadWell_iff_of_legible hdays (by decide)]
    rintro ⟨hin, -⟩
    exact absurd hin (by decide)

end Phrase

end Interval

end Criteria
