import Criteria.Calendar.Interval
import Criteria.Proofs.Number.Scripts
import Criteria.Proofs.Outcome

/-!
# Intervals in Words

What is read of a length of time that is written in words, such as `1 day, 2 hours`.

There is no reader for the whole of such a text. Each unit is looked for by itself: the
first run of digits counts that stands before its name, wherever that is, and nothing is
said about the rest. So a text is read as it was meant if nothing stands between the
digits of a number, if every unit in it is looked for, and if no unit is found twice.

Numbers with a point have digits on both sides of it, and those before the point do not
stand before a name: of `1.5 hours` the last five is taken for the number. Weeks are not
looked for, though a single letter may stand for them. What is found of a phrase is
therefore `Phrase.counted`, number by number the digits last written
(`Component.lastRun`), and this is the right length if the numbers are whole and no
weeks are among them.

The search is followed component by component. Within a component only the digits before
the name can meet it, since names differ in their first letters; what is behind is then
the same search over the rest.

## Main definitions

* `Interval.NamedUnit`: Units that have a name.
* `Interval.Component`: A number with the name of a unit.
* `Interval.Phrase`: Components, one after the other.
* `Interval.Phrase.counted`: The components that are found.

## Theorems

* `Interval.findUnit?_component`, `Interval.findUnit?_phrase`: What a search finds.
* `Interval.namedParts_phrase`: What is found of a phrase.
-/

namespace Criteria

namespace Interval

open Text Numeral

/-- Units that have a name. -/
inductive NamedUnit where
  | week | day | hour | minute | second
  deriving DecidableEq

namespace NamedUnit

/-- The name of a unit, of which there is one. -/
def name : NamedUnit → List Char
  | week => ['w', 'e', 'e', 'k']
  | day => ['d', 'a', 'y']
  | hour => ['h', 'o', 'u', 'r']
  | minute => ['m', 'i', 'n', 'u', 't', 'e']
  | second => ['s', 'e', 'c', 'o', 'n', 'd']

/-- The word for one unit, or for several. -/
def word (u : NamedUnit) (plural : Bool) : List Char :=
  u.name ++ if plural then ['s'] else []

/-- The microseconds of a unit. -/
def micros : NamedUnit → Nat
  | week => 7 * dayMicros
  | day => dayMicros
  | hour => 3600 * secondMicros
  | minute => 60 * secondMicros
  | second => secondMicros

end NamedUnit

/-- A number with the name of a unit. -/
structure Component where
  /-- The digits before the point. -/
  whole : List Char
  /-- The digits behind the point, of which there may be none. -/
  fraction : List Char
  /-- What stands between the number and the name. -/
  gap : List Char
  unit : NamedUnit
  /-- The name is that of several units. -/
  plural : Bool

namespace Component

/-- The name of the unit. -/
def word (c : Component) : List Char :=
  c.unit.word c.plural

/-- The characters of the component. -/
def chars (c : Component) : List Char :=
  c.whole ++ (fractionChars c.fraction ++ (c.gap ++ c.word))

/-- There are digits, and between number and name there are blanks. -/
structure IsWritten (c : Component) : Prop where
  ne_nil : c.whole ≠ []
  whole : IsDigits c.whole
  fraction : IsDigits c.fraction
  gap : ∀ x ∈ c.gap, isBlank x = true

instance (c : Component) : Decidable c.IsWritten :=
  decidable_of_iff
    (c.whole ≠ [] ∧ IsDigits c.whole ∧ IsDigits c.fraction ∧ c.gap.all isBlank = true)
    ⟨fun ⟨hne, hwhole, hfraction, hgap⟩ => ⟨hne, hwhole, hfraction, List.all_eq_true.mp hgap⟩,
      fun h => ⟨h.ne_nil, h.whole, h.fraction, List.all_eq_true.mpr h.gap⟩⟩

/-- The digits that stand before the name. -/
def lastRun (c : Component) : List Char :=
  if c.fraction = [] then c.whole else c.fraction

/-- The microseconds that are meant. -/
def length (c : Component) : ℚ :=
  (digitsValue c.whole + digitsValue c.fraction / 10 ^ c.fraction.length) * c.unit.micros

end Component

section Search

variable {u : NamedUnit} {c : Component} {ds rest : List Char} {x : Char}

/-- Names differ in their first letters, so only its own name begins a word. -/
theorem startsWithWord_word (u v : NamedUnit) (plural : Bool) (rest : List Char) :
    startsWithWord u.name (v.word plural ++ rest) = (v == u) := by
  cases v <;> cases u <;> cases plural <;> rfl

/-- A search passes over what is no digit. -/
theorem findUnit?_of_not (unit : List Char) (rest : List Char) (hx : isDecimal x = false) :
    findUnit? unit (x :: rest) = findUnit? unit rest := by
  have hrun : (digitRun (x :: rest)).1 = [] :=
    List.takeWhile_cons_of_neg (by rw [hx]; exact Bool.false_ne_true)
  rw [findUnit?]
  dsimp only
  rw [hrun]
  rfl

theorem findUnit?_append_of_not (unit : List Char) {cs : List Char}
    (hcs : ∀ x ∈ cs, isDecimal x = false) :
    findUnit? unit (cs ++ rest) = findUnit? unit rest := by
  induction cs with
  | nil => rfl
  | cons x cs ih =>
      rw [List.forall_mem_cons] at hcs
      rw [List.cons_append, findUnit?_of_not unit _ hcs.1, ih hcs.2]

theorem digitRun_append (hds : IsDigits ds) (hrest : ∀ x ∈ rest.head?, isDecimal x = false) :
    digitRun (ds ++ rest) = (ds, rest) := by
  rw [digitRun, List.takeWhile_append_of_pos hds, List.dropWhile_append_of_pos hds]
  cases rest with
  | nil => rw [List.takeWhile_nil, List.dropWhile_nil, List.append_nil]
  | cons x rest =>
      have hx : ¬isDecimal x = true := by
        rw [hrest x rfl]
        exact Bool.false_ne_true
      rw [List.takeWhile_cons_of_neg hx, List.dropWhile_cons_of_neg hx, List.append_nil]

/-- A run of digits is found if the name is behind it, and passed over if it is not. -/
theorem findUnit?_digits (unit : List Char) (hds : IsDigits ds) (hne : ds ≠ [])
    (hrest : ∀ x ∈ rest.head?, isDecimal x = false) :
    findUnit? unit (ds ++ rest) =
      if startsWithWord unit (rest.dropWhile isBlank) then some ds else findUnit? unit rest := by
  -- Induction on the run of digits, at whose end the same name stands or does not.
  induction ds with
  | nil => exact absurd rfl hne
  | cons d ds ih =>
      have hrun : digitRun (d :: (ds ++ rest)) = (d :: ds, rest) := digitRun_append hds hrest
      rw [List.cons_append, findUnit?, hrun]
      dsimp only
      by_cases hword : startsWithWord unit (rest.dropWhile isBlank) = true
      · rw [hword]
        rfl
      · rw [Bool.not_eq_true] at hword
        rw [hword, Bool.and_false, if_neg Bool.false_ne_true, if_neg Bool.false_ne_true]
        -- The rest of the run stands before the same word.
        by_cases hempty : ds = []
        · rw [hempty]
          rfl
        · rw [ih hds.tail hempty, hword, if_neg Bool.false_ne_true]

theorem isDecimal_of_isBlank (hx : isBlank x = true) : isDecimal x = false := by
  rw [Bool.eq_false_iff]
  intro hdecimal
  rw [(decimal_spec hdecimal).1] at hx
  exact Bool.false_ne_true hx

/-- Words consist of letters. -/
theorem NamedUnit.word_spec (u : NamedUnit) (plural : Bool) :
    u.word plural ≠ [] ∧ ∀ x ∈ u.word plural, isBlank x = false ∧ isDecimal x = false := by
  have hletters : ((u.word plural).all fun x => !isBlank x && !isDecimal x) = true := by
    cases u <;> cases plural <;> decide
  constructor
  · cases u <;> exact List.cons_ne_nil _ _
  · intro x hx
    simpa using List.all_eq_true.mp hletters x hx

theorem Component.word_spec (c : Component) :
    c.word ≠ [] ∧ ∀ x ∈ c.word, isBlank x = false ∧ isDecimal x = false :=
  c.unit.word_spec c.plural

namespace Component.IsWritten

variable (h : c.IsWritten)

include h

theorem isDecimal_of_mem : ∀ x ∈ c.gap ++ c.word, isDecimal x = false :=
  List.forall_mem_append.mpr ⟨fun x hx => isDecimal_of_isBlank (h.gap x hx),
    fun x hx => (c.word_spec.2 x hx).2⟩

/-- Behind the digits there are blanks and then the name. -/
theorem dropWhile_behind (rest : List Char) :
    (c.gap ++ (c.word ++ rest)).dropWhile isBlank = c.word ++ rest := by
  rw [List.dropWhile_append_of_pos h.gap]
  rcases hword : c.word with _ | ⟨x, xs⟩
  · exact absurd hword c.word_spec.1
  · have hx := (c.word_spec.2 x (hword ▸ List.mem_cons_self)).1
    exact List.dropWhile_cons_of_neg (by rw [hx]; exact Bool.false_ne_true)

theorem isDecimal_head_behind (rest : List Char) :
    ∀ x ∈ (c.gap ++ (c.word ++ rest)).head?, isDecimal x = false := by
  intro x hx
  rw [← List.append_assoc, List.head?_append_of_ne_nil _
    (List.append_ne_nil_of_right_ne_nil _ c.word_spec.1)] at hx
  exact h.isDecimal_of_mem x (List.mem_of_mem_head? hx)

/-- The digits before the name are found if it is the name of the unit. Otherwise the
    search goes on behind the component. -/
theorem findUnit?_run {ds : List Char} (hds : IsDigits ds) (hne : ds ≠ []) (rest : List Char) :
    findUnit? u.name (ds ++ (c.gap ++ (c.word ++ rest))) =
      if c.unit = u then some ds else findUnit? u.name rest := by
  have hbehind : findUnit? u.name (c.gap ++ (c.word ++ rest)) = findUnit? u.name rest := by
    rw [← List.append_assoc]
    exact findUnit?_append_of_not _ h.isDecimal_of_mem
  rw [findUnit?_digits _ hds hne (h.isDecimal_head_behind rest), h.dropWhile_behind,
    Component.word, startsWithWord_word, ← Component.word, hbehind]
  simp only [beq_iff_eq]

end Component.IsWritten

/-- What a search finds in a component, or behind it. -/
theorem findUnit?_component (h : c.IsWritten) (rest : List Char) :
    findUnit? u.name (c.chars ++ rest) =
      if c.unit = u then some c.lastRun else findUnit? u.name rest := by
  rw [Component.chars, Component.lastRun]
  simp only [List.append_assoc]
  -- With a fraction there are two runs of digits, and the last one is in front of the name.
  rcases hfraction : c.fraction with _ | ⟨d, ds⟩
  · rw [if_pos rfl]
    exact h.findUnit?_run h.whole h.ne_nil rest
  · -- The digits before the point have no name behind them.
    have hpoint : startsWithWord u.name
        (('.' :: d :: (ds ++ (c.gap ++ (c.word ++ rest)))).dropWhile isBlank) = false := by
      cases u <;> rfl
    have hds : IsDigits (d :: ds) := hfraction ▸ h.fraction
    rw [if_neg (List.cons_ne_nil d ds), fractionChars, List.cons_append, List.cons_append,
      findUnit?_digits _ h.whole h.ne_nil (by rintro x ⟨⟩; decide), hpoint,
      if_neg Bool.false_ne_true, findUnit?_of_not _ _ (by decide)]
    exact h.findUnit?_run hds (List.cons_ne_nil d ds) rest

end Search

/-- Components, one after the other, each with what stands before it. -/
structure Phrase where
  first : Component
  rest : List (List Char × Component)

namespace Phrase

/-- The components. -/
def components (p : Phrase) : List Component :=
  p.first :: p.rest.map Prod.snd

/-- The characters of what stands behind the first component. -/
def restChars (rest : List (List Char × Component)) : List Char :=
  rest.flatMap fun e => e.1 ++ e.2.chars

theorem restChars_cons (e : List Char × Component) (rest : List (List Char × Component)) :
    restChars (e :: rest) = e.1 ++ (e.2.chars ++ restChars rest) := by
  rw [restChars, List.flatMap_cons, List.append_assoc]
  rfl

/-- The characters of the phrase. -/
def chars (p : Phrase) : List Char :=
  p.first.chars ++ restChars p.rest

/-- Components are told apart by spaces and commas, and each has a smaller unit than those
    before it. -/
structure IsWritten (p : Phrase) : Prop where
  written : ∀ c ∈ p.components, c.IsWritten
  joints : ∀ e ∈ p.rest, ∀ x ∈ e.1, x = ' ' ∨ x = ','
  descending : p.components.Pairwise fun c d => d.unit.micros < c.unit.micros

instance (p : Phrase) : Decidable p.IsWritten :=
  decidable_of_iff
    ((∀ c ∈ p.components, c.IsWritten) ∧
      (p.rest.all fun e => e.1.all fun x => x = ' ' ∨ x = ',') = true ∧
      p.components.Pairwise fun c d => d.unit.micros < c.unit.micros)
    ⟨fun ⟨hwritten, hjoints, hdescending⟩ => ⟨hwritten, by simpa using hjoints, hdescending⟩,
      fun h => ⟨h.written, by simpa using h.joints, h.descending⟩⟩

/-- The components of which something is found: weeks are not looked for. -/
def counted (p : Phrase) : List Component :=
  p.components.filter fun c => c.unit ≠ .week

/-- The microseconds that are meant. -/
def length (p : Phrase) : ℚ :=
  (p.components.map Component.length).sum

end Phrase

section Phrases

variable {p : Phrase} {u : NamedUnit}

theorem findUnit?_restChars {rest : List (List Char × Component)}
    (hwritten : ∀ e ∈ rest, e.2.IsWritten)
    (hjoints : ∀ e ∈ rest, ∀ x ∈ e.1, x = ' ' ∨ x = ',') :
    findUnit? u.name (Phrase.restChars rest) =
      ((rest.map Prod.snd).find? (·.unit == u)).map Component.lastRun := by
  -- Induction on the components; nothing in a joint is a digit, so the search passes over it.
  induction rest with
  | nil => rfl
  | cons e rest ih =>
      rw [List.forall_mem_cons] at hwritten hjoints
      have hjoint : ∀ x ∈ e.1, isDecimal x = false := by
        intro x hx
        rcases hjoints.1 x hx with rfl | rfl <;> decide
      rw [Phrase.restChars_cons, findUnit?_append_of_not _ hjoint, findUnit?_component hwritten.1,
        ih hwritten.2 hjoints.2, List.map_cons, List.find?_cons]
      by_cases hunit : e.2.unit = u
      · rw [if_pos hunit, beq_iff_eq.mpr hunit]
        rfl
      · rw [if_neg hunit, beq_eq_false_iff_ne.mpr hunit]

/-- The first component of the unit is found. -/
theorem findUnit?_phrase (h : p.IsWritten) : findUnit? u.name p.chars =
    (p.components.find? (·.unit == u)).map Component.lastRun := by
  have hwritten := h.written
  rw [Phrase.components, List.forall_mem_cons] at hwritten
  have hrest : ∀ e ∈ p.rest, e.2.IsWritten := fun e he =>
    hwritten.2 e.2 (List.mem_map.mpr ⟨e, he, rfl⟩)
  rw [Phrase.chars, findUnit?_component hwritten.1, findUnit?_restChars hrest h.joints,
    Phrase.components, List.find?_cons]
  by_cases hunit : p.first.unit = u
  · rw [if_pos hunit, beq_iff_eq.mpr hunit]
    rfl
  · rw [if_neg hunit, beq_eq_false_iff_ne.mpr hunit]

/-- The units that are looked for. -/
def searched : List NamedUnit :=
  [.day, .hour, .minute, .second]

theorem namedParts_eq (cs : List Char) :
    namedParts cs = searched.filterMap fun u => (findUnit? u.name cs).map (·, u.micros) :=
  rfl

/-- What is found of a component, with the length of its unit. -/
def Component.part (c : Component) : List Char × Nat :=
  (c.lastRun, c.unit.micros)

theorem find?_unit_eq_none {u : NamedUnit} {cs : List Component}
    (h : ∀ c ∈ cs, c.unit.micros < u.micros) : cs.find? (·.unit == u) = none := by
  refine List.find?_eq_none.mpr fun c hc hunit => ?_
  have hlt := h c hc
  rw [beq_iff_eq.mp hunit] at hlt
  exact Nat.lt_irrefl _ hlt

/-- Looking for one unit after the other, from long to short, goes through components in
    their order. -/
theorem filterMap_find?_eq {us : List NamedUnit} {cs : List Component}
    (hus : us.Pairwise fun u v => v.micros < u.micros)
    (hcs : cs.Pairwise fun c d => d.unit.micros < c.unit.micros) (hall : ∀ c ∈ cs, c.unit ∈ us) :
    us.filterMap (fun u => cs.find? (·.unit == u)) = cs := by
  -- Induction on the units, from the longest one down, with the components in the same order.
  induction us generalizing cs with
  | nil =>
      cases cs with
      | nil => rfl
      | cons c cs => exact absurd (hall c List.mem_cons_self) List.not_mem_nil
  | cons u us ih =>
      rw [List.pairwise_cons] at hus
      rw [List.filterMap_cons]
      cases cs with
      | nil => exact ih hus.2 .nil nofun
      | cons c cs =>
          have hbelow := List.pairwise_cons.mp hcs
          by_cases hunit : c.unit = u
          · -- The first component has the longest unit, and no other one has it.
            have hfound : (c :: cs).find? (·.unit == u) = some c :=
              List.find?_cons_of_pos (beq_iff_eq.mpr hunit)
            have hskip : us.filterMap (fun v => (c :: cs).find? (·.unit == v)) =
                us.filterMap fun v => cs.find? (·.unit == v) := by
              refine List.filterMap_congr fun v hv => List.find?_cons_of_neg ?_
              intro hsame
              have hlt := hus.1 v hv
              rw [← beq_iff_eq.mp hsame, hunit] at hlt
              exact Nat.lt_irrefl _ hlt
            have hrest : ∀ d ∈ cs, d.unit ∈ us := by
              intro d hd
              have hd' := hall d (List.mem_cons_of_mem c hd)
              refine (List.mem_cons.mp hd').resolve_left fun hsame => ?_
              have hlt := hbelow.1 d hd
              rw [hunit, hsame] at hlt
              exact Nat.lt_irrefl _ hlt
            rw [hfound, hskip, ih hus.2 hbelow.2 hrest]
          · -- No component has the longest unit.
            have hfirst : c.unit ∈ us :=
              (List.mem_cons.mp (hall c List.mem_cons_self)).resolve_left hunit
            have hlt : ∀ d ∈ c :: cs, d.unit.micros < u.micros := by
              refine List.forall_mem_cons.mpr ⟨hus.1 _ hfirst, fun d hd => ?_⟩
              exact Nat.lt_trans (hbelow.1 d hd) (hus.1 _ hfirst)
            have hrest : ∀ d ∈ c :: cs, d.unit ∈ us := by
              intro d hd
              refine (List.mem_cons.mp (hall d hd)).resolve_left fun hsame => ?_
              have hdlt := hlt d hd
              rw [hsame] at hdlt
              exact Nat.lt_irrefl _ hdlt
            rw [find?_unit_eq_none hlt]
            exact ih hus.2 hcs hrest

/-- What is found of a phrase are the components without the weeks. -/
theorem namedParts_phrase (h : p.IsWritten) :
    namedParts p.chars = p.counted.map Component.part := by
  -- A search for one unit finds the component that has it.
  have hsearch : ∀ u ∈ searched, (findUnit? u.name p.chars).map (·, u.micros) =
      (p.counted.find? (·.unit == u)).map Component.part := by
    intro u hu
    have hweek : u ≠ .week := by
      rintro rfl
      exact absurd hu (by decide)
    have hcounted : p.counted.find? (·.unit == u) = p.components.find? (·.unit == u) := by
      rw [Phrase.counted, List.find?_filter]
      refine congrArg (p.components.find? ·) (funext fun c => ?_)
      by_cases hunit : c.unit = u
      · simp [hunit, hweek]
      · simp [hunit]
    rw [findUnit?_phrase h, hcounted]
    cases hfind : p.components.find? (·.unit == u) with
    | none => rfl
    | some c =>
        have hunit : c.unit = u := by simpa using List.find?_some hfind
        rw [← hunit]
        rfl
  -- Weeks are not searched for, and they are not counted either.
  have hunits : ∀ c ∈ p.counted, c.unit ∈ searched := by
    intro c hc
    have hweek := (List.mem_filter.mp hc).2
    rw [decide_eq_true_eq] at hweek
    cases hunit : c.unit with
    | week => exact absurd hunit hweek
    | _ => decide
  have hfound : searched.filterMap (fun u => p.counted.find? (·.unit == u)) = p.counted :=
    filterMap_find?_eq (by decide) (h.descending.filter _) hunits
  rw [namedParts_eq, List.filterMap_congr hsearch, ← List.map_filterMap, hfound]

end Phrases

end Interval

end Criteria
