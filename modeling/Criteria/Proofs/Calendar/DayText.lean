import Criteria.Proofs.Calendar.Readers
import Criteria.Proofs.Number.Scripts

/-!
# Written Days

A day that is written as four digits, two and two, with hyphens between them.

The digits may be those of any script, or of several. In plain digits the day is read by
the standard notation, which knows no others, and everything else is left to the reader of
free form: it cuts the text into numbers and hyphens, takes the first number for a full
year because of its four digits, and so reads the same day (`FreeForm.readFrom?_dayText`).

## Main definitions

* `IsDayText`, `dayText`: A day as it is written.
* `dayOf?`: The day that a text is written for.
* `Value.IsDay`: A text that is such a day, between blanks.

## Theorems

* `FreeForm.lex_dayText`: The tokens of a written day.
* `FreeForm.readFrom?_dayText`: What is read from them.
* `Value.momentOfText_of_dayOf?`: A written day is read as the start of the day.
* `Value.IsDay.readInstant`: It is a moment also where numbers are moments.
-/

namespace Criteria

open Text

/-- A year, a month and a day in digits of any script. -/
structure IsDayText (ys ms ds : List Char) : Prop where
  year : IsDigits ys
  month : IsDigits ms
  day : IsDigits ds
  lengths : ys.length = 4 ∧ ms.length = 2 ∧ ds.length = 2

/-- A year, a month and a day with hyphens between them. -/
def dayText (ys ms ds : List Char) : List Char :=
  ys ++ '-' :: (ms ++ '-' :: ds)

/-- The day that a text is written for. -/
def dayOf? (text : String) : Option Date :=
  match text.toList with
  | [a, b, c, d, '-', e, f, '-', g, h] =>
    if [a, b, c, d, e, f, g, h].all isDecimal then
      Date.of? (digitsValue [a, b, c, d]) (digitsValue [e, f]) (digitsValue [g, h])
    else none
  | _ => none

variable {ys ms ds rest : List Char} {day today : Date} {text : String}

/-- The parts of a written day. -/
theorem dayOf?_spec (h : dayOf? text = some day) : ∃ ys ms ds, text.toList = dayText ys ms ds ∧
    IsDayText ys ms ds ∧
      Date.of? (digitsValue ys) (digitsValue ms) (digitsValue ds) = some day := by
  rw [dayOf?] at h
  split at h
  · rename_i a b c d e f g i htext
    split at h
    · rename_i hdigits
      simp only [List.all_cons, List.all_nil, Bool.and_true, Bool.and_eq_true] at hdigits
      refine ⟨[a, b, c, d], [e, f], [g, i], htext, ⟨?_, ?_, ?_, rfl, rfl, rfl⟩, h⟩
      · simp [IsDigits, hdigits]
      · simp [IsDigits, hdigits]
      · simp [IsDigits, hdigits]
    · cases h
  · cases h

namespace IsDayText

/-- The characters of a written day. -/
theorem exists_chars (h : IsDayText ys ms ds) : ∃ a b c d e f g i, ys = [a, b, c, d] ∧
    ms = [e, f] ∧ ds = [g, i] ∧ isDecimal a = true ∧ isDecimal e = true := by
  obtain ⟨hyears, hmonths, hdays⟩ := h.lengths
  rcases List.length_eq_two.mp hmonths with ⟨e, f, rfl⟩
  rcases List.length_eq_two.mp hdays with ⟨g, i, rfl⟩
  rcases List.length_eq_four.mp hyears with ⟨a, b, c, d, rfl⟩
  exact ⟨a, b, c, d, e, f, g, i, rfl, rfl, rfl, h.year.head, h.month.head⟩

/-- A written day is made of digits and hyphens. -/
theorem eq_or_isDecimal (h : IsDayText ys ms ds) {c : Char} (hc : c ∈ dayText ys ms ds) :
    c = '-' ∨ isDecimal c = true := by
  simp only [dayText, List.mem_append, List.mem_cons] at hc
  rcases hc with hc | rfl | hc | rfl | hc
  · exact .inr (h.year c hc)
  · exact .inl rfl
  · exact .inr (h.month c hc)
  · exact .inl rfl
  · exact .inr (h.day c hc)

/-- A written day is no plain number. -/
theorem isEpochText_eq_false (h : IsDayText ys ms ds) :
    Value.isEpochText (String.ofList (dayText ys ms ds)) = false := by
  rcases h.exists_chars with ⟨a, b, c, d, e, f, g, i, rfl, rfl, rfl, ha, -⟩
  have hsign : ∀ cs, dayText [a, b, c, d] [e, f] [g, i] = '-' :: cs → False := fun cs hcs =>
    ne_of_isDecimal ha (by decide) (List.cons.inj hcs).1
  have hyear : (dayText [a, b, c, d] [e, f] [g, i]).takeWhile isDecimal = [a, b, c, d] := by
    have hhyphen : ¬isDecimal '-' = true := by decide
    rw [dayText, List.takeWhile_append_of_pos h.year, List.takeWhile_cons_of_neg hhyphen,
      List.append_nil]
  simp only [Value.isEpochText, String.toList_ofList, hyear]
  rfl

end IsDayText

/-! ### Standard notation -/

namespace Iso

/-- A number that was read off a run of digits. -/
theorem takeNumber?_append_eq_some {n v : Nat} {rest' : List Char} (hlength : ds.length = n)
    (h : takeNumber? n (ds ++ rest) = some (v, rest')) : v = digitsValue ds ∧ rest' = rest := by
  rcases takeNumber?_eq_some h with ⟨ds', happend, hlength', -, rfl⟩
  obtain ⟨rfl, rfl⟩ := List.append_inj happend (hlength.trans hlength'.symm)
  exact ⟨rfl, rfl⟩

/-- If the standard notation can read a written day, it reads that day. -/
theorem readDatePart?_dayText (h : IsDayText ys ms ds) {d : Date}
    (hd : readDatePart? (dayText ys ms ds) = some d) :
    Date.of? (digitsValue ys) (digitsValue ms) (digitsValue ds) = some d := by
  have hmonth : ms.head? ≠ some 'W' := by
    rcases h.exists_chars with ⟨-, -, -, -, e, f, -, -, -, rfl, -, -, he⟩
    exact fun hw => ne_of_isDecimal he (by decide) (Option.some.inj hw)
  rw [readDatePart?, dayText] at hd
  -- The three numbers are read one after the other, and each takes as many digits as were written.
  rcases Option.bind_eq_some_iff.mp hd with ⟨⟨year, rest⟩, hyear, hrest⟩
  obtain ⟨rfl, rfl⟩ := takeNumber?_append_eq_some h.lengths.1 hyear
  dsimp only at hrest
  split at hrest
  · rename_i rest hweek
    rcases ms with _ | ⟨e, ms⟩
    · cases h.lengths.2.1
    · exact absurd (congrArg List.head? hweek) hmonth
  · rcases Option.bind_eq_some_iff.mp hrest with ⟨⟨month, rest⟩, hmonth, hrest⟩
    obtain ⟨rfl, rfl⟩ := takeNumber?_append_eq_some h.lengths.2.1 hmonth
    rcases Option.bind_eq_some_iff.mp hrest with ⟨rest, hskip, hrest⟩
    obtain rfl : ds = rest := Option.some.inj hskip
    rcases Option.bind_eq_some_iff.mp hrest with ⟨⟨d, rest⟩, hday, hrest⟩
    rw [← List.append_nil ds] at hday
    obtain ⟨rfl, rfl⟩ := takeNumber?_append_eq_some h.lengths.2.2 hday
    exact hrest

/-- The date of a written day is all of it. -/
theorem dateLength_dayText (h : IsDayText ys ms ds) :
    (dayText ys ms ds).length = 10 ∧ dateLength (dayText ys ms ds) = 10 := by
  rcases h.exists_chars with ⟨a, b, c, d, e, f, g, i, rfl, rfl, rfl, -, he⟩
  have hweek : (e == 'W') = false := beq_eq_false_iff_ne.mpr (ne_of_isDecimal he (by decide))
  refine ⟨rfl, ?_⟩
  show (if (e == 'W') = true then _ else 10) = 10
  rw [hweek, if_neg Bool.false_ne_true]

theorem readMomentChars?_dayText (h : IsDayText ys ms ds)
    (hday : Date.of? (digitsValue ys) (digitsValue ms) (digitsValue ds) = some day) {m : Moment}
    (hm : readMomentChars? (dayText ys ms ds) = some m) : m = .ofDate day none := by
  have hlength := dateLength_dayText h
  rw [readMomentChars?, hlength.1, if_neg (by decide)] at hm
  dsimp only at hm
  rw [hlength.2, List.take_of_length_le (Nat.le_of_eq hlength.1),
    List.drop_of_length_le (Nat.le_of_eq hlength.1)] at hm
  split at hm
  · cases hm
  · rename_i d hd
    rw [readDatePart?_dayText h hd, Option.some.injEq] at hday
    rw [← Option.some.inj hm, hday]
    rfl

end Iso

/-! ### Free form -/

namespace FreeForm

theorem isDigit_of_isDecimal {c : Char} (hc : isDecimal c = true) : isDigit c = true := by
  rw [isDigit, hc, Bool.true_or]

/-- Digits go on with a number. -/
theorem lex_number (h : IsDigits ds) (cs rest : List Char) :
    lex (some ⟨.number, cs, false⟩) (ds ++ rest) =
      lex (some ⟨.number, ds.reverse ++ cs, false⟩) rest := by
  induction ds generalizing cs with
  | nil => rfl
  | cons d ds ih =>
      have hextend : Token.extend? ⟨.number, cs, false⟩ d = some ⟨.number, d :: cs, false⟩ := by
        rw [Token.extend?]
        exact if_pos (isDigit_of_isDecimal h.head)
      rw [List.cons_append, lex, Option.bind_some, hextend]
      dsimp only
      rw [ih h.tail, List.reverse_cons, List.append_assoc, List.singleton_append]

/-- A digit starts a number. -/
theorem lex_digits (h : IsDigits ds) (hne : ds ≠ []) (rest : List Char) :
    lex none (ds ++ rest) = lex (some ⟨.number, ds.reverse, false⟩) rest := by
  rcases ds with _ | ⟨d, ds⟩
  · exact absurd rfl hne
  · have hstart : startToken d = .inl ⟨.number, [d], false⟩ := by
      rw [startToken, (decimal_spec h.head).2, if_neg Bool.false_ne_true,
        if_pos (isDigit_of_isDecimal h.head)]
    rw [List.cons_append, lex, Option.bind_none]
    dsimp only
    rw [hstart]
    dsimp only
    rw [Option.map_none, Option.getD_none, List.nil_append, lex_number h.tail, List.reverse_cons]

/-- A number ends at a hyphen. -/
theorem lex_hyphen (cs rest : List Char) : lex (some ⟨.number, cs, false⟩) ('-' :: rest) =
    cs.reverse :: ['-'] :: lex none rest := rfl

/-- The tokens of a written day. -/
theorem lex_dayText (h : IsDayText ys ms ds) :
    lex none (dayText ys ms ds) = [ys, ['-'], ms, ['-'], ds] := by
  have hnonempty {cs : List Char} {n : Nat} (hlength : cs.length = n + 1) : cs ≠ [] := by
    rintro rfl
    cases hlength
  have hend : lex none ds = [ds] := by
    rw [← List.append_nil ds, lex_digits h.day (hnonempty h.lengths.2.2)]
    show [ds.reverse.reverse] = _
    rw [List.reverse_reverse, List.append_nil]
  rw [dayText, lex_digits h.year (hnonempty h.lengths.1), lex_hyphen, List.reverse_reverse,
    lex_digits h.month (hnonempty h.lengths.2.1), lex_hyphen, List.reverse_reverse, hend]

/-- Digits are no words. -/
theorem not_contains_of_isDigits (h : IsDigits ds) {words : List String}
    (hwords : (words.all fun w => w.toList.any fun c => !isDecimal c) = true) :
    words.contains (lower (String.ofList ds)) = false := by
  rw [h.lower_eq, Bool.eq_false_iff]
  intro hmem
  have hword := List.all_eq_true.mp hwords _ (List.contains_iff_mem.mp hmem)
  rcases List.any_eq_true.mp hword with ⟨c, hc, hnot⟩
  rw [String.toList_ofList] at hc
  rw [h c hc] at hnot
  cases hnot

theorem isFiller_of_isDigits (h : IsDigits ds) : isFiller (String.ofList ds) = false :=
  not_contains_of_isDigits h (by decide)

theorem month?_of_isDigits (h : IsDigits ds) : month? (String.ofList ds) = none := by
  rw [month?, groupOf?, Option.map_eq_none_iff, List.findIdx?_eq_none_iff]
  intro g hg
  have hgroups : ([["jan", "january"], ["feb", "february"], ["mar", "march"], ["apr", "april"],
    ["may"], ["jun", "june"], ["jul", "july"], ["aug", "august"], ["sep", "sept", "september"],
    ["oct", "october"], ["nov", "november"], ["dec", "december"]].all fun g =>
      g.all fun w => w.toList.any fun c => !isDecimal c) = true := by decide
  exact not_contains_of_isDigits h (List.all_eq_true.mp hgroups g hg)

/-- A number among others, of which more than two digits make a full year. -/
theorem pushText?_of_isDigits (h : IsDigits ds) (hpos : 0 < ds.length)
    (hlength : ds.length ≤ maxDigits) (f : Fields) : f.pushText? (String.ofList ds) none =
      f.push? (digitsValue ds) none (decide (2 < ds.length)) := by
  have hdigits : ds.all isDigit = true :=
    List.all_eq_true.mpr fun c hc => isDigit_of_isDecimal (h c hc)
  rw [Fields.pushText?, readInt?_of_isDigits h (List.ne_nil_of_length_pos hpos) hlength,
    String.toList_ofList, hdigits, String.length_ofList, Bool.true_and]
  show (if (digitsValue ds : Int) < 0 then none else
    f.push? (digitsValue ds : Int).toNat none (decide (2 < ds.length))) = _
  rw [if_neg (by omega), Int.toNat_natCast]

/-- The tokens of a written day, as texts. -/
def dayTokens (ys ms ds : List Char) : Array String :=
  #[String.ofList ys, "-", String.ofList ms, "-", String.ofList ds]

/-- What is collected from a written day. -/
def dayFields (year month day : Nat) : Fields where
  values := [year, month, day]
  yearAt := some 0
  full := true

/-- What is read from a written day. -/
def dayReading (year month day : Nat) : Reading where
  fields := dayFields year month day

/-- Nothing is left open but the time of day. -/
theorem toMoment_dayReading {y m d : Nat} (hday : Date.of? y m d = some day)
    (hsmall : ∀ n ∈ [y, m, d], n ≤ Moment.maxCountedYear) :
    (dayReading y m d).toMoment today ⟨some y, some m, some d⟩ = .ok (.ofDate day none) := by
  -- None of the parts is too large for the calendar.
  have hparts : ([y, m, d, 0, 0, 0].any fun n => decide (Moment.maxCountedYear < n)) = false := by
    refine List.any_eq_false.mpr fun n hn hlt => ?_
    rcases List.mem_append.mp (show n ∈ [y, m, d] ++ [0, 0, 0] from hn) with hn | hn
    · exact Nat.not_lt.mpr (hsmall n hn) (of_decide_eq_true hlt)
    · rw [List.eq_of_mem_replicate (show n ∈ List.replicate 3 0 from hn)] at hlt
      cases hlt
  -- Four digits make a year that is not widened, and the clock stands at midnight.
  have hyear : widenYear today y true = y := by
    rw [widenYear, Bool.not_true, if_neg fun h => Bool.false_ne_true h.2]
  have hclock : TimeOfDay.of? 0 0 0 0 = some .midnight := rfl
  simp only [Reading.toMoment, dayReading, dayFields, Option.map_some, Option.getD_some,
    Option.getD_none, hyear, Option.isNone_some, Bool.false_eq_true, false_and, if_false, hparts,
    hday, hclock]
  rfl

section Reading

variable (h : IsDayText ys ms ds)

include h

/-- Year, month and day are collected in this order. -/
theorem readMarked?_dayText : readMarked? (dayTokens ys ms ds) 0 "-" (String.ofList ys) {} =
    some (dayFields (digitsValue ys) (digitsValue ms) (digitsValue ds), 4) := by
  have hpush {cs : List Char} {n : Nat} (hcs : IsDigits cs) (hlength : cs.length = n) (hpos : 0 < n)
      (hn : n ≤ maxDigits) (f : Fields) : f.pushText? (String.ofList cs) none =
        f.push? (digitsValue cs) none (decide (2 < n)) := by
    subst hlength
    exact pushText?_of_isDigits hcs hpos hn f
  have hmonth : (String.ofList ms).toList.all isDigit = true := by
    rw [String.toList_ofList]
    exact List.all_eq_true.mpr fun c hc => isDigit_of_isDecimal (h.month c hc)
  have hsecond : (dayTokens ys ms ds)[2]? = some (String.ofList ms) := rfl
  have hthird : (dayTokens ys ms ds)[4]? = some (String.ofList ds) := rfl
  have hmark : ((dayTokens ys ms ds)[3]? == some "-") = true := rfl
  rw [readMarked?]
  -- The year, the month behind its hyphen, and the day, which might be the name of a month.
  refine Option.bind_eq_some_iff.mpr
    ⟨_, hpush h.year h.lengths.1 (by decide) (by decide) {}, ?_⟩
  simp only [Nat.zero_add, hsecond, isFiller_of_isDigits h.month, hmonth, if_true,
    Bool.false_eq_true, if_false]
  refine Option.bind_eq_some_iff.mpr
    ⟨_, hpush h.month h.lengths.2.1 (by decide) (by decide) _, ?_⟩
  simp only [hmark, hthird, if_true]
  refine Option.bind_eq_some_iff.mpr ⟨_, rfl, ?_⟩
  rw [month?_of_isDigits h.day]
  exact Option.bind_eq_some_iff.mpr
    ⟨_, hpush h.day h.lengths.2.2 (by decide) (by decide) _, rfl⟩

/-- The number in front is no time, as a hyphen follows. -/
theorem readNumber?_dayText : readNumber? (dayTokens ys ms ds) 0 (String.ofList ys) {} =
    some (dayReading (digitsValue ys) (digitsValue ms) (digitsValue ds), 4) := by
  have hne : ys ≠ [] := List.ne_nil_of_length_pos (by rw [h.lengths.1]; decide)
  have hlength : (String.ofList ys).length = 4 := String.length_ofList.trans h.lengths.1
  have hnext : (dayTokens ys ms ds)[1]? = some "-" := rfl
  -- Behind the number stands a hyphen, which is no unit of a clock.
  have hhyphen : clockUnit? "-" = none := by decide +kernel
  have hunit : unitPlace? (dayTokens ys ms ds) 0 = none := by
    simp only [unitPlace?, Nat.zero_add, hnext, Option.bind_some, hhyphen]
    rfl
  have hbare : isBareTime (some "-") (String.ofList ys) {} = false := rfl
  rw [readNumber?]
  refine Option.bind_eq_some_iff.mpr
    ⟨_, readDecimal?_of_isDigits h.year hne (by rw [h.lengths.1]; decide), ?_⟩
  refine Option.bind_eq_some_iff.mpr ⟨_, rfl, ?_⟩
  dsimp only
  rw [Nat.zero_add, hnext, hbare, hlength, hunit, if_neg Bool.false_ne_true, if_neg (by omega),
    if_neg (by omega)]
  exact Option.bind_eq_some_iff.mpr ⟨_, readMarked?_dayText h, rfl⟩

/-- The whole text is read in one step. -/
theorem readFrom?_dayText : readFrom? today 5 (dayTokens ys ms ds) 0 {} =
    some (dayReading (digitsValue ys) (digitsValue ms) (digitsValue ds)) := by
  have hne : ys ≠ [] := List.ne_nil_of_length_pos (by rw [h.lengths.1]; decide)
  have hfirst : (dayTokens ys ms ds)[0]? = some (String.ofList ys) := rfl
  rw [readFrom?]
  simp only [hfirst, isSome_readBinary64?_of_isDigits h.year hne, if_true, readNumber?_dayText h]
  rfl

/-- A written day stands for the start of the day. -/
theorem readFreeForm_dayText
    (hday : Date.of? (digitsValue ys) (digitsValue ms) (digitsValue ds) = some day) :
    readFreeForm today (String.ofList (dayText ys ms ds)) = .ok (.ofDate day none) := by
  -- The text has five tokens: the numbers and the hyphens between them.
  have htokens : (tokens (String.ofList (dayText ys ms ds))).toArray = dayTokens ys ms ds := by
    rw [tokens, String.toList_ofList, lex_dayText h]
    rfl
  have hsmall : ∀ n ∈ [digitsValue ys, digitsValue ms, digitsValue ds],
      n ≤ Moment.maxCountedYear := by
    have hbound {cs : List Char} (hlength : cs.length ≤ 4) :
        digitsValue cs ≤ Moment.maxCountedYear := by
      have hpow : 10 ^ cs.length ≤ 10 ^ 4 := Nat.pow_le_pow_right (by decide) hlength
      have hlt := digitsValue_lt cs
      rw [Moment.maxCountedYear]
      omega
    have hlengths := h.lengths
    refine List.forall_mem_cons.mpr ⟨hbound (by omega), ?_⟩
    exact List.forall_mem_cons.mpr ⟨hbound (by omega),
      List.forall_mem_singleton.mpr (hbound (by omega))⟩
  have hsize : (dayTokens ys ms ds).size = 5 := rfl
  -- With the day, the month and the year marked, nothing is left to be sorted out.
  have hresolve : (dayFields (digitsValue ys) (digitsValue ms) (digitsValue ds)).resolve =
      some ⟨some (digitsValue ys), some (digitsValue ms), some (digitsValue ds)⟩ :=
    congrArg some (if_pos (.inr rfl))
  have hfull : (dayReading (digitsValue ys) (digitsValue ms) (digitsValue ds)).isEmpty = false :=
    rfl
  have hfields : (dayReading (digitsValue ys) (digitsValue ms) (digitsValue ds)).fields =
      dayFields (digitsValue ys) (digitsValue ms) (digitsValue ds) := rfl
  rw [readFreeForm, htokens, hsize]
  simp only [readFrom?_dayText h, hfields, hresolve, hfull, Bool.false_eq_true, if_false]
  exact toMoment_dayReading hday hsmall

end Reading

end FreeForm

namespace Value

/-- A written day stands for the start of the day. -/
theorem momentOfText_of_dayOf? (h : dayOf? text = some day) :
    momentOfText today text = .ok (.ofDate day none) := by
  rcases dayOf?_spec h with ⟨ys, ms, ds, htext, hparts, hday⟩
  -- Without letters the text is not respelled.
  have hspelled : (spellUniversal text).toList = dayText ys ms ds := by
    rw [toList_spellUniversal, htext]
    refine flatMap_spelled fun c hc => ?_
    rcases hparts.eq_or_isDecimal hc with rfl | hdigit
    · decide
    · exact ne_of_isDecimal hdigit (by decide)
  have hfree : readFreeForm today text = .ok (.ofDate day none) := by
    have hform : readFreeForm today (String.ofList (dayText ys ms ds)) = .ok (.ofDate day none) :=
      FreeForm.readFreeForm_dayText hparts hday
    rwa [← htext, String.ofList_toList] at hform
  rw [momentOfText, readIsoMoment?, hspelled]
  -- The standard notation reads the day or knows nothing of its digits.
  cases hm : Iso.readMomentChars? (dayText ys ms ds) with
  | some m => rw [Iso.readMomentChars?_dayText hparts hday hm]
  | none =>
      rw [hfree]
      rfl

/-- The value is a text that is a written day, between blanks. -/
def IsDay (v : Value) (d : Date) : Prop :=
  ∃ s, v = .text s ∧ dayOf? (trim s) = some d

variable {v : Value}

/-- A written day is a day also where plain numbers are moments. -/
theorem IsDay.readInstant (h : v.IsDay day) : v.readInstant today = .ok (.ofDate day none) := by
  rcases h with ⟨s, rfl, hs⟩
  rcases dayOf?_spec hs with ⟨ys, ms, ds, htext, hparts, -⟩
  have hworded : IsWorded s := by
    constructor
    · intro hempty
      have hlength := (Iso.dateLength_dayText hparts).1
      rw [← htext, hempty] at hlength
      cases hlength
    · rw [← String.ofList_toList (s := trim s), htext, hparts.isEpochText_eq_false]
  rw [hworded.readInstant, momentOfText_of_dayOf? hs]

/-- A written day names a whole day. -/
theorem IsDay.isDateOnly (h : v.IsDay day) : v.isDateOnly = true := by
  rcases h with ⟨s, rfl, hs⟩
  rcases dayOf?_spec hs with ⟨ys, ms, ds, htext, hparts, -⟩
  rcases hparts.exists_chars with ⟨a, b, c, d, e, f, g, i, rfl, rfl, rfl, -, -⟩
  have hdigits : ([a, b, c, d] ++ ([e, f] ++ [g, i])).all Text.isDecimal = true := by
    rw [List.all_append, List.all_append, List.all_eq_true.mpr hparts.year,
      List.all_eq_true.mpr hparts.month, List.all_eq_true.mpr hparts.day]
    rfl
  show isDateText (trim s) = true
  rw [isDateText, htext]
  exact hdigits

end Value

end Criteria
