import Criteria.Proofs.Number.Numeral
import Criteria.Value.Reading
import Criteria.Wire.Form

/-!
# Dates and Times as They Are Written

A date, a time of day and a moment on the wire are read as what they were written
for.

The standard notation leaves a reader much to find out: whether there are hyphens
and colons, where the date ends, how many fields a time has. On what is written all
of this is settled by the widths of the numbers, so each reader is followed over one
written piece at a time: a padded number, a field of a clock, a date with anything
behind it. A moment of universal time is written with a letter, which is spelled out
again as an offset before the moment is read.

## Main definitions

* `TimeOfDay.fractionChars`: The fraction of a second of a written time.
* `Offset.IsWholeMinutes`: An offset of a clock that is told by hours and minutes.
* `Offset.chars`: The sign, the hours and the minutes of an offset.
* `Value.spelled`: A character with the letter for universal time spelled out.

## Theorems

* `Iso.takeNumber?_padded`: A padded number is read at the front of a list.
* `Iso.readDatePart?_text`, `readIsoDate?_text`: A date is read from its written form.
* `TimeOfDay.of?_parts`: A time of day is made of its parts.
* `Iso.readClockPart?_text`: A clock is read from a written time of day.
* `Iso.readOffset?_chars`: An offset is read from hours and minutes.
* `Value.momentOfText_wireMoment`: A moment is read from its form on the wire.
-/

namespace Criteria

open Text Numeral

section Padding

/-- A padded number has as many digits as were asked for, and they are the number's. -/
theorem Date.padded_spec (width : Nat) {n : Nat} (hwidth : 0 < width) (hn : n < 10 ^ width) :
    (padded width n).toList.length = width ∧ IsPlain (padded width n).toList ∧
      digitsValue (padded width n).toList = n := by
  have hlength : (Nat.toDigits 10 n).length ≤ width :=
    (Nat.length_toDigits_le_iff (by decide) hwidth).mpr hn
  rw [padded, String.toList_ofList]
  refine ⟨?_, (IsPlain.zeros _).append (.toDigits n), ?_⟩
  · rw [List.length_append, List.length_replicate, Nat.sub_add_cancel hlength]
  · rw [digitsValue_zeros_append (.toDigits n), digitsValue_toDigits]

theorem Date.padded_ne_nil {width n : Nat} (hwidth : 0 < width) (hn : n < 10 ^ width) :
    (padded width n).toList ≠ [] := by
  rw [← List.length_pos_iff, (padded_spec width hwidth hn).1]
  exact hwidth

/-- What holds of plain digits holds of all of a padded number. -/
theorem Date.forall_padded {P : Char → Prop} (h : ∀ d < 10, P (Nat.digitChar d)) {width n : Nat}
    (hwidth : 0 < width) (hn : n < 10 ^ width) : ∀ c ∈ (padded width n).toList, P c := fun c hc =>
  forall_digit h ((padded_spec width hwidth hn).2.1 c hc)

/-- A number of two digits. -/
theorem Date.exists_padded {n : Nat} (hn : n < 100) : ∃ a b, (padded 2 n).toList = [a, b] ∧
    IsPlain [a, b] ∧ digitsValue [a, b] = n := by
  have hspec := padded_spec 2 (by decide) hn
  rcases List.length_eq_two.mp hspec.1 with ⟨a, b, hab⟩
  rw [hab] at hspec
  exact ⟨a, b, hab, hspec.2⟩

end Padding

namespace Iso

section Numbers

variable {ds rest : List Char}

theorem digit?_of_isDigit {c : Char} (hc : c.isDigit = true) :
    digit? c = some ((digitValue? c).getD 0) := by
  rw [digit?, if_pos hc, digitValue?_of_isDigit hc, Option.getD_some]

/-- A run of plain digits of the right length is taken as its number. -/
theorem takeNumber?_append (hds : IsPlain ds) (rest : List Char) :
    takeNumber? ds.length (ds ++ rest) = some (digitsValue ds, rest) := by
  have hfrom (acc : Nat) : takeNumberFrom? ds.length acc (ds ++ rest) =
      some (ds.foldl (fun n c => 10 * n + (digitValue? c).getD 0) acc, rest) := by
    induction ds generalizing acc with
    | nil => rfl
    | cons c ds ih =>
        rw [List.length_cons, List.cons_append, takeNumberFrom?, digit?_of_isDigit hds.head]
        exact ih hds.tail _
  exact hfrom 0

/-- A padded number is read at the front of a list. -/
theorem takeNumber?_padded (width : Nat) {n : Nat} (hwidth : 0 < width) (hn : n < 10 ^ width)
    (rest : List Char) :
    takeNumber? width ((Date.padded width n).toList ++ rest) = some (n, rest) := by
  have hspec := Date.padded_spec width hwidth hn
  have htake := takeNumber?_append hspec.2.1 rest
  rwa [hspec.1, hspec.2.2] at htake

/-- A padded number is read where nothing else is. -/
theorem takeNumber?_padded_end (width : Nat) {n : Nat} (hwidth : 0 < width) (hn : n < 10 ^ width) :
    takeNumber? width (Date.padded width n).toList = some (n, []) := by
  have htake := takeNumber?_padded width hwidth hn []
  rwa [List.append_nil] at htake

end Numbers

end Iso

section Dates

namespace Date

variable (d : Date)

/-- The parts of a date have four, two and two digits. -/
theorem parts_lt : d.year < 10 ^ 4 ∧ d.month < 100 ∧ d.day < 100 := by
  rcases d.valid with ⟨⟨-, hyear⟩, ⟨-, hmonth⟩, -, hday⟩
  have hdays : daysInMonth d.year d.month ≤ 31 := by
    unfold daysInMonth
    split <;> (try split) <;> decide
  omega

theorem toList_text : d.text.toList = (padded 4 d.year).toList ++
    '-' :: ((padded 2 d.month).toList ++ '-' :: (padded 2 d.day).toList) := by
  simp only [text, String.toList_append, List.append_assoc]
  rfl

/-- A written date has ten characters. -/
theorem length_text : d.text.toList.length = 10 := by
  rcases d.parts_lt with ⟨hyear, hmonth, hday⟩
  rw [toList_text]
  simp only [List.length_append, List.length_cons, (padded_spec 4 (by decide) hyear).1,
    (padded_spec 2 (by decide) hmonth).1, (padded_spec 2 (by decide) hday).1]

/-- What holds of digits and of the hyphen holds of all of a written date. -/
theorem forall_text {P : Char → Prop} (h : ∀ n < 10, P (Nat.digitChar n)) (hhyphen : P '-')
    (d : Date) : ∀ c ∈ d.text.toList, P c := by
  rcases d.parts_lt with ⟨hyear, hmonth, hday⟩
  rw [toList_text]
  simp only [List.mem_append, List.mem_cons]
  rintro c (hc | rfl | hc | rfl | hc)
  · exact forall_padded h (by decide) hyear c hc
  · exact hhyphen
  · exact forall_padded h (by decide) hmonth c hc
  · exact hhyphen
  · exact forall_padded h (by decide) hday c hc

end Date

namespace Iso

variable (d : Date)

/-- A date is read from its written form. -/
theorem readDatePart?_text : readDatePart? d.text.toList = some d := by
  rcases d.parts_lt with ⟨hyear, hmonth, hday⟩
  rcases Date.exists_padded hmonth with ⟨a, b, hpadded, hplain, hvalue⟩
  -- A month begins with a digit, so it is not taken for the mark of a week.
  have hweek : a ≠ 'W' := ne_of_isDigit hplain.head (by decide)
  have hdate : Date.of? d.year d.month d.day = some d := Date.of?_eq_some_iff.mpr ⟨rfl, rfl, rfl⟩
  -- Month and day have two digits each, read up to the hyphen and to the end.
  have hmonths := takeNumber?_padded 2 (by decide) hmonth ('-' :: (Date.padded 2 d.day).toList)
  have hdays := takeNumber?_padded_end 2 (by decide) hday
  rw [d.toList_text, readDatePart?, takeNumber?_padded 4 (by decide) hyear]
  rw [hpadded] at hmonths ⊢
  simp only [Option.bind_eq_bind, Option.bind_some, List.head?_cons, beq_self_eq_true, if_true,
    List.drop_succ_cons, List.drop_zero, List.cons_append, List.nil_append] at hmonths ⊢
  split
  · rename_i heq
    exact absurd (List.cons.inj heq).1 hweek
  · rw [hmonths, Option.bind_some, skipHyphen?, if_pos rfl, Option.bind_some, hdays]
    exact hdate

theorem storedLength_eq_length {cs : List Char} (h : ∀ c ∈ cs, c.utf8Size = 1) :
    storedLength cs = cs.length := by
  have hfold (n : Nat) : cs.foldl (fun n c => n + c.utf8Size) n = n + cs.length := by
    induction cs generalizing n with
    | nil => rfl
    | cons c cs ih =>
        rw [List.foldl_cons, h c List.mem_cons_self,
          ih (fun d hd => h d (List.mem_cons_of_mem c hd)), List.length_cons]
        omega
  exact (hfold 0).trans (Nat.zero_add _)

end Iso

/-- A date is read from its written form. -/
theorem readIsoDate?_text (d : Date) : readIsoDate? d.text = some d := by
  have hsize : ∀ c ∈ d.text.toList, c.utf8Size = 1 := d.forall_text (by decide) (by decide)
  rw [readIsoDate?, Iso.readDateChars?, Iso.storedLength_eq_length hsize, d.length_text]
  exact Iso.readDatePart?_text d

end Dates

section Times

namespace TimeOfDay

variable (t : TimeOfDay)

theorem parts_lt : t.hour < 24 ∧ t.minute < 60 ∧ t.second < 60 ∧ t.micro < 1000000 := by
  have hday := t.lt_day
  simp only [dayMicros] at hday
  simp only [hour, minute, second, micro, seconds, secondMicros]
  omega

/-- A time of day is made of its parts. -/
theorem of?_parts : of? t.hour t.minute t.second t.micro = some t := by
  have hmicros :
      ((t.hour * 60 + t.minute) * 60 + t.second) * secondMicros + t.micro = t.micros := by
    simp only [hour, minute, second, micro, seconds, secondMicros]
    omega
  rw [of?, dif_pos t.parts_lt]
  simp only [hmicros]

/-- The fraction of a second, behind a point. -/
def fractionChars : List Char :=
  if t.micro = 0 then [] else '.' :: (Date.padded 6 t.micro).toList

theorem toList_text : t.text.toList = (Date.padded 2 t.hour).toList ++ ':' ::
    ((Date.padded 2 t.minute).toList ++ ':' :: ((Date.padded 2 t.second).toList ++
      t.fractionChars)) := by
  rw [text, fractionChars]
  split
  · simp only [String.toList_append, List.append_assoc, List.append_nil]
    rfl
  · simp only [String.toList_append, List.append_assoc]
    rfl

/-- What holds of digits, the colon and the point holds of all of a written time. -/
theorem forall_text {P : Char → Prop} (h : ∀ n < 10, P (Nat.digitChar n)) (hcolon : P ':')
    (hpoint : P '.') (t : TimeOfDay) : ∀ c ∈ t.text.toList, P c := by
  rcases t.parts_lt with ⟨hhour, hminute, hsecond, hmicro⟩
  -- There is a fraction only for microseconds that are not zero, and
  -- its digits are digits like the others.
  have hfraction : ∀ c ∈ t.fractionChars, P c := by
    rw [fractionChars]
    split
    · exact fun c hc => absurd hc List.not_mem_nil
    · exact List.forall_mem_cons.mpr ⟨hpoint, Date.forall_padded h (by decide) hmicro⟩
  rw [t.toList_text]
  simp only [List.mem_append, List.mem_cons]
  rintro c (hc | rfl | hc | rfl | hc | hc)
  · exact Date.forall_padded h (by decide) (by omega) c hc
  · exact hcolon
  · exact Date.forall_padded h (by decide) (by omega) c hc
  · exact hcolon
  · exact Date.forall_padded h (by decide) (by omega) c hc
  · exact hfraction c hc

end TimeOfDay

namespace Iso

variable {n : Nat} {left : Nat} {colons : Option Bool} {done : List Nat}

/-- A field that a colon and more follow. -/
theorem readFields?_colon (hn : n < 100) (hcolons : colons.getD true = true) {rest : List Char}
    (hrest : rest ≠ []) :
    readFields? (left + 1) colons done ((Date.padded 2 n).toList ++ ':' :: rest) =
      readFields? left (some true) (n :: done) rest := by
  rcases List.exists_cons_of_ne_nil hrest with ⟨c, cs, rfl⟩
  rw [readFields?, takeNumber?_padded 2 (by decide) hn]
  simp only [Option.bind_eq_bind, Option.bind_some, beq_self_eq_true, hcolons, Bool.and_self,
    if_true]

/-- A field at the end. -/
theorem readFields?_end (hn : n < 100) :
    readFields? (left + 1) colons done (Date.padded 2 n).toList =
      some ((n :: done).reverse, 0, true) := by
  rw [readFields?, takeNumber?_padded_end 2 (by decide) hn]
  rfl

/-- A field that a fraction of a second follows. -/
theorem readFields?_fraction (hn : n < 100) {micro : Nat} (hmicro : micro < 10 ^ 6) :
    readFields? (left + 1) (some true) done
        ((Date.padded 2 n).toList ++ '.' :: (Date.padded 6 micro).toList) =
      some ((n :: done).reverse, micro, true) := by
  -- All six digits are taken, so nothing is scaled and nothing is left over.
  have htake := takeNumber?_padded_end 6 (by decide) hmicro
  have hlength := (Date.padded_spec 6 (by decide) hmicro).1
  rw [readFields?, takeNumber?_padded 2 (by decide) hn]
  generalize (Date.padded 6 micro).toList = ds at htake hlength ⊢
  have hfraction : readFraction? ds = some (micro, true) := by
    rw [readFraction?, hlength, Nat.min_self]
    simp only [htake, Option.bind_eq_bind, Option.bind_some, Nat.sub_self, List.all_nil]
    exact congrArg (fun n => some (n, true)) (Nat.mul_one micro)
  rcases ds with _ | ⟨d, ds⟩
  · cases hlength
  · simp only [Option.bind_eq_bind, Option.bind_some, hfraction]
    rfl

/-- A clock is read from a written time of day. -/
theorem readClockPart?_text (t : TimeOfDay) : readClockPart? t.text.toList =
    some ⟨t.hour, t.minute, t.second, t.micro, true⟩ := by
  rcases t.parts_lt with ⟨hhour, hminute, hsecond, hmicro⟩
  -- Behind the seconds there is a fraction or nothing.
  have hseconds : readFields? 1 (some true) [t.minute, t.hour]
      ((Date.padded 2 t.second).toList ++ t.fractionChars) =
        some ([t.hour, t.minute, t.second], t.micro, true) := by
    rw [TimeOfDay.fractionChars]
    split
    · rename_i hzero
      rw [List.append_nil, readFields?_end (by omega), hzero]
      rfl
    · rw [readFields?_fraction (by omega) hmicro]
      rfl
  have hne : (Date.padded 2 t.second).toList ≠ [] := Date.padded_ne_nil (by decide) (by omega)
  rw [readClockPart?, t.toList_text, readFields?_colon (by omega) rfl (by simp),
    readFields?_colon (by omega) rfl (by simp [hne]), hseconds]
  rfl

end Iso

end Times

section Offsets

namespace Offset

/-- The offset of a clock that is told by hours and minutes. -/
structure IsWholeMinutes (o : Offset) : Prop where
  isProper : o.isProper = true
  dvd : 60 * secondMicros ∣ o.micros.natAbs

/-- How far the clock is ahead or behind, as a time of day. -/
def clock (o : Offset) : TimeOfDay := TimeOfDay.ofMicros o.micros.natAbs

/-- The sign, the hours and the minutes of an offset. -/
def chars (o : Offset) : List Char :=
  (if o.micros < 0 then '-' else '+') ::
    ((Date.padded 2 o.clock.hour).toList ++ ':' :: (Date.padded 2 o.clock.minute).toList)

/-- The first six characters of a written offset. -/
theorem chars_spec (o : Offset) : o.chars.length = 6 ∧ o.text.toList.take 6 = o.chars := by
  rcases o.clock.parts_lt with ⟨hhour, hminute, -⟩
  have hh := Date.padded_spec 2 (by decide) (Nat.lt_trans hhour (by decide))
  have hm := Date.padded_spec 2 (by decide) (Nat.lt_trans hminute (by decide))
  have hlength : o.chars.length = 6 := by
    simp only [chars, List.length_cons, List.length_append, hh.1, hm.1]
  obtain ⟨tail, htail⟩ : ∃ tail, o.text.toList = o.chars ++ tail := by
    rw [text, String.toList_append]
    refine ⟨_, congrArg (· ++ _) ?_⟩
    simp only [String.toList_append, List.append_assoc]
    rw [chars, clock]
    split <;> rfl
  exact ⟨hlength, by rw [htail, List.take_left' hlength]⟩

variable {o : Offset}

/-- Hours and minutes are all there is of such an offset. -/
theorem IsWholeMinutes.natAbs_micros (h : o.IsWholeMinutes) :
    (o.clock.hour * 60 + o.clock.minute) * 60 * secondMicros = o.micros.natAbs := by
  have hday : o.micros.natAbs < dayMicros := of_decide_eq_true h.isProper
  have hminutes := h.dvd
  have hmicros : o.clock.micros = o.micros.natAbs := Nat.mod_eq_of_lt hday
  simp only [TimeOfDay.hour, TimeOfDay.minute, TimeOfDay.seconds, hmicros]
  simp only [secondMicros] at hminutes ⊢
  omega

/-- What holds of digits, the signs and the colon holds of all of a written offset. -/
theorem forall_chars {P : Char → Prop} (h : ∀ n < 10, P (Nat.digitChar n)) (hplus : P '+')
    (hminus : P '-') (hcolon : P ':') (o : Offset) : ∀ c ∈ o.chars, P c := by
  rcases o.clock.parts_lt with ⟨hhour, hminute, -⟩
  have hsign : P (if o.micros < 0 then '-' else '+') := by
    split
    · exact hminus
    · exact hplus
  simp only [chars, List.mem_cons, List.mem_append]
  rintro c (rfl | hc | rfl | hc)
  · exact hsign
  · exact Date.forall_padded h (by decide) (by omega) c hc
  · exact hcolon
  · exact Date.forall_padded h (by decide) (by omega) c hc

end Offset

namespace Iso

variable {o : Offset}

/-- An offset is read from hours and minutes. -/
theorem readOffset?_chars (h : o.IsWholeMinutes) : readOffset? o.chars = some o := by
  rcases o.clock.parts_lt with ⟨hhour, hminute, -⟩
  -- The hours and minutes of an offset are read as those of a clock.
  have hpart : readClockPart? ((Date.padded 2 o.clock.hour).toList ++
      ':' :: (Date.padded 2 o.clock.minute).toList) =
        some ⟨o.clock.hour, o.clock.minute, 0, 0, true⟩ := by
    rw [readClockPart?,
      readFields?_colon (by omega) rfl (Date.padded_ne_nil (by decide) (by omega)),
      readFields?_end (by omega)]
    rfl
  have hmicros := h.natAbs_micros
  -- The sign that was written is the sign that is read.
  have hsign : (if (if o.micros < 0 then '-' else '+') == '-' then -(o.micros.natAbs : Int)
      else o.micros.natAbs) = o.micros := by
    by_cases hneg : o.micros < 0
    · rw [if_pos hneg, if_pos (by decide)]
      omega
    · rw [if_neg hneg, if_neg (by decide)]
      omega
  rw [Offset.chars, readOffset?.eq_def]
  split
  · rename_i heq
    split at heq <;> cases heq
  · rename_i heq
    obtain ⟨rfl, rfl⟩ := List.cons.inj heq
    rw [hpart]
    simp only [Option.bind_eq_bind, Option.bind_some, Nat.add_zero, hmicros, hsign, Bool.not_true,
      Bool.false_eq_true, if_false]
    split
    · rename_i hzero
      -- No hours and no minutes are universal time.
      have hnone : o.micros = 0 := by
        rw [hzero, Nat.zero_mul] at hmicros
        omega
      exact congrArg (fun n => some (Offset.mk n)) hnone.symm
    · exact if_pos (of_decide_eq_true h.isProper)
  · rename_i heq
    cases heq

end Iso

end Offsets

section Moments

namespace Iso

/-- A clock is read from a written time of day and the offset behind it. -/
theorem readClockChars?_text (t : TimeOfDay) {zone : Option Offset}
    (hzone : ∀ o ∈ zone, o.IsWholeMinutes) :
    readClockChars? (t.text.toList ++ zone.elim [] Offset.chars) = some ⟨t, zone⟩ := by
  have htime : ∀ c ∈ t.text.toList, (!startsOffset c) = true :=
    t.forall_text (by decide) (by decide) (by decide)
  rw [readClockChars?, List.takeWhile_append_of_pos htime, List.dropWhile_append_of_pos htime]
  -- Without an offset the text is that of the time alone.
  cases zone with
  | none =>
      rw [Option.elim_none, List.takeWhile_nil, List.dropWhile_nil, List.append_nil,
        readClockPart?_text]
      simp only [Option.bind_eq_bind, Option.bind_some, if_true, t.of?_parts]
      rfl
  | some o =>
      have hsign : ¬(!startsOffset (if o.micros < 0 then '-' else '+')) = true := by
        split <;> decide
      -- The sign is where the time ends and the offset begins.
      have htake : o.chars.takeWhile (fun c => !startsOffset c) = [] :=
        List.takeWhile_cons_of_neg hsign
      have hdrop : o.chars.dropWhile (fun c => !startsOffset c) = o.chars :=
        List.dropWhile_cons_of_neg hsign
      have hoffset := readOffset?_chars (hzone o rfl)
      rw [Option.elim_some, htake, hdrop, List.append_nil, readClockPart?_text]
      rw [Offset.chars] at hoffset ⊢
      simp only [Option.bind_eq_bind, Option.bind_some, hoffset, t.of?_parts]
      rfl

/-- The date at the front of a moment ends behind its tenth character. -/
theorem dateLength_text (d : Date) (rest : List Char) :
    dateLength (d.text.toList ++ rest) = 10 := by
  have hlength := d.length_text
  have hchars := d.toList_text
  have hyear := (Date.padded_spec 4 (by decide) d.parts_lt.1).1
  have hplain : ∀ c ∈ d.text.toList, c ≠ 'W' := d.forall_text (by decide) (by decide)
  -- From here on only the length, the hyphen behind the year and the lack of a week matter.
  generalize d.text.toList = cs at hlength hchars hplain ⊢
  have hhyphen : ((cs ++ rest)[4]?.map (· == '-')).getD false = true := by
    rw [List.getElem?_append_left (by omega), hchars, List.getElem?_append_right (by omega), hyear]
    rfl
  have hweek : ((cs ++ rest)[5]?.map (· == 'W')).getD false = false := by
    have hfive : 5 < cs.length := by omega
    rw [List.getElem?_append_left hfive, List.getElem?_eq_getElem hfive, Option.map_some,
      Option.getD_some, beq_eq_false_iff_ne]
    exact hplain _ (List.getElem_mem hfive)
  have hlong : (cs ++ rest).length ≠ 7 := by
    rw [List.length_append]
    omega
  have hnotWeek : ¬((cs ++ rest)[5]?.map (· == 'W')).getD false = true := by
    rw [hweek]
    exact Bool.false_ne_true
  rw [dateLength, if_neg hlong]
  exact (if_pos hhyphen).trans (if_neg hnotWeek)

/-- A moment is read from a written date, a written time and the offset behind it. -/
theorem readMomentChars?_text (m : Moment) (hzone : ∀ o ∈ m.offset, o.IsWholeMinutes) :
    readMomentChars? (m.date.text.toList ++
      'T' :: (m.time.text.toList ++ m.offset.elim [] Offset.chars)) = some m := by
  have hlength := m.date.length_text
  rw [readMomentChars?, if_neg (by rw [List.length_append]; omega), dateLength_text]
  dsimp only
  rw [List.take_left' hlength, List.drop_left' hlength, readDatePart?_text]
  dsimp only
  rw [readClockChars?_text m.time hzone]
  rfl

end Iso

namespace Value

/-- The character, spelled out if it is the letter for universal time. -/
def spelled (c : Char) : List Char :=
  if c = 'Z' then "+00:00".toList else [c]

theorem toList_spellUniversal (text : String) :
    (spellUniversal text).toList = text.toList.flatMap spelled :=
  String.toList_ofList

theorem flatMap_spelled {cs : List Char} (h : ∀ c ∈ cs, c ≠ 'Z') : cs.flatMap spelled = cs := by
  induction cs with
  | nil => rfl
  | cons c cs ih =>
      rw [List.flatMap_cons, spelled, if_neg (h c List.mem_cons_self),
        ih fun d hd => h d (List.mem_cons_of_mem c hd)]
      rfl

/-- An offset on the wire, spelled out. -/
theorem spelled_wireOffset {zone : Option Offset} (hzone : ∀ o ∈ zone, o.IsWholeMinutes) :
    (wireOffset zone).toList.flatMap spelled = zone.elim [] Offset.chars := by
  cases zone with
  | none => rfl
  | some o =>
      have hletter : ∀ c ∈ o.chars, c ≠ 'Z' :=
        o.forall_chars (by decide) (by decide) (by decide) (by decide)
      rw [wireOffset]
      split
      · rename_i hsecond
        -- Less than a second in whole minutes is nothing.
        have hnone : o = .utc := by
          have hmicros := (hzone o rfl).natAbs_micros
          cases o
          simp only [secondMicros, Offset.utc, Offset.mk.injEq] at hmicros hsecond ⊢
          omega
        rw [hnone]
        decide +kernel
      · rw [String.toList_ofList, o.chars_spec.2, flatMap_spelled hletter, Option.elim_some]

/-- A moment is read from its form on the wire. -/
theorem momentOfText_wireMoment {today : Date} {m : Moment}
    (hzone : ∀ o ∈ m.offset, o.IsWholeMinutes) : momentOfText today (wireMoment m) = .ok m := by
  have hdate : ∀ c ∈ m.date.text.toList, c ≠ 'Z' := m.date.forall_text (by decide) (by decide)
  have htime : ∀ c ∈ m.time.text.toList, c ≠ 'Z' :=
    m.time.forall_text (by decide) (by decide) (by decide)
  have hspelled : (spellUniversal (wireMoment m)).toList = m.date.text.toList ++
      'T' :: (m.time.text.toList ++ m.offset.elim [] Offset.chars) := by
    rw [toList_spellUniversal, wireMoment, String.toList_append, String.toList_append,
      String.toList_append, List.flatMap_append, List.flatMap_append, List.flatMap_append,
      flatMap_spelled hdate, flatMap_spelled htime, spelled_wireOffset hzone, List.append_assoc,
      List.append_assoc]
    rfl
  rw [momentOfText, readIsoMoment?, hspelled, Iso.readMomentChars?_text m hzone]

/-- No blank is in a moment on the wire. -/
theorem isBlank_of_mem_wireMoment (m : Moment) :
    ∀ c ∈ (wireMoment m).toList, isBlank c = false := by
  have hletter {a : Char} (ha : isBlank a = false) : ∀ c ∈ [a], isBlank c = false := fun c hc =>
    List.mem_singleton.mp hc ▸ ha
  have hoffset : ∀ c ∈ (wireOffset m.offset).toList, isBlank c = false := by
    cases m.offset with
    | none => exact fun c hc => absurd hc List.not_mem_nil
    | some o =>
        rw [wireOffset]
        split
        · exact hletter (a := 'Z') (by decide)
        · rw [String.toList_ofList, o.chars_spec.2]
          exact o.forall_chars (by decide) (by decide) (by decide) (by decide)
  rw [wireMoment]
  simp only [String.toList_append, List.mem_append]
  rintro c (((hc | hc) | hc) | hc)
  · exact m.date.forall_text (P := (isBlank · = false)) (by decide) (by decide) c hc
  · exact hletter (a := 'T') (by decide) c hc
  · exact m.time.forall_text (P := (isBlank · = false)) (by decide) (by decide) (by decide) c hc
  · exact hoffset c hc

end Value

end Moments

end Criteria
