import Criteria.Proofs.Calendar.Written
import Mathlib.Data.List.TakeWhile

/-!
# Written Times of Day and the Patterns

A written time of day is read by one of the patterns of the clock, and as the time
that it was written for.

Patterns are tried one after the other, so it matters that none of them takes what
was meant for a later one. A time with a fraction of a second also begins with hours
and minutes, and with hours, minutes and seconds; these two patterns match at its
front, but they leave something over. Within a pattern the first way of a piece is
the right one, because written numbers have two digits and no hour, minute or second
of a day is a leap second.

## Main definitions

* `ClockPattern.Piece.Takes`: The first way of a piece.

## Theorems

* `ClockPattern.matchPattern_cons`: A pattern matches piece by piece.
* `ClockPattern.matchPattern_hours`, `ClockPattern.matchPattern_seconds`: What a
  pattern makes of the parts of a written time.
* `readClock?_text`: A time of day is read from its written form.
-/

namespace Criteria

open Text Numeral

namespace ClockPattern

variable {f g h : Found} {cs rest : List Char} {n : Nat}

/-- The first way in which a piece matches at the front of a list. -/
def Piece.Takes (p : Piece) (f : Found) (cs : List Char) (g : Found) (rest : List Char) : Prop :=
  ∃ more, p.ways f cs = (g, rest) :: more

/-- A pattern matches piece by piece. -/
theorem matchPattern_cons {p : Piece} {ps : List Piece} {left : List Char}
    (hp : p.Takes f cs g rest) (hps : matchPattern ps g rest = some (h, left)) :
    matchPattern (p :: ps) f cs = some (h, left) := by
  rcases hp with ⟨more, hways⟩
  rw [matchPattern, hways, List.findSome?_cons]
  dsimp only
  rw [hps]

section Pieces

/-- The two digits of a number. -/
theorem toList_padded : ∀ n < 60, (Date.padded 2 n).toList =
    [Nat.digitChar (n / 10), Nat.digitChar (n % 10)] := by
  decide

theorem digitsValue_padded : ∀ n < 60,
    digitsValue [Nat.digitChar (n / 10), Nat.digitChar (n % 10)] = n := by
  decide

/-- Two written digits match where each passes its test. -/
theorem twoDigits_padded (hn : n < 60) (first second : Char → Bool) (rest : List Char) :
    twoDigits first second ((Date.padded 2 n).toList ++ rest) =
      if first (Nat.digitChar (n / 10)) && second (Nat.digitChar (n % 10)) then [(n, rest)]
      else [] := by
  rw [toList_padded n hn, List.cons_append, List.cons_append, List.nil_append, twoDigits,
    digitsValue_padded n hn]

/-- The hour of the day. -/
theorem takes_hour (hn : n < 24) (f : Found) (rest : List Char) :
    Piece.hour24.Takes f ((Date.padded 2 n).toList ++ rest) { f with hour := n } rest := by
  -- An hour of the twenties fails the test of the other hours, and they fail its test.
  have htests : ∀ n < 24, ((Nat.digitChar (n / 10) == '2') &&
      digitIn '0' '3' (Nat.digitChar (n % 10))) = true ∨
      ((Nat.digitChar (n / 10) == '2') && digitIn '0' '3' (Nat.digitChar (n % 10))) = false ∧
      (digitIn '0' '1' (Nat.digitChar (n / 10)) && isDecimal (Nat.digitChar (n % 10))) = true := by
    decide
  have hsixty : n < 60 := Nat.lt_trans hn (by decide)
  rw [Piece.Takes, Piece.ways, twoDigits_padded hsixty, twoDigits_padded hsixty]
  rcases htests n hn with htest | ⟨hnot, htest⟩
  · rw [htest]
    exact ⟨_, rfl⟩
  · rw [hnot, htest]
    exact ⟨_, rfl⟩

theorem sixty_tests : ∀ n < 60, (digitIn '0' '5' (Nat.digitChar (n / 10)) &&
    isDecimal (Nat.digitChar (n % 10))) = true := by
  decide

/-- The minute of the hour. -/
theorem takes_minute (hn : n < 60) (f : Found) (rest : List Char) :
    Piece.minute.Takes f ((Date.padded 2 n).toList ++ rest) { f with minute := n } rest := by
  rw [Piece.Takes, Piece.ways, twoDigits_padded hn, sixty_tests n hn]
  exact ⟨_, rfl⟩

/-- The second of the minute; it is no leap second. -/
theorem takes_second (hn : n < 60) (f : Found) (rest : List Char) :
    Piece.second.Takes f ((Date.padded 2 n).toList ++ rest) { f with second := n } rest := by
  have hleap : ∀ n < 60, ((Nat.digitChar (n / 10) == '6') &&
      digitIn '0' '1' (Nat.digitChar (n % 10))) = false := by
    decide
  rw [Piece.Takes, Piece.ways, twoDigits_padded hn, twoDigits_padded hn, hleap n hn,
    sixty_tests n hn]
  exact ⟨_, rfl⟩

/-- The microseconds of the second. -/
theorem takes_fraction (hn : n < 10 ^ 6) (f : Found) :
    Piece.fraction.Takes f (Date.padded 6 n).toList { f with micro := n } [] := by
  have hspec := Date.padded_spec 6 (by decide) hn
  generalize (Date.padded 6 n).toList = ds at hspec ⊢
  have hfractions : ∃ more, fractions ds = (n, []) :: more := by
    have htake : ds.take 6 = ds := List.take_of_length_le (Nat.le_of_eq hspec.1)
    have hdrop : ds.drop 6 = [] := List.drop_eq_nil_of_le (Nat.le_of_eq hspec.1)
    have hlongest : ds.takeWhile Char.isDigit = ds :=
      List.takeWhile_eq_self_iff.mpr hspec.2.1
    have hrange : (List.range 6).reverse = [5, 4, 3, 2, 1, 0] := by decide
    rw [fractions, htake, hlongest, hspec.1, hrange, List.map_cons, htake, hdrop, hspec.2.2]
    exact ⟨_, congrArg (fun k => (k, []) :: _) (Nat.mul_one n)⟩
  rcases hfractions with ⟨more, hmore⟩
  exact ⟨more.map _, by rw [Piece.ways, hmore, List.map_cons]⟩

theorem takes_mark (c : Char) (f : Found) (rest : List Char) :
    (Piece.mark c).Takes f (c :: rest) f rest :=
  ⟨[], if_pos (beq_self_eq_true c)⟩

end Pieces

section Patterns

variable (t : TimeOfDay) {ps : List Piece} {left : List Char}

/-- What a pattern makes of hours and minutes, given what it makes of the rest. -/
theorem matchPattern_hours
    (hps : matchPattern ps { hour := t.hour, minute := t.minute } rest = some (h, left)) :
    matchPattern (.hour24 :: .mark ':' :: .minute :: ps) {} ((Date.padded 2 t.hour).toList ++
      ':' :: ((Date.padded 2 t.minute).toList ++ rest)) = some (h, left) :=
  matchPattern_cons (takes_hour t.parts_lt.1 _ _) (matchPattern_cons (takes_mark ':' _ _)
    (matchPattern_cons (takes_minute t.parts_lt.2.1 _ _) hps))

/-- What a pattern makes of seconds, given what it makes of the rest. -/
theorem matchPattern_seconds
    (hps : matchPattern ps { f with second := t.second } rest = some (h, left)) :
    matchPattern (.mark ':' :: .second :: ps) f
      (':' :: ((Date.padded 2 t.second).toList ++ rest)) = some (h, left) :=
  matchPattern_cons (takes_mark ':' _ _) (matchPattern_cons (takes_second t.parts_lt.2.2.1 _ _) hps)

/-- A pattern that leaves something over reads nothing. -/
theorem readPattern?_of_left {p : List Piece} (hleft : left ≠ [])
    (h : matchPattern p {} cs = some (h, left)) : readPattern? cs p = none := by
  rcases List.exists_cons_of_ne_nil hleft with ⟨c, cs', rfl⟩
  rw [readPattern?, h]

/-- A pattern that leaves nothing over reads the time that was found. -/
theorem readPattern?_of_all {p : List Piece} (h : matchPattern p {} cs =
    some ({ hour := t.hour, minute := t.minute, second := t.second, micro := t.micro }, [])) :
    readPattern? cs p = some t := by
  rw [readPattern?, h]
  exact t.of?_parts

/-- Of the first three patterns the first reads a time without a fraction of a second,
    and the third one with a fraction. -/
theorem findSome?_readPattern? :
    clockPatterns.findSome? (readPattern? t.text.toList) = some t := by
  -- The pattern with seconds reads everything up to the fraction.
  have hall : matchPattern [.hour24, .mark ':', .minute, .mark ':', .second] {} t.text.toList =
      some ({ hour := t.hour, minute := t.minute, second := t.second }, t.fractionChars) := by
    rw [t.toList_text]
    exact matchPattern_hours t (matchPattern_seconds t rfl)
  rw [clockPatterns, List.findSome?_cons]
  -- Whether the first pattern leaves anything over is whether there is a fraction.
  by_cases hzero : t.micro = 0
  · rw [TimeOfDay.fractionChars, if_pos hzero] at hall
    rw [readPattern?_of_all t (by rw [hall, hzero])]
  · have hfraction : t.fractionChars = '.' :: (Date.padded 6 t.micro).toList := if_neg hzero
    have hhours : matchPattern [.hour24, .mark ':', .minute] {} t.text.toList =
        some ({ hour := t.hour, minute := t.minute },
          ':' :: ((Date.padded 2 t.second).toList ++ t.fractionChars)) := by
      rw [t.toList_text]
      exact matchPattern_hours t rfl
    have hlast : matchPattern [.mark '.', .fraction]
        { hour := t.hour, minute := t.minute, second := t.second } t.fractionChars =
          some ({ hour := t.hour, minute := t.minute, second := t.second, micro := t.micro },
            []) := by
      rw [hfraction]
      exact matchPattern_cons (takes_mark '.' _ _)
        (matchPattern_cons (takes_fraction t.parts_lt.2.2.2 _) rfl)
    have hmicros := matchPattern_hours t (matchPattern_seconds t hlast)
    rw [← t.toList_text] at hmicros
    rw [readPattern?_of_left (by rw [hfraction]; exact List.cons_ne_nil _ _) hall]
    dsimp only
    rw [List.findSome?_cons, readPattern?_of_left (List.cons_ne_nil _ _) hhours]
    dsimp only
    rw [List.findSome?_cons, readPattern?_of_all t hmicros]

end Patterns

end ClockPattern

/-- A time of day is read from its written form. -/
theorem readClock?_text (t : TimeOfDay) : readClock? t.text = some ⟨t, none⟩ := by
  have hblank : ∀ c ∈ t.text.toList, isBlank c = false :=
    t.forall_text (by decide) (by decide) (by decide)
  have hupper : upper t.text = t.text := by
    have hchars : ∀ c ∈ t.text.toList, upperChar c = [c] :=
      t.forall_text (by decide) (by decide +kernel) (by decide +kernel)
    rw [upper, List.flatMap_congr hchars, List.flatMap_singleton', String.ofList_toList]
  rw [readClock?, trim_eq_self hblank, hupper, ClockPattern.findSome?_readPattern?]

end Criteria
