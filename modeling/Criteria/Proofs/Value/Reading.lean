import Criteria.Proofs.Outcome
import Criteria.Value.Reading

/-!
# Failures of Readings

What goes wrong when loosely typed values are read as truths, dates and times.

A reading fails because the value has no reading, or because what it stands for is
out of range. There are two exceptions, both of them far from what anybody writes.
An instant that is given by seconds may be beyond what the system clock can name,
though not beyond what it can count; and a length of time may be written with the
long s, which looks like the letter of a unit and is none.

## Main definitions

* `Failure.isMisreading`, `Refusal.IsMisreading`: What goes wrong with a reading.

## Theorems

* `Value.failsOnly_readBool`, `Value.failsOnly_readTime`: Truths and times of day.
* `Value.failsOnly_readMoment`, `Value.failsOnly_readDate`: Moments and dates.
* `Moment.failsOnly_ofEpoch`, `Value.failsOnly_readInstant`: Instants, which may be
  beyond the clock.
* `Value.failsOnly_readDuration`: Lengths of time, which may be written with the
  long s.
-/

namespace Criteria

/-- A reading fails in this way: there is none, or it is out of range. -/
def Failure.isMisreading : Failure → Bool
  | .unreadable | .overflow => true
  | _ => false

/-- A reading is refused in this way. -/
def Refusal.IsMisreading (r : Refusal) : Prop :=
  r.cause.isMisreading = true

theorem failsOnly_unworded {α : Type} {x : Except Failure α}
    (h : FailsOnly (·.isMisreading = true) x) : FailsOnly Refusal.IsMisreading (unworded x) :=
  h.unworded fun _ hf => hf

section Epoch

/-- An instant is not there, out of range, or beyond the clock. -/
theorem Moment.failsOnly_ofEpoch (seconds : Binary64) :
    FailsOnly (fun f => f.isMisreading = true ∨ f = .beyondClock) (ofEpoch seconds) := by
  unfold ofEpoch
  split
  · split
    · exact failsOnly_error (.inl rfl)
    · exact failsOnly_error (.inl rfl)
  · dsimp only
    split
    · exact failsOnly_error (.inl rfl)
    · split
      · exact failsOnly_error (.inr rfl)
      · split
        · exact failsOnly_ok _
        · exact failsOnly_error (.inl rfl)

theorem Duration.failsOnly_ofSeconds (seconds : Binary64) :
    FailsOnly (·.isMisreading = true) (Duration.ofSeconds seconds) := by
  unfold Duration.ofSeconds
  split
  · split
    · exact failsOnly_error rfl
    · exact failsOnly_error rfl
  · split
    · exact failsOnly_ok _
    · exact failsOnly_error rfl

end Epoch

section Intervals

namespace Interval

theorem failsOnly_runValue (ds : List Char) : FailsOnly (·.isMisreading = true) (runValue ds) := by
  rw [runValue]
  split
  · exact failsOnly_error rfl
  · exact failsOnly_ok _

theorem failsOnly_ofMicros (n : Nat) : FailsOnly (·.isMisreading = true) (ofMicros n) := by
  rw [ofMicros]
  split
  · exact failsOnly_ok _
  · exact failsOnly_error rfl

theorem failsOnly_letterMicros {c : Char} {unit : Except Failure Nat} (hc : c ≠ 'ſ')
    (h : letterMicros? c = some unit) : FailsOnly (·.isMisreading = true) unit := by
  unfold letterMicros? at h
  split at h
  · exact Option.some.inj h ▸ failsOnly_ok _
  · exact Option.some.inj h ▸ failsOnly_ok _
  · exact Option.some.inj h ▸ failsOnly_ok _
  · exact Option.some.inj h ▸ failsOnly_ok _
  · rw [if_neg hc] at h
    exact Option.some.inj h ▸ failsOnly_ok _
  · exact absurd h (Option.some_ne_none unit).symm

theorem failsOnly_readShorthand {cs : List Char} {x : Except Failure Duration} (hcs : 'ſ' ∉ cs)
    (h : readShorthand? cs = some x) : FailsOnly (·.isMisreading = true) x := by
  unfold readShorthand? digitRun at h
  dsimp only at h
  split at h
  · exact absurd h (Option.some_ne_none x).symm
  · split at h
    · rename_i c hlast
      rcases Option.map_eq_some_iff.mp h with ⟨unit, hunit, rfl⟩
      -- The letter stands in the text, at its end.
      have hmem : c ∈ cs := by
        refine (List.dropWhile_sublist Text.isDecimal).subset ?_
        refine (List.dropWhile_sublist Text.isBlank).subset ?_
        rw [hlast]
        exact List.mem_singleton_self c
      have hc : c ≠ 'ſ' := fun heq => hcs (heq ▸ hmem)
      refine (failsOnly_letterMicros hc hunit).bind fun u _ => ?_
      exact (failsOnly_runValue _).bind fun n _ => failsOnly_ofMicros _
    · exact absurd h (Option.some_ne_none x).symm

theorem failsOnly_readColons {cs : List Char} {x : Except Failure Duration}
    (h : readColons? cs = some x) : FailsOnly (·.isMisreading = true) x := by
  unfold readColons? at h
  split at h
  · split at h
    · rw [← Option.some.inj h]
      refine (failsOnly_runValue _).bind fun hours _ => ?_
      refine (failsOnly_runValue _).bind fun minutes _ => ?_
      exact (failsOnly_runValue _).bind fun seconds _ => failsOnly_ofMicros _
    · exact absurd h (Option.some_ne_none x).symm
  · exact absurd h (Option.some_ne_none x).symm

theorem failsOnly_sumParts (parts : List (List Char × Nat)) :
    FailsOnly (·.isMisreading = true) (sumParts parts) := by
  induction parts with
  | nil => exact failsOnly_ok 0
  | cons part parts ih =>
      refine (failsOnly_runValue part.1).bind fun n _ => ?_
      exact ih.bind fun rest _ => failsOnly_ok _

end Interval

theorem Text.subset_trimChars (cs : List Char) : Text.trimChars cs ⊆ cs := by
  intro c hc
  rw [Text.trimChars, Text.stripChars, Text.dropEndWhile, List.mem_reverse] at hc
  have hdrop := (List.dropWhile_sublist Text.isBlank).subset hc
  exact (List.dropWhile_sublist Text.isBlank).subset (List.mem_reverse.mp hdrop)

/-- Without the long s a length of time is not there or out of range. -/
theorem failsOnly_readInterval {text : String} {x : Except Failure Duration}
    (htext : 'ſ' ∉ text.toList) (h : readInterval? text = some x) :
    FailsOnly (·.isMisreading = true) x := by
  -- Trimming adds no characters.
  have htrim : 'ſ' ∉ Text.trimChars text.toList := fun hmem =>
    htext (Text.subset_trimChars _ hmem)
  unfold readInterval? at h
  dsimp only at h
  -- The notations are tried in order: the shorthand, the colons, a
  -- number of seconds, and parts with names.
  split at h
  · rename_i y hy
    exact Option.some.inj h ▸ Interval.failsOnly_readShorthand htrim hy
  · split at h
    · rename_i y hy
      exact Option.some.inj h ▸ Interval.failsOnly_readColons hy
    · split at h
      · split at h
        · split at h
          · exact absurd h (Option.some_ne_none x).symm
          · exact Option.some.inj h ▸ Duration.failsOnly_ofSeconds _
        · exact absurd h (Option.some_ne_none x).symm
      · rw [← Option.some.inj h]
        exact (Interval.failsOnly_sumParts _).bind fun n _ => Interval.failsOnly_ofMicros n

end Intervals

section Moments

theorem FreeForm.failsOnly_toMoment (today : Date) (r : Reading) (ymd : Ymd) :
    FailsOnly (·.isMisreading = true) (r.toMoment today ymd) := by
  unfold Reading.toMoment
  dsimp only
  repeat' split
  all_goals first | exact failsOnly_ok _ | exact failsOnly_error rfl

theorem failsOnly_readFreeForm (today : Date) (text : String) :
    FailsOnly (·.isMisreading = true) (readFreeForm today text) := by
  unfold readFreeForm
  dsimp only
  split
  · exact failsOnly_error rfl
  · split
    · exact failsOnly_error rfl
    · split
      · exact failsOnly_error rfl
      · exact FreeForm.failsOnly_toMoment today _ _

end Moments

namespace Value

theorem failsOnly_readBool (v : Value) : FailsOnly Refusal.IsMisreading v.readBool := by
  have hword : FailsOnly Refusal.IsMisreading
      (if ["true", "1", "yes", "y", "on"].contains (Text.lower v.trimmed) then Except.ok true
        else if ["false", "0", "no", "n", "off"].contains (Text.lower v.trimmed) then .ok false
        else .error (.boolean v.literal)) := by
    split
    · exact failsOnly_ok _
    · split
      · exact failsOnly_ok _
      · exact failsOnly_error rfl
  unfold readBool
  split
  · exact hword
  · exact hword
  · exact failsOnly_ok _

theorem failsOnly_readTime (v : Value) : FailsOnly Refusal.IsMisreading v.readTime := by
  have hclock (literal : String) : (Refusal.clock literal).IsMisreading := rfl
  unfold readTime
  split
  · exact failsOnly_ok _
  · exact failsOnly_ok _
  · exact failsOnly_expected (hclock _) _

theorem failsOnly_momentOfText (today : Date) (text : String) :
    FailsOnly Refusal.IsMisreading (momentOfText today text) := by
  rw [momentOfText]
  split
  · exact failsOnly_ok _
  · exact failsOnly_unworded (failsOnly_readFreeForm today text)

theorem failsOnly_readMoment (today : Date) (v : Value) :
    FailsOnly Refusal.IsMisreading (v.readMoment today) := by
  unfold readMoment
  split
  · exact failsOnly_ok _
  · exact failsOnly_ok _
  · exact failsOnly_momentOfText today _

theorem failsOnly_readDate (today : Date) (v : Value) :
    FailsOnly Refusal.IsMisreading (v.readDate today) := by
  unfold readDate
  split
  · exact failsOnly_ok _
  · exact failsOnly_ok _
  · split
    · exact failsOnly_ok _
    · exact (failsOnly_momentOfText today _).map

theorem failsOnly_readDuration {v : Value} (hv : 'ſ' ∉ v.display.toList) :
    FailsOnly Refusal.IsMisreading v.readDuration := by
  unfold readDuration
  split
  · exact failsOnly_ok _
  · split
    · rename_i r hr
      exact failsOnly_unworded (failsOnly_readInterval hv hr)
    · exact failsOnly_error rfl

end Value

end Criteria
