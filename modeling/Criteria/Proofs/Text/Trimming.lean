import Criteria.Text.Blank
import Mathlib.Data.List.DropRight

/-!
# Trimming

What stripping takes off the ends of a text, and when there is nothing to take off.

Stripping works on the front and then on the back. Stated about the ends alone, its laws
do not show that order: what is taken off may be put back in front and behind
(`exists_stripChars`), more of it makes no difference (`stripChars_append_left`,
`stripChars_append_right`), and a text is left alone if its first and its last character
are (`stripChars_eq_self_iff`).

## Theorems

* `stripChars_append_left`, `stripChars_append_right`: What is stripped off.
* `stripChars_eq_self_iff`: What is left alone.
* `exists_stripChars`: A text is what is left of it between what is stripped off.
* `trim_trim`: A text is trimmed once.
-/

namespace Criteria

namespace Text

variable {p : Char → Bool} {cs ds : List Char}

/-- What is stripped off makes no difference in front of a text. -/
theorem stripChars_append_left (h : ∀ c ∈ cs, p c = true) :
    stripChars p (cs ++ ds) = stripChars p ds := by
  rw [stripChars, stripChars, List.dropWhile_append_of_pos h]

/-- What is stripped off makes no difference behind a text. -/
theorem stripChars_append_right (h : ∀ c ∈ cs, p c = true) :
    stripChars p (ds ++ cs) = stripChars p ds := by
  have hend (ds : List Char) : dropEndWhile p (ds ++ cs) = dropEndWhile p ds := by
    rw [dropEndWhile, dropEndWhile, List.reverse_append,
      List.dropWhile_append_of_pos fun c hc => h c (List.mem_reverse.mp hc)]
  rw [stripChars, stripChars, List.dropWhile_append]
  split
  · -- Nothing is left of the text itself.
    rename_i hempty
    rw [List.isEmpty_iff.mp hempty, dropWhile_eq_nil_iff.mpr h]
  · exact hend _

theorem dropWhile_eq_self_iff : cs.dropWhile p = cs ↔ ∀ c ∈ cs.head?, p c = false := by
  cases cs with
  | nil => exact iff_of_true rfl nofun
  | cons c cs =>
      rw [List.dropWhile_eq_self_iff, List.head?_cons]
      constructor
      · intro h d hd
        rw [← Option.some.inj hd]
        exact Bool.eq_false_iff.mpr (h (Nat.succ_pos _))
      · exact fun h _ => Bool.eq_false_iff.mp (h c rfl)

theorem dropEndWhile_eq_self_iff : dropEndWhile p cs = cs ↔ ∀ c ∈ cs.getLast?, p c = false := by
  rw [← List.head?_reverse, ← dropWhile_eq_self_iff, dropEndWhile, List.reverse_eq_iff]

/-- A text is left alone if its first and its last character are. -/
theorem stripChars_eq_self_iff : stripChars p cs = cs ↔
    (∀ c ∈ cs.head?, p c = false) ∧ ∀ c ∈ cs.getLast?, p c = false := by
  rw [← dropWhile_eq_self_iff, ← dropEndWhile_eq_self_iff]
  constructor
  · intro h
    -- Nothing can have been taken off the front, or the text would be shorter.
    have hback : stripChars p cs <+: cs.dropWhile p := List.rdropWhile_prefix p _
    have hlength := hback.length_le
    rw [h] at hlength
    have hfront : cs.dropWhile p = cs := (List.dropWhile_suffix p).eq_of_length_le hlength
    rw [stripChars, hfront] at h
    exact ⟨hfront, h⟩
  · rintro ⟨hfront, hback⟩
    rw [stripChars, hfront, hback]

/-- A text is what is left of it between what is stripped off. -/
theorem exists_stripChars (p : Char → Bool) (cs : List Char) :
    ∃ front back, (∀ c ∈ front, p c = true) ∧ (∀ c ∈ back, p c = true) ∧
      cs = front ++ stripChars p cs ++ back := by
  refine ⟨cs.takeWhile p, (cs.dropWhile p).rtakeWhile p, fun c hc => List.mem_takeWhile_imp hc,
    fun c hc => List.mem_rtakeWhile_imp hc, ?_⟩
  have hback : stripChars p cs ++ (cs.dropWhile p).rtakeWhile p = cs.dropWhile p :=
    List.rdropWhile_append_rtakeWhile
  rw [List.append_assoc, hback, List.takeWhile_append_dropWhile]

/-- Blanks that are gone stay gone. -/
theorem trimChars_trimChars (cs : List Char) : trimChars (trimChars cs) = trimChars cs := by
  have hprefix : trimChars cs <+: cs.dropWhile isBlank := List.rdropWhile_prefix isBlank _
  have hfront : (trimChars cs).dropWhile isBlank = trimChars cs := by
    refine List.dropWhile_eq_self_iff.mpr fun hl => ?_
    rw [List.IsPrefix.getElem hprefix hl]
    exact List.dropWhile_get_zero_not isBlank cs (Nat.lt_of_lt_of_le hl hprefix.length_le)
  show ((trimChars cs).dropWhile isBlank).rdropWhile isBlank = trimChars cs
  rw [hfront]
  exact List.rdropWhile_idempotent isBlank (cs.dropWhile isBlank)

theorem trim_trim (s : String) : trim (trim s) = trim s := by
  rw [trim, trim, String.toList_ofList, trimChars_trimChars]

end Text

end Criteria
