import Criteria.Proofs.Number.Scripts
import Criteria.Proofs.Outcome
import Criteria.Proofs.Text.Trimming

/-!
# Lower Case Is Final

A text in lower case stays as it is when it is put into lower case again, and lower case
makes no blanks.

Both are facts about the tables. The tables move runs of code points, so what has to be
checked is where whole runs go (`lowerRuns_images`): past all runs of the table, past the
one character that becomes two, and past the blanks. Two runs are apart if one ends
before the other begins. They may also lie within each other and take turns, capital and
small letters one after the other, and then it is the parity of the code points that
keeps them apart.

A capital sigma is the one character whose small form depends on its neighbours. Its two
small forms are final as well, and there is none left in a text in lower case, so nothing
there depends on neighbours any more.

## Main definitions

* `CaseRun.image`: Where a run goes.
* `CaseRun.isApart`: No code point is in both runs.
* `IsSmallForm`: What may stand for a character in lower case.

## Theorems

* `small_of_mem_lowerChar`: The small form of a character is final, and no blank.
* `exists_smallForms`: A text in lower case, character by character.
* `lower_lower`: A text in lower case stays as it is.
* `trim_lower`: Lower case puts no blanks around a text.
-/

namespace Criteria

namespace Text

namespace CaseRun

variable {r other : CaseRun} {n : Nat}

/-- Where the code points of the run go. -/
def image (r : CaseRun) : CaseRun :=
  ⟨(r.first + r.shift).toNat, (r.last + r.shift).toNat, r.step, 0⟩

/-- No code point is in both runs: one ends before the other begins, or one has the even
    code points and the other the odd ones. -/
def isApart (r other : CaseRun) : Bool :=
  r.last < other.first || other.last < r.first ||
    (other.step == 2 && (r.step == 2 || r.first == r.last) && (r.first + other.first) % 2 == 1)

theorem covers_iff : r.covers n = true ↔
    r.first ≤ n ∧ n ≤ r.last ∧ (n - r.first) % r.step = 0 := by
  rw [covers, Bool.and_eq_true, Bool.and_eq_true, decide_eq_true_eq, decide_eq_true_eq, beq_iff_eq,
    and_assoc]

theorem not_covers_of_isApart (h : r.isApart other = true) (hn : r.covers n = true) :
    other.covers n = false := by
  rw [Bool.eq_false_iff]
  intro hother
  rw [covers_iff] at hn hother
  rw [isApart, Bool.or_eq_true, Bool.or_eq_true, decide_eq_true_eq, decide_eq_true_eq,
    Bool.and_eq_true, Bool.and_eq_true, Bool.or_eq_true, beq_iff_eq, beq_iff_eq, beq_iff_eq,
    beq_iff_eq] at h
  -- The runs lie before or behind each other, or in the same stretch by turns.
  rcases h with (h | h) | ⟨⟨hstep, hone | hone⟩, hparity⟩
  · omega
  · omega
  · rw [hstep] at hother
    rw [hone] at hn
    omega
  · rw [hstep] at hother
    omega

/-- What a run covers goes into its image. -/
theorem covers_image (hshift : 0 ≤ (r.first : Int) + r.shift) (hn : r.covers n = true) :
    r.image.covers (n + r.shift).toNat = true := by
  rw [covers_iff] at hn ⊢
  have hsame : (n + r.shift).toNat - (r.first + r.shift).toNat = n - r.first := by omega
  refine ⟨?_, ?_, ?_⟩
  · show (r.first + r.shift).toNat ≤ (n + r.shift).toNat
    omega
  · show (n + r.shift).toNat ≤ (r.last + r.shift).toNat
    omega
  · show ((n + r.shift).toNat - (r.first + r.shift).toNat) % r.step = 0
    rw [hsame]
    exact hn.2.2

end CaseRun

section Characters

variable {c d : Char}

/-- The first and last code points of the stretches of blanks. -/
def blankRanges : List (Nat × Nat) :=
  [(0x09, 0x0D), (0x1C, 0x20), (0x85, 0x85), (0xA0, 0xA0), (0x1680, 0x1680), (0x2000, 0x200A),
    (0x2028, 0x2029), (0x202F, 0x202F), (0x205F, 0x205F), (0x3000, 0x3000)]

/-- A blank lies in one of the stretches. -/
theorem exists_blankRange (h : isBlank c = true) :
    ∃ range ∈ blankRanges, range.1 ≤ c.toNat ∧ c.toNat ≤ range.2 := by
  simp only [isBlank, Bool.or_eq_true, Bool.and_eq_true, decide_eq_true_eq, beq_iff_eq] at h
  simp only [blankRanges, List.exists_mem_cons_iff, List.not_mem_nil, false_and, exists_false,
    or_false]
  omega

/-- The table moves letters to characters of which it moves none, and to no blanks. -/
theorem lowerRuns_images :
    (lowerRuns.toList.all fun r => 0 ≤ (r.first : Int) + r.shift) = true ∧
      ((lowerRuns.toList.map CaseRun.image).all fun i =>
        (i.last < 0xD800 || 0xDFFF < i.first && i.last < 0x110000) && !i.covers 0x130 &&
          blankRanges.all (fun range => i.last < range.1 || range.2 < i.first) &&
          lowerRuns.toList.all i.isApart) = true := by
  decide +kernel

/-- A code point is that of a character, unless it is one of the surrogates or too large. -/
theorem toNat_ofNat {n : Nat} (h : n < 0xD800 ∨ 0xDFFF < n ∧ n < 0x110000) :
    (Char.ofNat n).toNat = n := by
  have hvalid : n.isValidChar := h
  rw [Char.ofNat, dif_pos hvalid]
  rfl

/-- A character that the tables pass over is its own small form. -/
theorem lowerChar_eq_self (hfull : c.toNat ≠ 0x130)
    (hruns : ∀ r ∈ lowerRuns.toList, r.covers c.toNat = false) : lowerChar c = [c] := by
  -- Each table is searched in turn and gives nothing.
  rw [lowerChar]
  split
  · -- The capitals that are decided without the tables are in the tables as well.
    have hcapital := hruns ⟨0x41, 0x5A, 1, 32⟩ List.mem_cons_self
    rw [Bool.eq_false_iff, Ne, CaseRun.covers_iff, Nat.mod_one] at hcapital
    have hsame : c.toLower = c := dif_neg fun h => hcapital ⟨h.1, h.2, rfl⟩
    rw [hsame]
  · have hlookup : lowerFull.lookup c.toNat = none := by
      rw [lowerFull, List.lookup_cons, beq_eq_false_iff_ne.mpr hfull]
      rfl
    have hfind : lowerRuns.find? (fun r => r.covers c.toNat) = none := by
      refine Array.find?_eq_none.mpr fun r hr => ?_
      rw [hruns r (Array.mem_toList_iff.mpr hr)]
      exact Bool.false_ne_true
    rw [mapCase, hlookup, hfind]

/-- A character becomes a small one by the plain rule, becomes two, goes where a run of the
    table goes, or stays. -/
theorem lowerChar_cases (c : Char) :
    c.toNat < 0x80 ∧ lowerChar c = [c.toLower] ∨
      lowerChar c = [Char.ofNat 0x69, Char.ofNat 0x307] ∨
      (∃ r ∈ lowerRuns.toList, r.covers c.toNat = true ∧
        lowerChar c = [Char.ofNat (c.toNat + r.shift).toNat]) ∨
      lowerChar c = [c] := by
  unfold lowerChar
  split
  · rename_i hplain
    -- By the place where the character is found: plain capitals, the one that becomes two
    -- characters, a run, or nowhere.
    exact .inl ⟨hplain, rfl⟩
  · unfold mapCase
    split
    · rename_i ns hns
      rw [lowerFull, List.lookup_cons] at hns
      split at hns
      · rw [← Option.some.inj hns]
        exact .inr (.inl rfl)
      · cases hns
    · split
      · rename_i r hr
        have hcovers := Array.find?_some hr
        have hmem := Array.mem_toList_iff.mpr (Array.mem_of_find?_eq_some hr)
        exact .inr (.inr (.inl ⟨r, hmem, hcovers, rfl⟩))
      · exact .inr (.inr (.inr rfl))

/-- Where a run goes there are no capital letters and no blanks. -/
theorem small_of_covers {r : CaseRun} (hr : r ∈ lowerRuns.toList) (hc : r.covers c.toNat = true)
    (hd : d = Char.ofNat (c.toNat + r.shift).toNat) : lowerChar d = [d] ∧ isBlank d = false := by
  have hshift := of_decide_eq_true (List.all_eq_true.mp lowerRuns_images.1 r hr)
  have himage := List.all_eq_true.mp lowerRuns_images.2 r.image (List.mem_map_of_mem hr)
  rw [Bool.and_eq_true, Bool.and_eq_true, Bool.and_eq_true, Bool.not_eq_true', List.all_eq_true,
    List.all_eq_true] at himage
  rcases himage with ⟨⟨⟨hvalid, hfull⟩, hblank⟩, hapart⟩
  have hcovers := CaseRun.covers_image hshift hc
  have hrange := CaseRun.covers_iff.mp hcovers
  -- The image is a valid code, so reading the character back gives its number.
  have htoNat : d.toNat = (c.toNat + r.shift).toNat := by
    rw [Bool.or_eq_true, Bool.and_eq_true, decide_eq_true_eq, decide_eq_true_eq,
      decide_eq_true_eq] at hvalid
    rw [hd, toNat_ofNat (by omega)]
  rw [← htoNat] at hcovers hrange
  -- The image is no capital with a form of two characters, lies in no other run and is no blank.
  refine ⟨lowerChar_eq_self ?_ fun other hother => ?_, ?_⟩
  · intro hsame
    rw [← hsame, hcovers] at hfull
    cases hfull
  · exact CaseRun.not_covers_of_isApart (hapart other hother) hcovers
  · rw [Bool.eq_false_iff]
    intro hd
    rcases exists_blankRange hd with ⟨range, hmem, hlow, hhigh⟩
    have hoff := hblank range hmem
    rw [Bool.or_eq_true, decide_eq_true_eq, decide_eq_true_eq] at hoff
    omega

/-- The small form of a character is final, and it is no blank if the character is none. -/
theorem small_of_mem_lowerChar (h : d ∈ lowerChar c) :
    lowerChar d = [d] ∧ (isBlank c = false → isBlank d = false) := by
  rcases lowerChar_cases c with ⟨hplain, hc⟩ | hc | ⟨r, hr, hcovers, hc⟩ | hc
  -- Below 128 the claim is checked for all characters.
  · have hall : ∀ n < 0x80, lowerChar (Char.ofNat n).toLower = [(Char.ofNat n).toLower] ∧
        (isBlank (Char.ofNat n) = false → isBlank (Char.ofNat n).toLower = false) := by
      decide +kernel
    have hthis := hall c.toNat hplain
    rw [Char.ofNat_toNat] at hthis
    rw [hc, List.mem_singleton] at h
    rw [h]
    exact hthis
  · have hletter : lowerChar (Char.ofNat 0x69) = [Char.ofNat 0x69] ∧
        isBlank (Char.ofNat 0x69) = false := by decide +kernel
    have hdot : lowerChar (Char.ofNat 0x307) = [Char.ofNat 0x307] ∧
        isBlank (Char.ofNat 0x307) = false := by decide +kernel
    rw [hc, List.mem_pair] at h
    rcases h with rfl | rfl
    · exact ⟨hletter.1, fun _ => hletter.2⟩
    · exact ⟨hdot.1, fun _ => hdot.2⟩
  · rw [hc, List.mem_singleton] at h
    have hthis := small_of_covers hr hcovers h
    exact ⟨hthis.1, fun _ => hthis.2⟩
  · rw [hc, List.mem_singleton] at h
    rw [h]
    exact ⟨hc, id⟩

theorem lowerChar_ne_nil (c : Char) : lowerChar c ≠ [] := by
  rcases lowerChar_cases c with ⟨-, hc⟩ | hc | ⟨r, -, -, hc⟩ | hc
  all_goals
    rw [hc]
    exact List.cons_ne_nil _ _

theorem lowerChar_sigma : lowerChar 'Σ' = ['σ'] := by
  decide +kernel

/-- What may stand for a character in lower case: its small form, or for a capital sigma
    the form that it has at the end of a word. -/
def IsSmallForm (c : Char) (form : List Char) : Prop :=
  form = lowerChar c ∨ c = 'Σ' ∧ form = ['ς']

namespace IsSmallForm

variable {form : List Char}

theorem ne_nil (h : IsSmallForm c form) : form ≠ [] := by
  rcases h with rfl | ⟨-, rfl⟩
  · exact lowerChar_ne_nil c
  · exact List.cons_ne_nil _ _

/-- Whatever may stand for a character is final, and no blank if the character is none. -/
theorem small (h : IsSmallForm c form) (hd : d ∈ form) :
    lowerChar d = [d] ∧ (isBlank c = false → isBlank d = false) := by
  rcases h with rfl | ⟨-, rfl⟩
  · exact small_of_mem_lowerChar hd
  · rw [List.mem_singleton.mp hd]
    have hsigma : lowerChar 'ς' = ['ς'] ∧ isBlank 'ς' = false := by decide +kernel
    exact ⟨hsigma.1, fun _ => hsigma.2⟩

end IsSmallForm

end Characters

section Texts

variable {cs : List Char} {forms : List (List Char)} {s : String} {d : Char}

theorem exists_lowerAfter (before cs : List Char) :
    ∃ forms, List.Forall₂ IsSmallForm cs forms ∧ lowerAfter before cs = forms.flatten := by
  -- Induction on the text, with what stands before it; only sigma looks at what is around it.
  induction cs generalizing before with
  | nil => exact ⟨[], .nil, rfl⟩
  | cons c cs ih =>
      rcases ih (c :: before) with ⟨forms, hforms, heq⟩
      rw [lowerAfter, heq]
      by_cases hsigma : c = 'Σ'
      · refine ⟨[lowerSigma before cs] :: forms, .cons ?_ hforms, ?_⟩
        · rw [lowerSigma]
          split
          · exact .inr ⟨hsigma, rfl⟩
          · exact .inl (by rw [hsigma, lowerChar_sigma])
        · rw [if_pos hsigma, List.flatten_cons]
      · refine ⟨lowerChar c :: forms, .cons (.inl rfl) hforms, ?_⟩
        rw [if_neg hsigma, List.flatten_cons]

/-- A text in lower case has a small form of each character. -/
theorem exists_smallForms (s : String) :
    ∃ forms, List.Forall₂ IsSmallForm s.toList forms ∧ (lower s).toList = forms.flatten := by
  rw [lower, String.toList_ofList]
  split
  · exact exists_lowerAfter [] s.toList
  · refine ⟨s.toList.map lowerChar, ?_, List.flatMap_def⟩
    exact List.forall₂_map_right_iff.mpr (List.forall₂_same.mpr fun c _ => .inl rfl)

/-- The first of the small forms of a text is one of its first character. -/
theorem exists_head_of_smallForms (h : List.Forall₂ IsSmallForm cs forms)
    (hd : d ∈ forms.flatten.head?) : ∃ c ∈ cs.head?, ∃ form, IsSmallForm c form ∧ d ∈ form := by
  cases h with
  | nil => cases hd
  | @cons c form cs forms hform hforms =>
      rw [List.flatten_cons, List.head?_append_of_ne_nil _ hform.ne_nil] at hd
      exact ⟨c, rfl, form, hform, List.mem_of_head? hd⟩

/-- The last of the small forms of a text is one of its last character. -/
theorem exists_getLast_of_smallForms (h : List.Forall₂ IsSmallForm cs forms)
    (hd : d ∈ forms.flatten.getLast?) :
    ∃ c ∈ cs.getLast?, ∃ form, IsSmallForm c form ∧ d ∈ form := by
  induction h with
  | nil => cases hd
  | @cons c form cs forms hform hforms ih =>
      cases hforms with
      -- The last character comes from the last form, which is not empty.
      | nil =>
          rw [List.flatten_cons, List.flatten_nil, List.append_nil] at hd
          exact ⟨c, rfl, form, hform, List.mem_of_getLast? hd⟩
      | @cons c' form' cs forms hform' hforms =>
          have hne : (form' :: forms).flatten ≠ [] := by
            rw [List.flatten_cons]
            exact List.append_ne_nil_of_left_ne_nil hform'.ne_nil _
          rw [List.flatten_cons, List.getLast?_append_of_ne_nil _ hne] at hd
          rw [List.getLast?_cons_cons]
          exact ih hd

/-- The characters of a text in lower case are final. -/
theorem lowerChar_of_mem_lower (h : d ∈ (lower s).toList) : lowerChar d = [d] := by
  rcases exists_smallForms s with ⟨forms, hforms, heq⟩
  rw [heq] at h
  rcases List.mem_flatten.mp h with ⟨form, hform, hd⟩
  rcases forall₂_exists_left hforms hform with ⟨c, -, hsmall⟩
  exact (hsmall.small hd).1

/-- A text in lower case stays as it is. -/
theorem lower_lower (s : String) : lower (lower s) = lower s := by
  have hsigma : ∀ d ∈ (lower s).toList, d ≠ 'Σ' := by
    rintro d hd rfl
    have hfinal := lowerChar_of_mem_lower hd
    rw [lowerChar_sigma] at hfinal
    exact absurd (List.head_eq_of_cons_eq hfinal) (by decide)
  have hsame : (lower s).toList.flatMap lowerChar = (lower s).toList := by
    rw [List.flatMap_congr fun d hd => lowerChar_of_mem_lower hd]
    exact List.flatMap_singleton' _
  rw [lower_eq_flatMap hsigma, hsame, String.ofList_toList]

/-- Without blanks around it a text has none in lower case either. -/
theorem trim_lower (h : trim s = s) : trim (lower s) = lower s := by
  have hends : stripChars isBlank s.toList = s.toList := by
    have hlist := congrArg String.toList h
    rwa [trim, String.toList_ofList] at hlist
  rw [stripChars_eq_self_iff] at hends
  rcases exists_smallForms s with ⟨forms, hforms, heq⟩
  have hlower : trimChars (lower s).toList = (lower s).toList := by
    rw [heq]
    refine stripChars_eq_self_iff.mpr ⟨fun d hd => ?_, fun d hd => ?_⟩
    · rcases exists_head_of_smallForms hforms hd with ⟨c, hc, form, hform, hd⟩
      exact (hform.small hd).2 (hends.1 c hc)
    · rcases exists_getLast_of_smallForms hforms hd with ⟨c, hc, form, hform, hd⟩
      exact (hform.small hd).2 (hends.2 c hc)
  rw [trim, hlower, String.ofList_toList]

end Texts

end Text

end Criteria
