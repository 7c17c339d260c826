import Criteria.Filter.Operator
import Criteria.Proofs.Outcome
import Criteria.Proofs.Text.LowerCase

/-!
# Spellings of Words

A word of the filter language is known by its normal form, and by nothing else about its
spelling.

A spelling is looked up up to three times. If it is a wire form as it stands, that settles
it. Otherwise it may be one of the further spellings once it is trimmed and in lower case,
and what it stands for is brought into normal form and looked up among the further
spellings once more. In an arbitrary vocabulary these rounds may well disagree.

`Vocabulary.IsPlain` says what keeps them together: further spellings hold nothing that
the normal form leaves out, they stand for wire forms, and wire forms are normal and are
no further spellings. Under these conditions all rounds together are one: the normal form
is looked up (`IsPlain.reduce_eq`). That rests on a fact about texts. The second round
brings into normal form what is trimmed and in lower case already, which must not change
what the normal form is (`normalForm_lower_trim`).

All conditions are about the words of a vocabulary, and are decided for each one.

## Main definitions

* `Vocabulary.IsPlain`: The rounds in which a word is looked up agree.
* `Vocabulary.IsReadByNormalForm`: The words are known by their normal forms.

## Theorems

* `normalForm_lower_trim`: A normal form is not changed by trimming and lower case.
* `Vocabulary.IsPlain.reduce_eq`: Looking up a word is looking up its normal form.
* `Vocabulary.IsPlain.isReadByNormalForm`: So it is in every plain vocabulary.
* `filterWords_isReadByNormalForm`: The words of the filter language.
-/

namespace Criteria

/-- A text that is trimmed and in lower case has the normal form it had before. -/
theorem normalForm_lower_trim (s : String) :
    normalForm (Text.lower (Text.trim s)) = normalForm s := by
  rw [normalForm, Text.trim_lower (Text.trim_trim s), Text.lower_lower, normalForm]

namespace Vocabulary

variable {α : Type} {v : Vocabulary α} {s other : String}

/-- Further spellings are in normal form but for case, and stand for wire forms. Wire forms
    are in normal form, are no further spellings, and tell the words apart. -/
def IsPlain (v : Vocabulary α) : Prop :=
  (∀ e ∈ v.spellings, (∀ c ∈ e.1.toList, isFiller c = false) ∧ e.2 ∈ v.wires) ∧
    (∀ w ∈ v.wires, normalForm w = w ∧ v.spellings.lookup w = none) ∧ v.wires.Nodup

-- One goes through the characters of the spellings, not through all characters there are.
instance (v : Vocabulary α) : Decidable v.IsPlain :=
  have (cs : List Char) : Decidable (∀ c ∈ cs, isFiller c = false) := List.decidableBAll _ cs
  inferInstanceAs (Decidable ((∀ e ∈ v.spellings, _) ∧ _))

/-- A spelling that is looked up stands for itself, or for a wire form. -/
theorem respell_cases (v : Vocabulary α) (s : String) :
    v.spellings.lookup s = none ∧ v.respell s = s ∨
      (s, v.respell s) ∈ v.spellings ∧ v.spellings.lookup s = some (v.respell s) := by
  rw [respell]
  cases h : v.spellings.lookup s with
  | none => exact .inl ⟨rfl, rfl⟩
  | some w =>
      rcases List.lookup_eq_some_iff.mp h with ⟨before, after, hsplit, -⟩
      refine .inr ⟨?_, rfl⟩
      rw [hsplit]
      exact List.mem_append_right _ List.mem_cons_self

theorem respell_of_lookup_eq_none (h : v.spellings.lookup s = none) : v.respell s = s := by
  rw [respell, h, Option.getD_none]

/-- What a word is read as depends on what is found for it. -/
theorem read_text (v : Vocabulary α) (s : String) :
    v.read (.text s) = expected (.notWire (Text.quoted s) v.name) (v.find? s) :=
  rfl

namespace IsPlain

/-- All rounds of looking up a word are one: its normal form is looked up. -/
theorem reduce_eq (h : v.IsPlain) (s : String) : v.reduce s = v.respell (normalForm s) := by
  rcases h with ⟨hspellings, hwires, -⟩
  rw [reduce]
  rcases v.respell_cases (Text.lower (Text.trim s)) with ⟨-, hself⟩ | ⟨hmem, hlookup⟩
  · rw [hself, normalForm_lower_trim]
  · rcases hspellings _ hmem with ⟨hplain, hwire⟩
    -- A further spelling is its own normal form.
    have hnormal : normalForm s = Text.lower (Text.trim s) := by
      rw [normalForm, List.filter_eq_self.mpr fun c hc => by rw [hplain c hc]; rfl,
        String.ofList_toList]
    rcases hwires _ hwire with ⟨hfixed, hfinal⟩
    rw [hnormal, hfixed, respell_of_lookup_eq_none hfinal]

/-- A word is the one whose wire form the normal form is, or stands for. -/
theorem find?_eq (h : v.IsPlain) (s : String) :
    v.find? s = v.ofWire? (v.respell (normalForm s)) := by
  rw [find?, ofWire?, h.reduce_eq]

/-- A wire form stands for the word that it is the wire form of. -/
theorem ofWire?_wire (h : v.IsPlain) {k : Keyword α} (hk : k ∈ v.words) :
    v.ofWire? k.wire = some k.word := by
  rw [ofWire?]
  cases hfind : v.words.find? (·.wire == k.wire) with
  | none =>
      have hmissing := List.find?_eq_none.mp hfind k hk
      exact absurd (beq_self_eq_true k.wire) hmissing
  | some other =>
      have hsame := List.find?_some hfind
      rw [beq_iff_eq] at hsame
      rw [List.inj_on_of_nodup_map h.2.2 (List.mem_of_find?_eq_some hfind) hk hsame]
      rfl

theorem isSome_ofWire?_iff : (v.ofWire? s).isSome = true ↔ s ∈ v.wires := by
  rw [ofWire?, Option.isSome_map, List.find?_isSome, wires, List.mem_map]
  exact exists_congr fun k => and_congr_right fun _ => beq_iff_eq

/-- A spelling stands for a word if its normal form is a wire form or one of the further
    spellings, and otherwise for none. -/
theorem isSome_find?_iff (h : v.IsPlain) (s : String) :
    (v.find? s).isSome = true ↔
      normalForm s ∈ v.wires ∨ normalForm s ∈ v.spellings.map Prod.fst := by
  rw [h.find?_eq, isSome_ofWire?_iff]
  rcases v.respell_cases (normalForm s) with ⟨hlookup, hself⟩ | ⟨hmem, hlookup⟩
  · have hnone : normalForm s ∉ v.spellings.map Prod.fst := by
      intro hkey
      rcases List.mem_map.mp hkey with ⟨e, he, heq⟩
      have hdiffers := List.lookup_eq_none_iff.mp hlookup e he
      rw [heq, bne_self_eq_false] at hdiffers
      exact Bool.false_ne_true hdiffers
    rw [hself, or_iff_left hnone]
  · exact iff_of_true (h.1 _ hmem).2 (.inr (List.mem_map.mpr ⟨_, hmem, rfl⟩))

/-- A wire form is read as the word that it is the wire form of. -/
theorem find?_of_ofWire? (h : v.IsPlain) {a : α} (ha : v.ofWire? s = some a) :
    v.find? s = some a := by
  have hwire : s ∈ v.wires := isSome_ofWire?_iff.mp (ha ▸ rfl)
  rcases h.2.1 s hwire with ⟨hnormal, hfinal⟩
  rw [h.find?_eq, hnormal, respell_of_lookup_eq_none hfinal, ha]

end IsPlain

/-- The words of a vocabulary are known by their normal forms. -/
structure IsReadByNormalForm (v : Vocabulary α) : Prop where
  /-- Two spellings of one normal form are read as the same word, or both of them are
      refused. -/
  alike : ∀ s other, normalForm s = normalForm other →
    (∃ a, v.read (.text s) = .ok a ∧ v.read (.text other) = .ok a) ∨
      v.read (.text s) = .error (.notWire (Text.quoted s) v.name) ∧
        v.read (.text other) = .error (.notWire (Text.quoted other) v.name)
  /-- What is read is what has the normal form of a wire form or of a further spelling. -/
  accepted : ∀ s, (∃ a, v.read (.text s) = .ok a) ↔
    normalForm s ∈ v.wires ∨ normalForm s ∈ v.spellings.map Prod.fst
  /-- Each wire form is read as its own word. -/
  wire : ∀ k ∈ v.words, v.read (.text k.wire) = .ok k.word
  /-- Looking wire forms up as they stand, before anything else, makes no difference. -/
  verbatim : ∀ s, (v.ofWire? s).or (v.find? s) = v.find? s

/-- What is accepted is what some word is found for. -/
theorem exists_read_iff : (∃ a, v.read (.text s) = .ok a) ↔ (v.find? s).isSome = true := by
  rw [read_text, Option.isSome_iff_exists]
  exact exists_congr fun a => expected_eq_ok_iff

/-- The words of a plain vocabulary are known by their normal forms. -/
theorem IsPlain.isReadByNormalForm (h : v.IsPlain) : v.IsReadByNormalForm where
  alike s other hsame := by
    -- Reading is one search by the normal form, so all four parts are about that search.
    have hfind : v.find? other = v.find? s := by
      rw [h.find?_eq, h.find?_eq, hsame]
    rw [read_text, read_text, hfind]
    cases v.find? s with
    | none => exact .inr ⟨rfl, rfl⟩
    | some a => exact .inl ⟨a, rfl, rfl⟩
  accepted s := exists_read_iff.trans (h.isSome_find?_iff s)
  wire k hk := by
    rw [read_text, h.find?_of_ofWire? (h.ofWire?_wire hk)]
    rfl
  verbatim s := by
    cases hwire : v.ofWire? s with
    | none => rfl
    | some a => rw [h.find?_of_ofWire? hwire, Option.some_or]

end Vocabulary

/-- The operators, the ways to join criteria, the directions of an ordering and the types of
    custom filters are all known by their normal forms. -/
theorem filterWords_isReadByNormalForm :
    Operator.vocabulary.IsReadByNormalForm ∧ Logic.vocabulary.IsReadByNormalForm ∧
      Direction.vocabulary.IsReadByNormalForm ∧ CustomType.vocabulary.IsReadByNormalForm := by
  have hoperator : Operator.vocabulary.IsPlain := by decide +kernel
  have hlogic : Logic.vocabulary.IsPlain := by decide +kernel
  have hdirection : Direction.vocabulary.IsPlain := by decide +kernel
  have htype : CustomType.vocabulary.IsPlain := by decide +kernel
  exact ⟨hoperator.isReadByNormalForm, hlogic.isReadByNormalForm,
    hdirection.isReadByNormalForm, htype.isReadByNormalForm⟩

end Criteria
