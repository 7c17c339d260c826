import Criteria.Proofs.Text.Trimming
import Criteria.Value.Reading

/-!
# Lists That Were Written

A list that is written in one line is read back, however it was written.

There is much freedom in writing a list. Items stand bare or between quotes, with blanks
around them; any of the separators joins two of them; there may be items with nothing in
them, and brackets around it all. Reading takes off one layer after the other, and every
layer could take off too much: blanks may be separators as well, and so may quotes. So the
argument does not follow the layers. It is about what becomes of a text in the end
(`Text.keptItems`), and that obeys three rules: a separator anywhere divides a text into
two that are read on their own, blanks at its ends do not matter, and an item without
separators is read by itself. The first rule holds wherever the separator came from, so
separators among the blanks or the quotes are no special case.

What looks like brackets is taken for brackets, and that is decided when the blanks around
the text are gone already. A list without brackets must not look like that, which is a
condition on the trimmed text (`Value.not_readList_written_untrimmed`).

## Main definitions

* `Text.keptItems`: What is read of the items of a text.
* `Quoting`, `ListItem`: An item as it is written.
* `IsToken`: What can be written as an item.
* `WrittenList`: A list as it is written.
* `WrittenList.tokens`: What the list was written for.
* `LooksBracketed`: A text begins and ends with a bracket.

## Theorems

* `Text.keptItems_append_cons`: A separator divides a text.
* `Text.keptItems_trimChars`: Blanks around a text do not matter.
* `ListItem.IsWritten.keptItems_chars`: An item that was written is read.
* `Value.readList_written`: So is a list of them.
* `Value.not_readList_written_untrimmed`: The condition on brackets is about the trimmed
  text, and there has to be a separator.
-/

namespace Criteria

namespace Text

section Items

variable {isSep : Char → Bool} {cs ds : List Char} {c : Char}

theorem splitChars_eq_splitOnP (isSep : Char → Bool) (cs : List Char) :
    splitChars isSep cs = cs.splitOnP isSep := by
  induction cs with
  | nil => rfl
  | cons c cs ih =>
      rw [splitChars, ih, List.splitOnP_cons_eq_if_modifyHead]
      rcases List.exists_cons_of_ne_nil (List.splitOnP_ne_nil isSep cs) with ⟨item, items, hcs⟩
      rw [hcs]
      rfl

/-- What is read of the items of a text: each one bare, if anything is left of it. -/
def keptItems (isSep : Char → Bool) (cs : List Char) : List (List Char) :=
  ((splitChars isSep cs).map bareItem).filter fun item => !item.isEmpty

/-- A separator divides a text into two that are read on their own. -/
theorem keptItems_append_cons (hc : isSep c = true) (cs ds : List Char) :
    keptItems isSep (cs ++ c :: ds) = keptItems isSep cs ++ keptItems isSep ds := by
  simp only [keptItems, splitChars_eq_splitOnP]
  rw [List.splitOnP_append_cons cs ds hc, List.map_append, List.filter_append]

/-- Without separators there is one item. -/
theorem keptItems_of_free (h : ∀ c ∈ cs, isSep c = false) :
    keptItems isSep cs = [bareItem cs].filter fun item => !item.isEmpty := by
  rw [keptItems, splitChars_eq_splitOnP, List.splitOnP_eq_singleton h, List.map_singleton]

theorem keptItems_nil : keptItems isSep [] = [] :=
  rfl

/-- Blanks around an item are no part of it. -/
theorem bareItem_append_left (h : ∀ c ∈ cs, isBlank c = true) :
    bareItem (cs ++ ds) = bareItem ds := by
  have htrim : trimChars (cs ++ ds) = trimChars ds := stripChars_append_left h
  rw [bareItem, bareItem, htrim]

theorem bareItem_append_right (h : ∀ c ∈ cs, isBlank c = true) :
    bareItem (ds ++ cs) = bareItem ds := by
  have htrim : trimChars (ds ++ cs) = trimChars ds := stripChars_append_right h
  rw [bareItem, bareItem, htrim]

/-- A blank in front belongs to no item, whether or not it is a separator. -/
theorem keptItems_cons (hc : isBlank c = true) (cs : List Char) :
    keptItems isSep (c :: cs) = keptItems isSep cs := by
  -- A blank that separates stands behind an empty item, which is dropped; any other one is in front
  -- of an item that is trimmed.
  cases hsep : isSep c with
  | true => exact keptItems_append_cons hsep [] cs
  | false =>
      have hblank : ∀ d ∈ [c], isBlank d = true := fun d hd => by
        rw [List.mem_singleton.mp hd, hc]
      have hbare (item : List Char) : bareItem (c :: item) = bareItem item := by
        show bareItem ([c] ++ item) = bareItem item
        exact bareItem_append_left hblank
      rw [keptItems, keptItems, splitChars, hsep, if_neg Bool.false_ne_true]
      cases splitChars isSep cs with
      | nil =>
          rw [List.map_singleton, hbare]
          rfl
      | cons item items => rw [List.map_cons, List.map_cons, hbare]

/-- Blanks in front of a text do not matter. -/
theorem keptItems_append_left (h : ∀ c ∈ cs, isBlank c = true) :
    keptItems isSep (cs ++ ds) = keptItems isSep ds := by
  induction cs with
  | nil => rfl
  | cons c cs ih =>
      rw [List.cons_append, keptItems_cons (h c List.mem_cons_self),
        ih fun d hd => h d (List.mem_cons_of_mem c hd)]

theorem keptItems_of_blank (h : ∀ c ∈ cs, isBlank c = true) : keptItems isSep cs = [] := by
  have hall : keptItems isSep (cs ++ []) = keptItems isSep [] := keptItems_append_left h
  rwa [List.append_nil] at hall

/-- A text without separators, or the last of its separators. -/
theorem free_or_exists_last (isSep : Char → Bool) (cs : List Char) :
    (∀ c ∈ cs, isSep c = false) ∨
      ∃ front c back, cs = front ++ c :: back ∧ isSep c = true ∧ ∀ c ∈ back, isSep c = false := by
  induction cs with
  | nil => exact .inl nofun
  | cons c cs ih =>
      rcases ih with hfree | ⟨front, d, back, rfl, hd, hback⟩
      · cases hc : isSep c with
        | true => exact .inr ⟨[], c, cs, rfl, hc, hfree⟩
        | false => exact .inl (List.forall_mem_cons.mpr ⟨hc, hfree⟩)
      · exact .inr ⟨c :: front, d, back, rfl, hd, hback⟩

/-- A blank behind a text belongs to no item either. -/
theorem keptItems_concat (hc : isBlank c = true) (cs : List Char) :
    keptItems isSep (cs ++ [c]) = keptItems isSep cs := by
  cases hsep : isSep c with
  | true => rw [keptItems_append_cons hsep, keptItems_nil, List.append_nil]
  | false =>
      -- Only the last item is concerned.
      have hlast {item : List Char} (hitem : ∀ d ∈ item, isSep d = false) :
          keptItems isSep (item ++ [c]) = keptItems isSep item := by
        have hblank : ∀ d ∈ [c], isBlank d = true := fun d hd => by
          rw [List.mem_singleton.mp hd, hc]
        have hfree : ∀ d ∈ item ++ [c], isSep d = false := by
          refine List.forall_mem_append.mpr ⟨hitem, fun d hd => ?_⟩
          rw [List.mem_singleton.mp hd, hsep]
        rw [keptItems_of_free hfree, keptItems_of_free hitem, bareItem_append_right hblank]
      -- Without a separator the text is one item, and otherwise the last
      -- item starts behind the last separator.
      rcases free_or_exists_last isSep cs with hfree | ⟨front, d, back, rfl, hd, hback⟩
      · exact hlast hfree
      · rw [List.append_assoc, List.cons_append, keptItems_append_cons hd,
          keptItems_append_cons hd, hlast hback]

/-- Blanks behind a text do not matter. -/
theorem keptItems_append_right (h : ∀ c ∈ cs, isBlank c = true) :
    keptItems isSep (ds ++ cs) = keptItems isSep ds := by
  induction cs generalizing ds with
  | nil => rw [List.append_nil]
  | cons c cs ih =>
      rw [List.append_cons, ih fun d hd => h d (List.mem_cons_of_mem c hd),
        keptItems_concat (h c List.mem_cons_self)]

/-- Trimming a text makes no difference to what is read of it. -/
theorem keptItems_trimChars (cs : List Char) :
    keptItems isSep (trimChars cs) = keptItems isSep cs := by
  rcases exists_stripChars isBlank cs with ⟨front, back, hfront, hback, hcs⟩
  have hwhole :
      keptItems isSep (front ++ trimChars cs ++ back) = keptItems isSep (trimChars cs) := by
    rw [keptItems_append_right hback, keptItems_append_left hfront]
  rw [← hwhole]
  exact congrArg (keptItems isSep) hcs.symm

end Items

/-- The items of a text are those of what stands between its brackets. -/
theorem listItems_eq {separators : List Char} (h : separators ≠ []) (cs : List Char) :
    listItems separators cs = keptItems separators.contains (unbracket (trimChars cs)) := by
  rw [listItems, List.isEmpty_eq_false_iff.mpr h]
  rfl

end Text

open Text

/-- How an item is written: bare, or between single or double quotes. -/
inductive Quoting where
  | bare | single | double
  deriving DecidableEq

/-- What stands in front of the item, and behind it. -/
def Quoting.marks : Quoting → List Char
  | .bare => []
  | .single => ['\'']
  | .double => ['"']

/-- An item as it is written. An item with nothing in it may still be quoted. -/
structure ListItem where
  before : List Char
  quoting : Quoting
  content : List Char
  after : List Char

/-- The characters of the item. -/
def ListItem.chars (i : ListItem) : List Char :=
  i.before ++ (i.quoting.marks ++ i.content ++ i.quoting.marks) ++ i.after

/-- What can be written as an item: it is not empty, has no blanks around it, holds no
    separator, and neither begins nor ends with a quote. -/
structure IsToken (separators token : List Char) : Prop where
  ne_nil : token ≠ []
  trimmed : trimChars token = token
  free : ∀ c ∈ token, c ∉ separators
  head : ∀ c ∈ token.head?, c ≠ '\'' ∧ c ≠ '"'
  last : ∀ c ∈ token.getLast?, c ≠ '\'' ∧ c ≠ '"'

-- One goes through the characters of the token, not through all characters there are.
instance (separators token : List Char) : Decidable (IsToken separators token) :=
  have : Decidable (∀ c ∈ token, c ∉ separators) := List.decidableBAll _ token
  have (end? : Option Char) : Decidable (∀ c ∈ end?, c ≠ '\'' ∧ c ≠ '"') :=
    Option.decidableForallMem end?
  decidable_of_iff
    (token ≠ [] ∧ trimChars token = token ∧ (∀ c ∈ token, c ∉ separators) ∧
      (∀ c ∈ token.head?, c ≠ '\'' ∧ c ≠ '"') ∧ ∀ c ∈ token.getLast?, c ≠ '\'' ∧ c ≠ '"')
    ⟨fun ⟨hne, htrim, hfree, hhead, hlast⟩ => ⟨hne, htrim, hfree, hhead, hlast⟩,
      fun h => ⟨h.ne_nil, h.trimmed, h.free, h.head, h.last⟩⟩

/-- A token or nothing is written, with blanks around it. -/
structure ListItem.IsWritten (separators : List Char) (i : ListItem) : Prop where
  before : ∀ c ∈ i.before, isBlank c = true
  after : ∀ c ∈ i.after, isBlank c = true
  content : IsToken separators i.content ∨ ∀ c ∈ i.content, isBlank c = true

instance (separators : List Char) (i : ListItem) : Decidable (i.IsWritten separators) :=
  have (cs : List Char) : Decidable (∀ c ∈ cs, isBlank c = true) := List.decidableBAll _ cs
  decidable_of_iff
    ((∀ c ∈ i.before, isBlank c = true) ∧ (∀ c ∈ i.after, isBlank c = true) ∧
      (IsToken separators i.content ∨ ∀ c ∈ i.content, isBlank c = true))
    ⟨fun ⟨hbefore, hafter, hcontent⟩ => ⟨hbefore, hafter, hcontent⟩,
      fun h => ⟨h.before, h.after, h.content⟩⟩

/-- A list as it is written: a first item, further ones behind separators, and perhaps
    brackets around it all, with blanks outside of them. -/
structure WrittenList where
  first : ListItem
  rest : List (Char × ListItem)
  brackets : Option (List Char × List Char)

namespace WrittenList

/-- The items in order. -/
def items (w : WrittenList) : List ListItem :=
  w.first :: w.rest.map (·.2)

/-- The items and the separators between them. -/
def body (w : WrittenList) : List Char :=
  w.first.chars ++ w.rest.flatMap fun (s, i) => s :: i.chars

/-- The characters of the list. -/
def chars (w : WrittenList) : List Char :=
  match w.brackets with
  | none => w.body
  | some (before, after) => before ++ ('[' :: (w.body ++ [']'])) ++ after

/-- The text of the list. -/
def text (w : WrittenList) : String :=
  String.ofList w.chars

/-- What the list was written for: the contents of its items, but for those with nothing in
    them. -/
def tokens (w : WrittenList) : List (List Char) :=
  (w.items.map (·.content)).filter fun token => !token.all isBlank

/-- The items are written, separators join them, and only blanks are outside the brackets. -/
structure IsWritten (separators : List Char) (w : WrittenList) : Prop where
  items : ∀ i ∈ w.items, i.IsWritten separators
  joints : ∀ e ∈ w.rest, e.1 ∈ separators
  outside : ∀ e ∈ w.brackets, (∀ c ∈ e.1, isBlank c = true) ∧ ∀ c ∈ e.2, isBlank c = true

instance (separators : List Char) (w : WrittenList) : Decidable (w.IsWritten separators) :=
  have (cs : List Char) : Decidable (∀ c ∈ cs, isBlank c = true) := List.decidableBAll _ cs
  decidable_of_iff
    ((∀ i ∈ w.items, i.IsWritten separators) ∧ (∀ e ∈ w.rest, e.1 ∈ separators) ∧
      ∀ e ∈ w.brackets, (∀ c ∈ e.1, isBlank c = true) ∧ ∀ c ∈ e.2, isBlank c = true)
    ⟨fun ⟨hitems, hjoints, houtside⟩ => ⟨hitems, hjoints, houtside⟩,
      fun h => ⟨h.items, h.joints, h.outside⟩⟩

end WrittenList

/-- The text begins and ends with a bracket. -/
def LooksBracketed (cs : List Char) : Prop :=
  cs.head? = some '[' ∧ cs.getLast? = some ']'

instance (cs : List Char) : Decidable (LooksBracketed cs) :=
  inferInstanceAs (Decidable (_ ∧ _))

section Brackets

variable {cs before after : List Char}

/-- Brackets around a text are taken off. -/
theorem unbracket_bracketed (hbefore : ∀ c ∈ before, isBlank c = true)
    (hafter : ∀ c ∈ after, isBlank c = true) (cs : List Char) :
    unbracket (trimChars (before ++ ('[' :: (cs ++ [']'])) ++ after)) = trimChars cs := by
  have htrim : trimChars (before ++ ('[' :: (cs ++ [']'])) ++ after) = '[' :: (cs ++ [']']) := by
    rw [trimChars, stripChars_append_right hafter, stripChars_append_left hbefore,
      stripChars_eq_self_iff]
    constructor
    · intro c hc
      rw [← Option.some.inj hc]
      rfl
    · intro c hc
      rw [← List.cons_append, List.getLast?_concat] at hc
      rw [← Option.some.inj hc]
      rfl
  rw [htrim, unbracket, List.getLast?_concat, if_pos (by decide), List.dropLast_concat]

/-- A text without brackets around it stays as it is. -/
theorem unbracket_eq_self (h : ¬ LooksBracketed cs) : unbracket cs = cs := by
  rw [unbracket.eq_def]
  split
  · rename_i rest
    split
    · rename_i hlast
      rw [beq_iff_eq] at hlast
      refine absurd ⟨rfl, ?_⟩ h
      rw [List.getLast?_cons, hlast]
      rfl
    · rfl
  · rfl

end Brackets

section Contents

variable {separators content : List Char} {i : ListItem}

/-- An item is quoted by one mark on either side, which is no item itself. -/
theorem Quoting.marks_cases (q : Quoting) :
    q.marks = [] ∨ ∃ m, q.marks = [m] ∧ bareItem [m] = [] := by
  cases q with
  | bare => exact .inl rfl
  | single => exact .inr ⟨_, rfl, by decide⟩
  | double => exact .inr ⟨_, rfl, by decide⟩

/-- Marks that a separator among blanks divides are no items. -/
theorem keptItems_divided_marks {isSep : Char → Bool} {m c : Char} {front back : List Char}
    (hm : bareItem [m] = []) (hsep : isSep m = false) (hc : isSep c = true)
    (hblank : ∀ d ∈ front ++ c :: back, isBlank d = true) :
    keptItems isSep ([m] ++ (front ++ c :: back) ++ [m]) = [] := by
  have hmark : keptItems isSep [m] = [] := by
    rw [keptItems_of_free fun d hd => by rw [List.mem_singleton.mp hd, hsep], hm]
    rfl
  have hsplit : [m] ++ (front ++ c :: back) ++ [m] = ([m] ++ front) ++ c :: (back ++ [m]) := by
    simp only [List.append_assoc, List.cons_append]
  rw [List.forall_mem_append, List.forall_mem_cons] at hblank
  rw [hsplit, keptItems_append_cons hc, keptItems_append_right hblank.1,
    keptItems_append_left hblank.2.2, hmark]
  rfl

/-- Quotes are taken off what neither begins nor ends with a quote. -/
theorem bareItem_marks (q : Quoting)
    (hends : ∀ c, c ∈ content.head? ∨ c ∈ content.getLast? → c ≠ '\'' ∧ c ≠ '"')
    (htrim : trimChars content = content ∨ trimChars content = []) :
    bareItem (q.marks ++ content ++ q.marks) = trimChars content := by
  -- The content begins and ends with no mark, so stripping marks leaves it alone.
  have hsingle : stripChars (· == '\'') content = content := stripChars_eq_self_iff.mpr
    ⟨fun c hc => beq_false_of_ne (hends c (.inl hc)).1,
      fun c hc => beq_false_of_ne (hends c (.inr hc)).1⟩
  have hdouble : stripChars (· == '"') content = content := stripChars_eq_self_iff.mpr
    ⟨fun c hc => beq_false_of_ne (hends c (.inl hc)).2,
      fun c hc => beq_false_of_ne (hends c (.inr hc)).2⟩
  -- What is stripped off leaves a mark alone or takes it off on both sides.
  have hkeep {p : Char → Bool} {m : Char} (hm : p m = false) :
      stripChars p ([m] ++ content ++ [m]) = [m] ++ content ++ [m] := by
    refine stripChars_eq_self_iff.mpr ⟨fun c hc => ?_, fun c hc => ?_⟩
    · rw [← Option.some.inj hc, hm]
    · rw [List.getLast?_concat] at hc
      rw [← Option.some.inj hc, hm]
  have htake {p : Char → Bool} {m : Char} (hm : p m = true) :
      stripChars p ([m] ++ content ++ [m]) = stripChars p content := by
    have hmarks : ∀ c ∈ [m], p c = true := fun c hc => by rw [List.mem_singleton.mp hc, hm]
    rw [stripChars_append_right hmarks, stripChars_append_left hmarks]
  cases q with
  | bare =>
      rw [Quoting.marks, List.nil_append, List.append_nil, bareItem]
      rcases htrim with htrim | htrim
      · rw [htrim, hsingle, hdouble, htrim]
      · rw [htrim]
        rfl
  | single =>
      have hblank : trimChars (['\''] ++ content ++ ['\'']) = ['\''] ++ content ++ ['\''] :=
        hkeep (by decide)
      rw [Quoting.marks, bareItem, hblank, htake (by decide), hsingle, hdouble]
  | double =>
      have hblank : trimChars (['"'] ++ content ++ ['"']) = ['"'] ++ content ++ ['"'] :=
        hkeep (by decide)
      rw [Quoting.marks, bareItem, hblank, hkeep (by decide), htake (by decide), hdouble]

/-- What is written between marks is read, whether or not the marks are separators. -/
theorem keptItems_marks (q : Quoting)
    (h : IsToken separators content ∨ ∀ c ∈ content, isBlank c = true) :
    keptItems separators.contains (q.marks ++ content ++ q.marks) =
      [trimChars content].filter fun item => !item.isEmpty := by
  have hends : ∀ c, c ∈ content.head? ∨ c ∈ content.getLast? → c ≠ '\'' ∧ c ≠ '"' := by
    rintro c hc
    -- A token has no mark at its ends, and a blank text has none at all.
    rcases h with htoken | hblank
    · exact hc.elim (htoken.head c) (htoken.last c)
    · have hc := hblank c (hc.elim List.mem_of_head? List.mem_of_getLast?)
      constructor <;> rintro rfl <;> exact absurd hc (by decide)
  have htrim : trimChars content = content ∨ trimChars content = [] :=
    h.imp IsToken.trimmed trimChars_eq_nil_iff.mpr
  have hread (q : Quoting) (hfree : ∀ c ∈ q.marks ++ content ++ q.marks,
      separators.contains c = false) :
      keptItems separators.contains (q.marks ++ content ++ q.marks) =
        [trimChars content].filter fun item => !item.isEmpty := by
    rw [keptItems_of_free hfree, bareItem_marks q hends htrim]
  have hbare : keptItems separators.contains content =
      [trimChars content].filter fun item => !item.isEmpty := by
    rcases h with htoken | hblank
    · have hthis := hread .bare (by simpa [Quoting.marks] using htoken.free)
      simpa [Quoting.marks] using hthis
    · rw [keptItems_of_blank hblank, trimChars_eq_nil_iff.mpr hblank]
      rfl
  -- Bare items are read as they stand.
  rcases q.marks_cases with hq | ⟨m, hq, hm⟩
  · rw [hq, List.nil_append, List.append_nil, hbare]
  · cases hsep : separators.contains m with
    | true =>
        -- The marks divide the text, and there is nothing outside of them.
        rw [hq, List.append_assoc, List.singleton_append, ← List.nil_append (m :: _),
          keptItems_append_cons hsep, keptItems_append_cons hsep, keptItems_nil,
          List.nil_append, List.append_nil, hbare]
    | false =>
        have hmark : ∀ c ∈ [m], separators.contains c = false := fun c hc => by
          rw [List.mem_singleton.mp hc, hsep]
        -- A separator between the marks can only be a blank.
        rcases free_or_exists_last separators.contains content with
          hfree | ⟨front, c, back, hcontent, hc, -⟩
        · refine hread q ?_
          rw [hq]
          exact List.forall_mem_append.mpr ⟨List.forall_mem_append.mpr ⟨hmark, hfree⟩, hmark⟩
        · have hblank : ∀ c ∈ content, isBlank c = true := by
            refine h.resolve_left fun htoken => htoken.free c ?_ (List.contains_iff_mem.mp hc)
            rw [hcontent]
            exact List.mem_append_right _ List.mem_cons_self
          rw [trimChars_eq_nil_iff.mpr hblank, hq, hcontent]
          exact keptItems_divided_marks hm hsep hc (hcontent ▸ hblank)

/-- Of an item that was written its content is read, and nothing if that is blank. -/
theorem ListItem.IsWritten.keptItems_chars (h : i.IsWritten separators) :
    keptItems separators.contains i.chars =
      [i.content].filter fun token => !token.all isBlank := by
  rw [ListItem.chars, keptItems_append_right h.after, keptItems_append_left h.before,
    keptItems_marks i.quoting h.content]
  rcases h.content with htoken | hblank
  · have hall : i.content.all isBlank = false := by
      rw [Bool.eq_false_iff, Ne, List.all_eq_true, ← trimChars_eq_nil_iff, htoken.trimmed]
      exact htoken.ne_nil
    rw [htoken.trimmed, List.filter_singleton, List.filter_singleton, hall,
      List.isEmpty_eq_false_iff.mpr htoken.ne_nil]
  · rw [trimChars_eq_nil_iff.mpr hblank, List.filter_singleton, List.filter_singleton,
      List.all_eq_true.mpr hblank]
    rfl

end Contents

namespace WrittenList

variable {separators : List Char} {w : WrittenList}

/-- The items are read one by one. -/
theorem keptItems_body (first : ListItem) {rest : List (Char × ListItem)}
    (hitems : ∀ i ∈ first :: rest.map (·.2), i.IsWritten separators)
    (hjoints : ∀ e ∈ rest, e.1 ∈ separators) :
    keptItems separators.contains (first.chars ++ rest.flatMap fun (s, i) => s :: i.chars) =
      ((first :: rest.map (·.2)).map (·.content)).filter fun token => !token.all isBlank := by
  rw [List.forall_mem_cons] at hitems
  have hfirst := hitems.1.keptItems_chars
  -- Induction on the items that follow.
  induction rest generalizing first with
  | nil => rw [List.flatMap_nil, List.append_nil, hfirst, List.map_nil, List.map_singleton]
  | cons e rest ih =>
      rw [List.forall_mem_cons] at hjoints
      rw [List.map_cons, List.forall_mem_cons] at hitems
      have hnext := ih e.2 hitems.2 hjoints.2 hitems.2.1.keptItems_chars
      rw [List.flatMap_cons, List.cons_append,
        keptItems_append_cons (List.contains_iff_mem.mpr hjoints.1), hfirst, hnext,
        ← List.filter_append]
      rfl

/-- What stands between the brackets of a written list, or all of it if there are none. -/
theorem unbracket_chars (h : w.IsWritten separators)
    (hplain : w.brackets = none → ¬ LooksBracketed (trimChars w.chars)) :
    unbracket (trimChars w.chars) = trimChars w.body := by
  rw [chars] at hplain ⊢
  cases hbrackets : w.brackets with
  | none =>
      rw [hbrackets] at hplain
      exact unbracket_eq_self (hplain rfl)
  | some e =>
      have houtside := h.outside e hbrackets
      exact unbracket_bracketed houtside.1 houtside.2 w.body

/-- The items of a written list are its tokens. -/
theorem listItems_chars (hseparators : separators ≠ []) (h : w.IsWritten separators)
    (hplain : w.brackets = none → ¬ LooksBracketed (trimChars w.chars)) :
    listItems separators w.chars = w.tokens := by
  rw [listItems_eq hseparators, unbracket_chars h hplain, keptItems_trimChars]
  exact keptItems_body w.first h.items h.joints

/-- The tokens of a written list have no blanks around them, and are not empty. -/
theorem trimmed_of_mem_tokens (h : w.IsWritten separators) {token : List Char}
    (htoken : token ∈ w.tokens) : token ≠ [] ∧ trimChars token = token := by
  rcases List.mem_filter.mp htoken with ⟨hmem, hblank⟩
  rcases List.mem_map.mp hmem with ⟨i, hi, rfl⟩
  rcases (h.items i hi).content with htoken | hall
  · exact ⟨htoken.ne_nil, htoken.trimmed⟩
  · rw [List.all_eq_true.mpr hall] at hblank
    exact absurd hblank Bool.false_ne_true

end WrittenList

namespace Value

/-- A text without blanks around it stays in a list as it is. -/
theorem keptItem?_trimmed {token : List Char} (hne : token ≠ []) (htrim : trimChars token = token) :
    keptItem? (.text (String.ofList token)) = some (.text (String.ofList token)) := by
  have hblank : isBlankText (String.ofList token) = false := by
    rw [isBlankText, String.toList_ofList, Bool.eq_false_iff, Ne, List.all_eq_true,
      ← trimChars_eq_nil_iff, htrim]
    exact hne
  have hkept : keptItem? (.text (String.ofList token)) =
      if isBlankText (String.ofList token) then none
      else some (.text (trim (String.ofList token))) := rfl
  rw [hkept, hblank, if_neg Bool.false_ne_true, trim, String.toList_ofList, htrim]

/-- However a list of tokens is written, it is read back: each token bare or quoted, with
    blanks around it, any separators between them, items with nothing in them anywhere, and
    all of it in brackets or not. Only a text that is not in brackets must not look as if
    it were, once it is trimmed. -/
theorem readList_written {separators : List Char} {w : WrittenList}
    (hseparators : separators ≠ []) (h : w.IsWritten separators)
    (hplain : w.brackets = none → ¬ LooksBracketed (trimChars w.chars)) :
    readList separators (.text w.text) = w.tokens.map fun token => .text (String.ofList token) := by
  -- The text is cut into its tokens.
  have hitems : textItems separators w.text =
      w.tokens.map fun token => .text (String.ofList token) := by
    rw [textItems, List.isEmpty_eq_false_iff.mpr hseparators, if_neg Bool.false_ne_true,
      WrittenList.text, String.toList_ofList, WrittenList.listItems_chars hseparators h hplain]
  have hread : readList separators (.text w.text) =
      (textItems separators w.text).filterMap keptItem? := rfl
  rw [hread, hitems, List.filterMap_map]
  -- Each token is trimmed already, so it is kept as it is.
  have hkept : ∀ token ∈ w.tokens, (keptItem? ∘ fun token => .text (String.ofList token)) token =
      some (Value.text (String.ofList token)) := by
    intro token htoken
    rcases WrittenList.trimmed_of_mem_tokens h htoken with ⟨hne, htrim⟩
    exact keptItem?_trimmed hne htrim
  rw [List.filterMap_congr hkept, List.filterMap_eq_map']

/-- Three tokens, one of them with a quote in it and one with brackets, and two items with
    nothing in them. -/
def someNames : WrittenList where
  first := ⟨[' '], .single, "Ann".toList, [' ']⟩
  rest := [(';', ⟨[], .bare, [], []⟩), (',', ⟨[' '], .double, "O'Neil".toList, []⟩),
    (';', ⟨[], .bare, "[x]".toList, [' ', ' ']⟩), (',', ⟨[], .single, [], []⟩)]
  brackets := some ([' '], ['\t'])

theorem readList_written_names :
    someNames.IsWritten [',', ';'] ∧
      readList [',', ';'] (.text " [ 'Ann' ;, \"O'Neil\";[x]  ,'']\t") =
        [.text "Ann", .text "O'Neil", .text "[x]"] := by
  have hwritten : someNames.IsWritten [',', ';'] := by decide +kernel
  have htext : someNames.text = " [ 'Ann' ;, \"O'Neil\";[x]  ,'']\t" := by decide +kernel
  have htokens : someNames.tokens = ["Ann".toList, "O'Neil".toList, "[x]".toList] := by
    decide +kernel
  have hread := readList_written (List.cons_ne_nil _ _) hwritten nofun
  rw [htext, htokens] at hread
  refine ⟨hwritten, ?_⟩
  simpa only [List.map_cons, List.map_nil, String.ofList_toList] using hread

/-- Without the blanks around it a text may look as if it were in brackets, and then it is
    read as if it were; and where there are no separators each character is an item. -/
theorem not_readList_written_untrimmed :
    (¬ ∀ w : WrittenList, w.IsWritten [',', ';'] → (w.brackets = none → ¬ LooksBracketed w.chars) →
      readList [',', ';'] (.text w.text) =
        w.tokens.map fun token => .text (String.ofList token)) ∧
    ¬ ∀ w : WrittenList, w.IsWritten [] →
      (w.brackets = none → ¬ LooksBracketed (trimChars w.chars)) →
      readList [] (.text w.text) = w.tokens.map fun token => .text (String.ofList token) := by
  constructor
  · intro h
    -- The text begins with a blank, so it does not look bracketed, but once it is trimmed the
    -- brackets of its only token are taken off.
    have hread := h ⟨⟨[' '], .bare, "[a]".toList, []⟩, [], none⟩ (by decide +kernel)
      fun _ => by decide +kernel
    have hlost := congrArg (List.filterMap text?) hread
    revert hlost
    decide +kernel
  · intro h
    -- Without separators every character is an item of its own.
    have hread := h ⟨⟨[], .bare, "ab".toList, []⟩, [], none⟩ (by decide +kernel)
      fun _ => by decide +kernel
    have hlost := congrArg (List.filterMap text?) hread
    revert hlost
    decide +kernel

end Value

end Criteria
