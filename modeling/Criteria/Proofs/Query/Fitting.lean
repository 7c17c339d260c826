import Criteria.Proofs.Outcome
import Criteria.Proofs.Value.Equality
import Criteria.Proofs.Wire.Payload
import Criteria.Query.Payload
import Criteria.Query.Wire

/-!
# Fitting Written Tables

When a value fits, seen from both ends.

A form is put together from its members, and it fits exactly when every member
does; so a proof about a form never looks at what does not fit. From the one
end, whatever was read comes from some member of the payload, which is a payload
itself. From the other end, a table that was written under names that are looked
for gives back each member under its name: the names are distinct and begin with
a small letter, so neither the order of the members nor the spelling of a name
matters.

## Main definitions

* `Value.IsHereditary`: What holds of a value holds of what is in it.

## Theorems

* `map_eq_fits_iff`, `seq_eq_fits_iff`, `andThen_eq_fits_iff`: A form fits when
  its parts do.
* `fitAll_eq_fits_iff`: A list fits when its elements do.
* `Members.exists_of_fit`: What fits is read from a member or is the default.
* `Members.fit_eq_of_lookup`: A member that is found under its name.
* `Value.IsHereditary.members`, `isJson_of_mem_members`: What holds of members, and
  members of payloads.
* `Members.exists_element_of_fit_list`: Lists are read element by element.
* `Members.property_of_fit`, `Members.exists_of_fit_list`: What is read from
  members of payloads.
* `isJson_present`, `depth_lt_present`: Written tables as payloads.
* `membersOf_present`: The members of a written table.
-/

namespace Criteria

open Fitted

variable {α β : Type}

section Results

namespace Fitted

theorem map_eq_fits_iff {f : α → β} {a : Fitted α} {b : β} :
    f <$> a = fits b ↔ ∃ x, a = fits x ∧ f x = b := by
  cases a with
  | fits x =>
      show fits (f x) = fits b ↔ _
      simp only [fits.injEq, exists_eq_left']
  | misfits es =>
      show misfits es = fits b ↔ _
      simp only [reduceCtorEq, false_and, exists_false]

theorem seq_eq_fits_iff {f : Fitted (α → β)} {a : Fitted α} {b : β} :
    f <*> a = fits b ↔ ∃ g x, f = fits g ∧ a = fits x ∧ g x = b := by
  show both f a = fits b ↔ _
  cases f with
  | fits g =>
      cases a with
      | fits x => simp only [both, map, fits.injEq, exists_and_left, exists_eq_left']
      | misfits es => simp only [both, map, reduceCtorEq, false_and, and_false, exists_false]
  | misfits es =>
      cases a with
      | fits x => simp only [both, reduceCtorEq, false_and, exists_false]
      | misfits fs => simp only [both, reduceCtorEq, false_and, exists_false]

theorem andThen_eq_fits_iff {a : Fitted α} {f : α → Fitted β} {b : β} :
    a.andThen f = fits b ↔ ∃ x, a = fits x ∧ f x = fits b := by
  cases a with
  | fits x => simp only [andThen, fits.injEq, exists_eq_left']
  | misfits es => simp only [andThen, reduceCtorEq, false_and, exists_false]

@[simp] theorem beneath_eq_fits_iff {step : String} {a : Fitted α} {x : α} :
    a.beneath step = fits x ↔ a = fits x := by
  cases a with
  | fits y => simp only [beneath]
  | misfits es => simp only [beneath, reduceCtorEq]

theorem ofOption_eq_fits_iff {o : Option α} {a : α} : ofOption o = fits a ↔ o = some a := by
  cases o with
  | none => simp only [ofOption, misfit, reduceCtorEq]
  | some b => simp only [ofOption, fits.injEq, Option.some.injEq]

theorem reported_eq_ok_iff {a : Fitted α} {x : α} : a.reported = .ok x ↔ a = fits x := by
  cases a with
  | fits y => simp only [reported, Except.ok.injEq, fits.injEq]
  | misfits es => simp only [reported, reduceCtorEq]

theorem located_eq_ok_iff {a : Fitted α} {x : α} : a.located = .ok x ↔ a = fits x := by
  cases a with
  | fits y => simp only [located, Except.ok.injEq, fits.injEq]
  | misfits es => simp only [located, reduceCtorEq]

end Fitted

theorem unlessNull_eq_fits {a b : α} {fit : Value → Fitted α} {v : Value}
    (h : unlessNull a fit v = fits b) : a = b ∨ fit v = fits b := by
  rw [unlessNull] at h
  split at h
  · exact .inl (fits.inj h)
  · exact .inr h

theorem unlessNull_of_isNull {a : α} {fit : Value → Fitted α} {v : Value}
    (h : v.isNull = false) : unlessNull a fit v = fit v := by
  rw [unlessNull, h, if_neg Bool.false_ne_true]

end Results

namespace Value

/-- What holds of a value holds of what is in it. -/
structure IsHereditary (J : Value → Prop) : Prop where
  elements : ∀ {v xs}, J v → v.elements? = some xs → ∀ x ∈ xs, J x
  entries : ∀ {es}, J (.dict es) → ∀ e ∈ es, J e.2

theorem isHereditary_isJson : IsHereditary IsJson := by
  constructor
  · intro v xs hv h
    cases hv with
    | list ys hys => exact Option.some.inj h ▸ hys
    | table es => simp only [table, elements?, reduceCtorEq] at h
    | _ => simp only [elements?, reduceCtorEq] at h
  · intro es hv e he
    generalize hd : Value.dict es = d at hv
    cases hv with
    | table fs _ hfs =>
        rw [dict.inj hd] at he
        rcases List.mem_map.mp he with ⟨f, hf, rfl⟩
        exact hfs f hf
    | _ => cases hd

theorem isHereditary_isDocument : IsHereditary IsDocument := by
  constructor
  · intro v xs hv h
    cases hv with
    | list ys hys => exact Option.some.inj h ▸ hys
    | table es => simp only [table, elements?, reduceCtorEq] at h
    | _ => simp only [elements?, reduceCtorEq] at h
  · intro es hv e he
    generalize hd : Value.dict es = d at hv
    cases hv with
    | table fs _ hfs =>
        rw [dict.inj hd] at he
        rcases List.mem_map.mp he with ⟨f, hf, rfl⟩
        exact hfs f hf
    | _ => cases hd

end Value

section Lists

theorem fitAllFrom_eq_fits_iff {fit : α → Fitted β} {n : Nat} {as : List α} {bs : List β} :
    fitAllFrom fit n as = fits bs ↔ List.Forall₂ (fun a b => fit a = fits b) as bs := by
  -- Induction on the values; each is fitted at its own index, which does not matter to success.
  induction as generalizing n bs with
  | nil =>
      rw [fitAllFrom, List.forall₂_nil_left_iff, fits.injEq]
      exact eq_comm
  | cons a as ih =>
      rw [fitAllFrom, seq_eq_fits_iff]
      constructor
      · rintro ⟨g, rest, hg, hrest, rfl⟩
        rcases map_eq_fits_iff.mp hg with ⟨b, hb, rfl⟩
        exact .cons (beneath_eq_fits_iff.mp hb) (ih.mp hrest)
      · intro h
        cases h with
        | cons hb hrest =>
            refine ⟨_, _, map_eq_fits_iff.mpr ⟨_, beneath_eq_fits_iff.mpr hb, rfl⟩,
              ih.mpr hrest, rfl⟩

/-- A list fits when its elements do, each with its own result. -/
theorem fitAll_eq_fits_iff {fit : Value → Fitted β} {v : Value} {bs : List β} :
    fitAll fit v = fits bs ↔
      ∃ xs, v.elements? = some xs ∧ List.Forall₂ (fun x b => fit x = fits b) xs bs := by
  rw [fitAll, andThen_eq_fits_iff]
  constructor
  · rintro ⟨xs, hxs, h⟩
    exact ⟨xs, ofOption_eq_fits_iff.mp hxs, fitAllFrom_eq_fits_iff.mp h⟩
  · rintro ⟨xs, hxs, h⟩
    exact ⟨xs, ofOption_eq_fits_iff.mpr hxs, fitAllFrom_eq_fits_iff.mpr h⟩

/-- The elements of a payload are payloads. -/
theorem isJson_of_elements? {v : Value} {xs : List Value} (hv : v.IsJson)
    (h : v.elements? = some xs) : ∀ x ∈ xs, x.IsJson :=
  Value.isHereditary_isJson.elements hv h

/-- What is read from the elements of a payload has what is read from payloads. -/
theorem forall_of_fitAll {fit : Value → Fitted β} {P : β → Prop} {v : Value} {bs : List β}
    (hv : v.IsJson) (hfit : ∀ x, x.IsJson → ∀ b, fit x = fits b → P b)
    (h : fitAll fit v = fits bs) : ∀ b ∈ bs, P b := by
  rcases fitAll_eq_fits_iff.mp h with ⟨xs, hxs, hbs⟩
  intro b hb
  rcases forall₂_exists_left hbs hb with ⟨x, hx, hxb⟩
  exact hfit x (isJson_of_elements? hv hxs x hx) b hxb

end Lists

section Lookup

/-- With distinct keys, what is found under a key is what stands beside it. -/
theorem lookup_eq_some_iff_mem {entries : List (String × β)} {k : String} {b : β}
    (h : (entries.map Prod.fst).Nodup) : entries.lookup k = some b ↔ (k, b) ∈ entries := by
  induction entries with
  | nil => simp only [List.lookup_nil, reduceCtorEq, List.not_mem_nil]
  -- Induction on the entries, along the search for the key.
  | cons e es ih =>
      rw [List.map_cons, List.nodup_cons] at h
      rw [List.lookup_cons]
      by_cases hk : k = e.1
      · rw [beq_iff_eq.mpr hk, Option.some.injEq, List.mem_cons, hk]
        constructor
        · intro hb
          exact .inl (by rw [← hb])
        · rintro (he | hmem)
          · rw [← he]
          · exact absurd (List.mem_map_of_mem hmem) h.1
      · rw [beq_eq_false_iff_ne.mpr hk, ih h.2, List.mem_cons]
        constructor
        · exact .inr
        · rintro (he | hmem)
          · exact absurd (congrArg Prod.fst he) hk
          · exact hmem

/-- What is found stands beside its key. -/
theorem mem_of_lookup {entries : List (String × β)} {k : String} {b : β}
    (h : entries.lookup k = some b) : (k, b) ∈ entries := by
  rcases List.lookup_eq_some_iff.mp h with ⟨before, after, rfl, -⟩
  exact List.mem_append_right before List.mem_cons_self

end Lookup

section Members

namespace Members

variable {ms : Members} {name other : String} {a : α} {default : Fitted α}
  {read : Value → Fitted α}

/-- A member that is found is there. -/
theorem mem_of_find {k : String} {v : Value} (h : ms.find name other = (k, some v)) :
    (k, v) ∈ ms := by
  rw [find] at h
  split at h
  · rename_i hv
    rw [← (Prod.mk.inj h).1, ← Option.some.inj (Prod.mk.inj h).2]
    exact mem_of_lookup hv
  · rename_i hv
    rw [← (Prod.mk.inj h).1, ← Option.some.inj (Prod.mk.inj h).2]
    exact mem_of_lookup hv
  · exact absurd (Prod.mk.inj h).2 (by simp only [reduceCtorEq, not_false_eq_true])

/-- What fits is read from a member or is the default. -/
theorem exists_of_fit (h : ms.fit name other default read = fits a) :
    (∃ k v, (k, v) ∈ ms ∧ read v = fits a) ∨ default = fits a := by
  rw [fit] at h
  split at h
  · rename_i k v hk
    exact .inl ⟨k, v, mem_of_find hk, beneath_eq_fits_iff.mp h⟩
  · exact .inr (beneath_eq_fits_iff.mp h)

theorem fit_of_lookup {v : Value} (h : ms.lookup name = some v) :
    ms.fit name other default read = (read v).beneath name := by
  have hfind : ms.find name other = (name, some v) := by rw [find, h]
  rw [fit, hfind]

theorem fit_of_lookup_eq_none (h : ms.lookup name = none) (hother : ms.lookup other = none) :
    ms.fit name other default read = default.beneath name := by
  have hfind : ms.find name other = (name, none) := by rw [find, h, hother]
  rw [fit, hfind]

/-- A member that may have been left out. -/
theorem fit_eq_of_lookup {o : Option Value} (h : ms.lookup name = o)
    (hother : o = none → ms.lookup other = none) (hread : ∀ v, o = some v → read v = fits a)
    (hdefault : o = none → default = fits a) : ms.fit name other default read = fits a := by
  cases o with
  | none =>
      rw [fit_of_lookup_eq_none h (hother rfl)]
      exact beneath_eq_fits_iff.mpr (hdefault rfl)
  | some v =>
      rw [fit_of_lookup h]
      exact beneath_eq_fits_iff.mpr (hread v rfl)

end Members

/-- The members of an object stand in it. -/
theorem exists_entry_of_membersOf {v : Value} {ms : Members} (h : membersOf v = fits ms)
    {e : String × Value} (he : e ∈ ms) : ∃ es, v = .dict es ∧ ∃ entry ∈ es, entry.2 = e.2 := by
  cases v with
  | dict es =>
      rw [membersOf, fits.injEq] at h
      rw [← h, Members.ofEntries, List.mem_reverse] at he
      rcases List.mem_map.mp he with ⟨d, hd, rfl⟩
      rcases List.mem_filterMap.mp hd with ⟨entry, hentry, hd⟩
      rcases Option.map_eq_some_iff.mp hd with ⟨k, -, rfl⟩
      exact ⟨es, rfl, entry, hentry, rfl⟩
  | _ => simp only [membersOf, misfit, reduceCtorEq] at h

theorem Value.IsHereditary.members {J : Value → Prop} (hJ : IsHereditary J) {v : Value}
    {ms : Members} (hv : J v) (h : membersOf v = fits ms) : ∀ e ∈ ms, J e.2 := by
  intro e he
  rcases exists_entry_of_membersOf h he with ⟨es, rfl, entry, hentry, heq⟩
  exact heq ▸ hJ.entries hv entry hentry

/-- Members are less deep than the object they are members of. -/
theorem depth_lt_of_membersOf {v : Value} {ms : Members} (h : membersOf v = fits ms)
    {e : String × Value} (he : e ∈ ms) : e.2.depth < v.depth := by
  rcases exists_entry_of_membersOf h he with ⟨es, rfl, entry, hentry, heq⟩
  exact heq ▸ Value.depth_lt_dict hentry

/-- Members of payloads are payloads. -/
theorem isJson_of_mem_members {v : Value} {ms : Members} (hv : v.IsJson)
    (h : membersOf v = fits ms) : ∀ e ∈ ms, e.2.IsJson :=
  Value.isHereditary_isJson.members hv h

/-- What is read from a member of a payload has what is read from payloads, if
    the default has it. -/
theorem Members.property_of_fit {ms : Members} {name other : String} {a : α} {default : Fitted α}
    {read : Value → Fitted α} {P : α → Prop} (hms : ∀ e ∈ ms, e.2.IsJson)
    (hdefault : ∀ b, default = fits b → P b) (hread : ∀ v, v.IsJson → ∀ b, read v = fits b → P b)
    (h : ms.fit name other default read = fits a) : P a := by
  rcases exists_of_fit h with ⟨k, v, hmem, hv⟩ | hd
  · exact hread v (hms (k, v) hmem) a hv
  · exact hdefault a hd

/-- The elements of a list that may be null or left out are read from the elements of
    a member. -/
theorem Members.exists_element_of_fit_list {ms : Members} {name other : String}
    {fit : Value → Fitted α} {as : List α}
    (h : ms.fit name other (fits []) (unlessNull [] (fitAll fit)) = fits as) :
    ∀ a ∈ as, ∃ e ∈ ms, ∃ xs, e.2.elements? = some xs ∧ ∃ x ∈ xs, fit x = fits a := by
  intro a ha
  rcases exists_of_fit h with ⟨k, v, hmem, hv⟩ | hdefault
  · rcases unlessNull_eq_fits hv with rfl | hv
    · exact absurd ha List.not_mem_nil
    · rcases fitAll_eq_fits_iff.mp hv with ⟨xs, hxs, has⟩
      rcases forall₂_exists_left has ha with ⟨x, hx, hxa⟩
      exact ⟨(k, v), hmem, xs, hxs, x, hx, hxa⟩
  · rw [← fits.inj hdefault] at ha
    exact absurd ha List.not_mem_nil

/-- The elements of a list that may be null or left out are read from payloads. -/
theorem Members.exists_of_fit_list {ms : Members} {name other : String} {fit : Value → Fitted α}
    {as : List α} (hms : ∀ e ∈ ms, e.2.IsJson)
    (h : ms.fit name other (fits []) (unlessNull [] (fitAll fit)) = fits as) :
    ∀ a ∈ as, ∃ v, v.IsJson ∧ fit v = fits a := by
  intro a ha
  rcases exists_element_of_fit_list h a ha with ⟨e, he, xs, hxs, x, hx, hxa⟩
  exact ⟨x, isJson_of_elements? (hms e he) hxs x hx, hxa⟩

end Members

section Present

variable {entries : List (String × Option Value)}

/-- The entries of a written table. -/
theorem mem_present_iff {k : String} {v : Value} :
    (k, v) ∈ (entries.filterMap fun (k, v) => v.map (k, ·)) ↔ (k, some v) ∈ entries := by
  rw [List.mem_filterMap]
  constructor
  · rintro ⟨⟨l, o⟩, hmem, ho⟩
    rcases Option.map_eq_some_iff.mp ho with ⟨w, rfl, hw⟩
    rw [← (Prod.mk.inj hw).1, ← (Prod.mk.inj hw).2]
    exact hmem
  · intro h
    exact ⟨(k, some v), h, rfl⟩

theorem nodup_present (h : (entries.map Prod.fst).Nodup) :
    ((entries.filterMap fun (k, v) => v.map (k, ·)).map Prod.fst).Nodup := by
  have hsub : ((entries.filterMap fun (k, v) => v.map (k, ·)).map Prod.fst).Sublist
      (entries.map Prod.fst) := by
    induction entries with
    | nil => exact .slnil
    | cons e es ih =>
        rcases e with ⟨k, o⟩
        rw [List.map_cons, List.nodup_cons] at h
        cases o with
        | none => exact (ih h.2).cons k
        | some v => exact (ih h.2).cons_cons k
  exact hsub.nodup h

/-- A table of payloads is a payload. -/
theorem isJson_present (hkeys : (entries.map Prod.fst).Nodup)
    (h : ∀ k v, (k, some v) ∈ entries → v.IsJson) : (present entries).IsJson :=
  .table _ (nodup_present hkeys) fun e he => h e.1 e.2 (mem_present_iff.mp he)

theorem depth_lt_present (entries : List (String × Option Value)) {k : String} {v : Value}
    (h : (k, some v) ∈ entries) : v.depth < (present entries).depth :=
  Value.depth_lt_table (mem_present_iff.mpr h)

/-- The text entries of a table are its entries. -/
theorem textEntries_table (es : List (String × Value)) :
    Value.textEntries (es.map fun (k, v) => (.text k, v)) = es := by
  induction es with
  | nil => rfl
  | cons e es ih =>
      show (e.1, e.2) :: Value.textEntries (es.map fun (k, v) => (.text k, v)) = e :: es
      rw [ih]

/-- A written table has exactly the members it was written with, under names that
    are distinct and begin with a small letter. -/
theorem membersOf_present (entries : List (String × Option Value))
    (hkeys : (entries.map Prod.fst).Nodup)
    (hlower : ∀ k ∈ entries.map Prod.fst, Text.lowerFirst k = k) :
    ∃ ms, membersOf (present entries) = fits ms ∧
      ∀ k, ms.lookup k = (entries.lookup k).join := by
  -- Members are looked for from the last one on, which distinct names make no matter.
  let es := entries.filterMap fun (k, v) => v.map (k, ·)
  have hmem {k : String} {v : Value} : (k, v) ∈ es.reverse ↔ (k, some v) ∈ entries := by
    rw [List.mem_reverse]
    exact mem_present_iff
  have hnodup : (es.reverse.map Prod.fst).Nodup := by
    rw [List.map_reverse, List.nodup_reverse]
    exact nodup_present hkeys
  have hsame : es.map (fun (k, v) => (Text.lowerFirst k, v)) = es := by
    refine List.map_congr_left (g := id) ?_ |>.trans (List.map_id es)
    intro e he
    have hk : Text.lowerFirst e.1 = e.1 :=
      hlower e.1 (List.mem_map_of_mem (f := Prod.fst) (mem_present_iff.mp he))
    show (Text.lowerFirst e.1, e.2) = e
    rw [hk]
  -- Names in their normal form are kept by the lookup that makes the first letter small.
  refine ⟨es.reverse, ?_, ?_⟩
  · rw [present, Value.table, membersOf, Members.ofEntries, textEntries_table]
    exact congrArg (fun l => fits l.reverse) hsame
  · intro k
    refine Option.ext fun v => ?_
    rw [lookup_eq_some_iff_mem hnodup, hmem, Option.join_eq_some_iff,
      lookup_eq_some_iff_mem hkeys]

end Present

end Criteria
