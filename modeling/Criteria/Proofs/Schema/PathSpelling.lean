import Criteria.Catalog.Types
import Criteria.Proofs.Number.Scripts
import Criteria.Proofs.Schema.Access

/-!
# Spellings of Paths

How the segments of a path are spelled makes no difference to where it leads.

A segment is matched in three rounds: to the member of exactly that name, else to the
first that differs in case, else to the first that differs in case and underscores. In
general the rounds disagree, and which member comes first depends on the order of the
members. Where no two members of an owner have the same name without case and
underscores there is nothing to choose from: each round finds a member of the
segment's normal form or none, and there is only one such member. So all three rounds
together are one search by normal form (`matchMember_eq_find?`), and two spellings of a
segment are matched alike.

The rest is an induction along the path. Both spellings pass the same owners, so they
end at the same member or fail at the same segment for the same reason. The blanks
around a path are taken off before it is cut into segments; blanks around a single
segment are part of it. That is why the spellings are compared after trimming, and it
cannot be left out: a leading dot, which leaves no segment, keeps a blank in the path.

## Main definitions

* `Schema.TellsApart`: The members of an owner are told by their normal forms.
* `Schema.Passes`: The owners along a path.
* `Respells`: Two paths have the same segments but for their spelling.
* `FilterError.SameClass`: Two errors are of one class.

## Theorems

* `matchMember_eq_find?`: Matching is a search by normal form.
* `Schema.follow_respelled`: Two spellings of the segments of a path.
* `Schema.resolve_respelled`: Two spellings of a path.
* `Schema.not_resolve_respelled_untrimmed`: Blanks inside a path are no matter of
  spelling.
-/

namespace Criteria

section Members

variable {name other : String} {available : List String}

/-- Names that differ in case only have one normal form. -/
theorem squash_of_lower (h : Text.lower name = Text.lower other) : squash name = squash other := by
  rw [squash, squash, h]

/-- The normal form of a name is made character by character. -/
theorem squash_eq (h : 'Σ' ∉ name.toList) :
    squash name = String.ofList ((name.toList.flatMap Text.lowerChar).filter (· != '_')) := by
  have hsigma : ∀ c ∈ name.toList, c ≠ 'Σ' := by
    rintro c hc rfl
    exact h hc
  rw [squash, Text.lower_eq_flatMap hsigma, String.toList_ofList]

/-- Where normal forms are distinct, a member is the first one of its normal form. -/
theorem find?_squash_of_mem (h : (available.map squash).Nodup) (hmem : other ∈ available)
    (hsame : squash other = squash name) :
    (available.find? fun m => squash m == squash name) = some other := by
  -- Induction on the names that are available, whose normal forms are distinct.
  induction available with
  | nil => exact absurd hmem List.not_mem_nil
  | cons m ms ih =>
      rw [List.map_cons, List.nodup_cons] at h
      by_cases hm : squash m = squash name
      · -- The other one would repeat the normal form of the first.
        have hfirst : other = m := by
          rcases List.mem_cons.mp hmem with heq | hrest
          · exact heq
          · refine absurd (List.mem_map.mpr ⟨other, hrest, ?_⟩) h.1
            rw [hsame, hm]
        rw [List.find?_cons_of_pos (by simpa using hm), hfirst]
      · have hrest : other ∈ ms := by
          rcases List.mem_cons.mp hmem with heq | hrest
          · rw [heq] at hsame
            exact absurd hsame hm
          · exact hrest
        rw [List.find?_cons_of_neg (by simpa using hm)]
        exact ih h.2 hrest

/-- Where normal forms are distinct, a name is matched by its normal form. -/
theorem matchMember_eq_find? (h : (available.map squash).Nodup) :
    matchMember name available = available.find? fun m => squash m == squash name := by
  unfold matchMember
  split
  · rename_i hmem
    exact (find?_squash_of_mem h (List.contains_iff_mem.mp hmem) rfl).symm
  · cases hlower : available.find? fun m => Text.lower m == Text.lower name with
    | none => rfl
    | some m =>
        have hsame : Text.lower m = Text.lower name := by
          simpa using List.find?_some hlower
        have hmem : m ∈ available := List.mem_of_find?_eq_some hlower
        exact (find?_squash_of_mem h hmem (squash_of_lower hsame)).symm

/-- Two spellings of a name are matched alike. -/
theorem matchMember_congr (h : (available.map squash).Nodup) (hsame : squash name = squash other) :
    matchMember name available = matchMember other available := by
  rw [matchMember_eq_find? h, matchMember_eq_find? h, hsame]

end Members

/-- The errors are of one class, whatever they are about. -/
def FilterError.SameClass (e f : FilterError) : Prop :=
  e.ctorIdx = f.ctorIdx

/-- The segments of two paths are the same but for case and underscores. -/
def Respells (parts others : List String) : Prop :=
  List.Forall₂ (fun part other => squash part = squash other) parts others

namespace Schema

/-- No two members of the owner have the same name without case and underscores. -/
def TellsApart (s : Schema) (owner : TypeExpr) : Prop :=
  (((s.members owner).map Prod.fst).map squash).Nodup

/-- The owners of the segments of a path that starts at a type: the type itself and,
    segment by segment, the types of the members that are passed. -/
inductive Passes (s : Schema) : TypeExpr → List String → TypeExpr → Prop
  | start {owner : TypeExpr} {part : String} {rest : List String} :
      Passes s owner (part :: rest) owner
  | member {owner last : TypeExpr} {part next name : String} {rest : List String}
      (hname : matchMember part ((s.members owner).map Prod.fst) = some name)
      (h : Passes s (((s.members owner).lookup name).getD .any).unwrapOptional.1
        (next :: rest) last) :
      Passes s owner (part :: next :: rest) last

/-- All owners along a path declare their members and tell them apart. -/
def IsPlainPath (s : Schema) (entity : TypeExpr) (parts : List String) : Prop :=
  ∀ owner, s.Passes entity parts owner → owner.isAny = false ∧ s.TellsApart owner

variable {s : Schema} {owner entity : TypeExpr} {parts others : List String}

/-- Two spellings of the segments of a path end at the same member, or both fail and with
    errors of one class. The texts that the path and the previous member are shown by in
    errors do not matter. -/
theorem follow_respelled (hplain : s.IsPlainPath owner parts) (h : Respells parts others)
    (path path' : String) (previous previous' : Option String) :
    (∃ t, s.follow path owner previous parts = .ok t ∧
      s.follow path' owner previous' others = .ok t) ∨
    ∃ e f, s.follow path owner previous parts = .error e ∧
      s.follow path' owner previous' others = .error f ∧ e.SameClass f := by
  unfold Respells at h
  -- Induction on the parts of the path. At each owner the two spellings find the same member.
  induction h generalizing owner previous previous' with
  | nil => exact .inl ⟨_, rfl, rfl⟩
  | @cons part other rest rest' hpart hrest ih =>
      rcases hplain owner .start with ⟨hany, hapart⟩
      have hmatch := matchMember_congr hapart hpart
      rw [follow, follow, hany, if_neg Bool.false_ne_true, if_neg Bool.false_ne_true]
      dsimp only
      -- An owner without members ends both paths in the same error.
      by_cases hempty : (s.members owner).isEmpty = true
      · rw [if_pos hempty, if_pos hempty]
        exact .inr ⟨_, _, rfl, rfl, rfl⟩
      rw [if_neg hempty, if_neg hempty, ← hmatch]
      cases hname : matchMember part ((s.members owner).map Prod.fst) with
      | none => exact .inr ⟨_, _, rfl, rfl, rfl⟩
      | some name =>
          dsimp only
          cases hrest with
          | nil => exact .inl ⟨_, rfl, rfl⟩
          | @cons next next' rest rest' hnext hrest =>
              dsimp only
              -- What ends the path at this member does so in both spellings.
              by_cases hcollection :
                  (((s.members owner).lookup name).getD .any).unwrapOptional.1.element?.isSome
                    = true
              · rw [if_pos hcollection, if_pos hcollection]
                exact .inr ⟨_, _, rfl, rfl, rfl⟩
              rw [if_neg hcollection, if_neg hcollection]
              by_cases howns :
                  (!s.ownsMembers (((s.members owner).lookup name).getD .any).unwrapOptional.1)
                    = true
              · rw [if_pos howns, if_pos howns]
                exact .inr ⟨_, _, rfl, rfl, rfl⟩
              rw [if_neg howns, if_neg howns]
              -- The rest of the path is plain at the owner that was reached.
              have hinner : s.IsPlainPath
                  (((s.members owner).lookup name).getD .any).unwrapOptional.1 (next :: rest) :=
                fun last hlast => hplain last (.member hname hlast)
              rcases ih hinner (some name) (some name) with ⟨t, ht, ht'⟩ | ⟨e, f, he, hf, hclass⟩
              · rw [ht, ht']
                exact .inl ⟨_, rfl, rfl⟩
              · rw [he, hf]
                exact .inr ⟨e, f, rfl, rfl, hclass⟩

/-- Two paths with the same segments but for case and underscores, once the blanks around
    them are taken off. No owner along the path has two members that differ in case and
    underscores only, and none is without a declared type.

    Either both paths lead somewhere, and the accessors differ in nothing but the text of
    the path, or both lead nowhere, and the errors are of one class. -/
theorem resolve_respelled {path other : String}
    (hplain : s.IsPlainPath entity (segments (Text.trim path)))
    (h : Respells (segments (Text.trim path)) (segments (Text.trim other))) :
    (∃ a, s.resolve entity path = .ok a ∧
      s.resolve entity other = .ok { a with path := Text.trim other }) ∨
    ∃ e f, s.resolve entity path = .error e ∧ s.resolve entity other = .error f ∧
      e.SameClass f := by
  unfold resolve
  dsimp only
  -- Only the parts matter, not the texts they come from.
  generalize segments (Text.trim path) = parts at hplain h ⊢
  generalize segments (Text.trim other) = others at h ⊢
  have hfollow := follow_respelled hplain h (Text.trim path) (Text.trim other) none none
  cases h with
  | nil => exact .inr ⟨_, _, rfl, rfl, rfl⟩
  | cons hpart hrest =>
      dsimp only
      rcases hfollow with ⟨t, ht, ht'⟩ | ⟨e, f, he, hf, hclass⟩
      · rw [ht, ht']
        exact .inl ⟨_, rfl, rfl⟩
      · rw [he, hf]
        exact .inr ⟨e, f, rfl, rfl, hclass⟩

/-- A path of one segment has the owner it starts at. -/
theorem isPlainPath_singleton {part : String} (hany : entity.isAny = false)
    (h : s.TellsApart entity) : s.IsPlainPath entity [part] := by
  intro owner howner
  cases howner with
  | start => exact ⟨hany, h⟩

/-- A longer path has the owners of its rest as well. -/
theorem isPlainPath_cons {part next name : String} {rest : List String}
    (hany : entity.isAny = false) (h : s.TellsApart entity)
    (hname : matchMember part ((s.members entity).map Prod.fst) = some name)
    (hrest : s.IsPlainPath (((s.members entity).lookup name).getD .any).unwrapOptional.1
      (next :: rest)) : s.IsPlainPath entity (part :: next :: rest) := by
  intro owner howner
  cases howner with
  | start => exact ⟨hany, h⟩
  | @member _ _ _ _ name' _ hname' howner =>
      have hsame : name' = name := Option.some.inj (hname'.symm.trans hname)
      rw [hsame] at howner
      exact hrest owner howner

/-- People tell their members apart. -/
theorem tellsApart_person : Catalog.schema.TellsApart (Catalog.entityNamed "Person") := by
  unfold TellsApart
  decide +kernel

/-- The name of the manager is found under both spellings, with a dot too many in one of them. -/
theorem resolve_respelled_manager :
    ∃ a, Catalog.schema.resolve (Catalog.entityNamed "Person") " manager.first_name" = .ok a ∧
      Catalog.schema.resolve (Catalog.entityNamed "Person") "Manager..firstName " =
        .ok { a with path := "Manager..firstName" } := by
  have hpath : segments (Text.trim " manager.first_name") = ["manager", "first_name"] := by
    decide +kernel
  have hother : segments (Text.trim "Manager..firstName ") = ["Manager", "firstName"] := by
    decide +kernel
  have htrim : Text.trim "Manager..firstName " = "Manager..firstName" := by decide +kernel
  have hmanager : Catalog.schema.IsPlainPath (Catalog.entityNamed "Person")
      ["manager", "first_name"] := by
    refine isPlainPath_cons rfl tellsApart_person (by decide +kernel : _ = some "manager") ?_
    exact isPlainPath_singleton (by decide +kernel) tellsApart_person
  have hspelled : Respells ["manager", "first_name"] ["Manager", "firstName"] := by
    refine .cons ?_ (.cons ?_ .nil)
    · rw [squash_eq (by decide), squash_eq (by decide)]
      rfl
    · rw [squash_eq (by decide), squash_eq (by decide)]
      rfl
  rcases resolve_respelled (hpath.symm ▸ hmanager) (hpath.symm ▸ hother.symm ▸ hspelled) with
    h | ⟨e, f, he, -, -⟩
  · rwa [htrim] at h
  · have hleads : (Catalog.schema.resolve (Catalog.entityNamed "Person")
        " manager.first_name").isOk = true := by decide +kernel
    rw [he] at hleads
    exact absurd hleads Bool.false_ne_true

/-- Spellings are not compared as they are, blanks around the path included: behind a dot
    with no segment before it a blank is part of the name. -/
theorem not_resolve_respelled_untrimmed :
    ¬ ∀ (entity : TypeExpr) (path other : String),
      Catalog.schema.IsPlainPath entity (segments path) →
      Respells (segments path) (segments other) →
      ((∃ a, Catalog.schema.resolve entity path = .ok a ∧
          Catalog.schema.resolve entity other = .ok { a with path := Text.trim other }) ∨
        ∃ e f, Catalog.schema.resolve entity path = .error e ∧
          Catalog.schema.resolve entity other = .error f ∧ e.SameClass f) := by
  intro h
  have hpath : segments " age" = [" age"] := by decide +kernel
  have hother : segments ". age" = [" age"] := by decide +kernel
  have hfound : (Catalog.schema.resolve (Catalog.entityNamed "Person") " age").isOk = true := by
    decide +kernel
  have hlost : (Catalog.schema.resolve (Catalog.entityNamed "Person") ". age").isOk = false := by
    decide +kernel
  rcases h (Catalog.entityNamed "Person") " age" ". age"
    (hpath.symm ▸ isPlainPath_singleton rfl tellsApart_person)
    (hpath.symm ▸ hother.symm ▸ .cons rfl .nil) with ⟨a, -, ha⟩ | ⟨e, f, he, -, -⟩
  · rw [ha] at hlost
    exact absurd hlost (by simp [Except.isOk, Except.toBool])
  · rw [he] at hfound
    exact absurd hfound Bool.false_ne_true

end Schema

end Criteria
