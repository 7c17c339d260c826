import Criteria.Proofs.Schema.Conformance
import Mathlib.Combinatorics.Pigeonhole

/-!
# Lines of Descent

A type that extends another one extends all that the other one extends.

For most types that is a matter of looking. Entity types are the exception: they are
climbed from parent to parent, and the climb is cut off after as many steps as there are
entity types in the schema. Two climbs in a row may take more steps than that. But every
type that is left on a climb is an entity type of the schema, so a climb with more steps
than there are such types passes one of them twice, and what lies between can be left
out (`Schema.exists_climb_le`). Nothing is assumed about the schema; its parents may be
missing, or go round in a circle.

## Main definitions

* `Schema.climb?`: The entity type some parents up.

## Theorems

* `Schema.mem_ancestors_iff`: The ancestors are what is reached by few steps.
* `Schema.exists_climb_le`: Few steps reach all there is to reach.
* `Schema.isSubtype_entity_iff`: An entity type extends what is reached by any steps.
* `Schema.isSubtype_trans`: Inclusion of types is transitive.
-/

namespace Criteria

namespace Schema

variable {s : Schema} {a b : String}

/-- The entity type that is the given number of parents up, if there are as many. -/
def climb? (s : Schema) : Nat → String → Option String
  | 0, name => some name
  | k + 1, name => ((s.entity? name).bind (·.parent)).bind (s.climb? k)

theorem climb?_add (s : Schema) (i j : Nat) (name : String) :
    s.climb? (i + j) name = (s.climb? i name).bind (s.climb? j) := by
  induction i generalizing name with
  | zero => rw [Nat.zero_add, climb?, Option.bind_some]
  | succ i ih =>
      rw [Nat.succ_add, climb?, climb?]
      cases (s.entity? name).bind (·.parent) with
      | none => rfl
      | some parent => exact ih parent

/-- The ancestors are what is reached by as many steps as are allowed, or fewer. -/
theorem mem_ancestors_iff {n : Nat} :
    .entity b ∈ s.ancestors n a ↔ ∃ k < n, s.climb? (k + 1) a = some b := by
  -- Induction on the bound of the search, for any entity that it starts at.
  induction n generalizing a with
  | zero => exact iff_of_false List.not_mem_nil fun ⟨_, hk, _⟩ => Nat.not_lt_zero _ hk
  | succ n ih =>
      rw [ancestors]
      -- Without a parent both the search and the climb end at once.
      cases hparent : (s.entity? a).bind (·.parent) with
      | none =>
          refine iff_of_false List.not_mem_nil ?_
          rintro ⟨k, -, hk⟩
          rw [climb?, hparent] at hk
          cases hk
      | some parent =>
          have hstep (k : Nat) : s.climb? (k + 1) a = s.climb? k parent := by
            rw [climb?, hparent, Option.bind_some]
          dsimp only
          rw [List.mem_cons, ih]
          constructor
          · rintro (heq | ⟨k, hk, hclimb⟩)
            · rw [NamedType.entity.inj heq]
              exact ⟨0, Nat.succ_pos n, hstep 0⟩
            · exact ⟨k + 1, Nat.succ_lt_succ hk, (hstep (k + 1)).trans hclimb⟩
          · rintro ⟨k, hk, hclimb⟩
            rw [hstep] at hclimb
            cases k with
            | zero => exact .inl (congrArg NamedType.entity (Option.some.inj hclimb).symm)
            | succ k => exact .inr ⟨k, Nat.lt_of_succ_lt_succ hk, hclimb⟩

/-- What is left on a climb is an entity type of the schema. -/
theorem mem_names_of_climb? {k : Nat} (hpos : 0 < k) (h : s.climb? k a = some b) :
    a ∈ s.entities.map (·.name) := by
  rcases Nat.exists_eq_succ_of_ne_zero (Nat.ne_of_gt hpos) with ⟨k, rfl⟩
  rw [climb?] at h
  cases hentity : s.entity? a with
  | none =>
      rw [hentity] at h
      cases h
  | some e =>
      have hname := List.find?_some (p := fun e : EntityType => e.name == a) hentity
      exact List.mem_map.mpr ⟨e, List.mem_of_find?_eq_some hentity, beq_iff_eq.mp hname⟩

/-- Wherever a climb is interrupted, it can be taken up again. -/
theorem exists_climb_sub {i k : Nat} (hi : i ≤ k) (h : s.climb? k a = some b) :
    ∃ c, s.climb? i a = some c ∧ s.climb? (k - i) c = some b := by
  rw [← Nat.add_sub_of_le hi, climb?_add] at h
  exact Option.bind_eq_some_iff.mp h

/-- On a climb of more steps than there are entity types one of them is passed twice. -/
theorem exists_passed_twice {k : Nat} (hk : s.entities.length < k) (h : s.climb? k a = some b) :
    ∃ i j, i < j ∧ j < k ∧ s.climb? i a = s.climb? j a := by
  -- On the way of a long climb every entity passed so far is known, because the climb goes on.
  have hpassed {i : Nat} (hi : i ∈ Finset.range (s.entities.length + 1)) :
      ∃ c ∈ s.entities.map (·.name), s.climb? i a = some c := by
    have hik : i < k := (Nat.lt_succ_iff.mp (Finset.mem_range.mp hi)).trans_lt hk
    rcases exists_climb_sub hik.le h with ⟨c, hc, hrest⟩
    exact ⟨c, mem_names_of_climb? (Nat.sub_pos_of_lt hik) hrest, hc⟩
  -- There are fewer names than steps.
  have hfew : (s.entities.map (·.name)).toFinset.card <
      (Finset.range (s.entities.length + 1)).card := by
    rw [Finset.card_range, Nat.lt_succ_iff]
    exact (List.toFinset_card_le _).trans_eq (List.length_map _)
  have hknown : Set.MapsTo (fun i => (s.climb? i a).getD "")
      (Finset.range (s.entities.length + 1)) (s.entities.map (·.name)).toFinset := by
    intro i hi
    rcases hpassed hi with ⟨c, hmem, hc⟩
    beta_reduce
    rw [hc, Option.getD_some]
    exact List.mem_toFinset.mpr hmem
  -- Hence two of the steps reach the same entity.
  rcases Finset.exists_ne_map_eq_of_card_lt_of_maps_to hfew hknown with ⟨i, hi, j, hj, hne, heq⟩
  rcases hpassed hi with ⟨c, -, hc⟩
  rcases hpassed hj with ⟨d, -, hd⟩
  have hcd : c = d := by
    rw [hc, hd] at heq
    exact heq
  have hlt {l : Nat} (hl : l ∈ Finset.range (s.entities.length + 1)) : l < k :=
    (Nat.lt_succ_iff.mp (Finset.mem_range.mp hl)).trans_lt hk
  rcases Nat.lt_or_gt_of_ne hne with hij | hji
  · exact ⟨i, j, hij, hlt hj, by rw [hc, hd, hcd]⟩
  · exact ⟨j, i, hji, hlt hi, by rw [hc, hd, hcd]⟩

/-- The steps from the first time to the second one can be left out. -/
theorem exists_climb_lt {k : Nat} (hk : s.entities.length < k) (h : s.climb? k a = some b) :
    ∃ m < k, 0 < m ∧ s.climb? m a = some b := by
  rcases exists_passed_twice hk h with ⟨i, j, hij, hjk, hsame⟩
  rcases exists_climb_sub hjk.le h with ⟨c, hc, hrest⟩
  refine ⟨i + (k - j), by omega, by omega, ?_⟩
  rw [climb?_add, hsame, hc, Option.bind_some]
  exact hrest

/-- Few steps reach all there is to reach. -/
theorem exists_climb_le {k : Nat} (hpos : 0 < k) (h : s.climb? k a = some b) :
    ∃ m ≤ s.entities.length, 0 < m ∧ s.climb? m a = some b := by
  induction k using Nat.strong_induction_on with
  | _ k ih =>
      rcases Nat.lt_or_ge s.entities.length k with hlong | hshort
      · rcases exists_climb_lt hlong h with ⟨m, hm, hpos, hclimb⟩
        exact ih m hm hpos hclimb
      · exact ⟨k, hshort, hpos, h⟩

theorem isSubtype_iff {t u : NamedType} : s.isSubtype t u = true ↔ u ∈ s.lineage t :=
  List.contains_iff_mem

theorem isSubtype_refl (s : Schema) (t : NamedType) : s.isSubtype t t = true :=
  isSubtype_iff.mpr (List.mem_append_left _ List.mem_cons_self)

theorem isSubtype_object (s : Schema) (t : NamedType) : s.isSubtype t .object = true := by
  rw [isSubtype_iff, lineage.eq_def]
  by_cases ht : t = .object
  · exact List.mem_append_left _ (ht ▸ List.mem_cons_self)
  · exact List.mem_append_right _ (by rw [if_neg ht]; exact List.mem_singleton_self _)

/-- An entity type extends those that are some parents up, however many they are. -/
theorem isSubtype_entity_iff :
    s.isSubtype (.entity a) (.entity b) = true ↔ ∃ k, s.climb? k a = some b := by
  have hlineage : NamedType.entity b ∈ s.lineage (.entity a) ↔
      b = a ∨ .entity b ∈ s.ancestors s.entities.length a := by
    simp only [lineage, List.mem_append, List.mem_cons, reduceCtorEq, if_false, List.not_mem_nil,
      or_false, NamedType.entity.injEq]
  rw [isSubtype_iff, hlineage, mem_ancestors_iff]
  -- An ancestor is reached by climbing, and a climb can be cut short until the search covers it.
  constructor
  · rintro (rfl | ⟨k, -, hk⟩)
    · exact ⟨0, rfl⟩
    · exact ⟨k + 1, hk⟩
  · rintro ⟨k, hk⟩
    rcases Nat.eq_zero_or_pos k with rfl | hpos
    · exact .inl (Option.some.inj hk).symm
    · rcases exists_climb_le hpos hk with ⟨m, hm, hmpos, hclimb⟩
      refine .inr ⟨m - 1, by omega, ?_⟩
      rw [Nat.sub_add_cancel hmpos]
      exact hclimb

/-- Only entity types extend an entity type. -/
theorem exists_entity_of_isSubtype {t : NamedType} (h : s.isSubtype t (.entity b) = true) :
    ∃ a, t = .entity a := by
  rw [isSubtype_iff, lineage.eq_def] at h
  cases t with
  | entity a => exact ⟨a, rfl⟩
  | enum name =>
      cases hbase : s.enum? name with
      | none => simp [hbase] at h
      | some e => cases hkind : e.kind <;> simp [hbase, hkind, enumBase] at h
  | _ => simp at h

/-- An entity type extends only entity types, and the type of all objects. -/
theorem eq_of_isSubtype_entity {u : NamedType} (h : s.isSubtype (.entity a) u = true) :
    u = .object ∨ ∃ b, u = .entity b := by
  rw [isSubtype_iff, lineage.eq_def, List.mem_append, List.mem_cons] at h
  rcases h with (rfl | h) | h
  · exact .inr ⟨a, rfl⟩
  · exact .inr (mem_ancestors h)
  · exact .inl (List.mem_singleton.mp h)

/-- A type that extends another one extends all that the other one extends. -/
theorem isSubtype_trans {t u w : NamedType} (htu : s.isSubtype t u = true)
    (huw : s.isSubtype u w = true) : s.isSubtype t w = true := by
  rcases mem_lineage (isSubtype_iff.mp htu) with rfl | hu | ⟨b, rfl⟩
  · exact huw
  · -- These types extend nothing but themselves and the type of all objects.
    have hw : w = u ∨ w = .object := by
      rw [isSubtype_iff] at huw
      simp only [List.mem_cons, List.not_mem_nil, or_false] at hu
      rcases hu with rfl | rfl | rfl | rfl <;> simpa [lineage] using huw
    rcases hw with rfl | rfl
    · exact htu
    · exact isSubtype_object s t
  -- Between entities the two climbs are made one after the other.
  · rcases exists_entity_of_isSubtype htu with ⟨a, rfl⟩
    rcases eq_of_isSubtype_entity huw with rfl | ⟨c, rfl⟩
    · exact isSubtype_object s _
    · rcases isSubtype_entity_iff.mp htu with ⟨i, hi⟩
      rcases isSubtype_entity_iff.mp huw with ⟨j, hj⟩
      refine isSubtype_entity_iff.mpr ⟨i + j, ?_⟩
      rw [climb?_add, hi, Option.bind_some]
      exact hj

end Schema

end Criteria
