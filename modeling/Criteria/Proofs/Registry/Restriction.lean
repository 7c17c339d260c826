import Criteria.Proofs.Registry.Shared
import Criteria.Proofs.Schema.Lineage

/-!
# Registrations for One Type of Entities

What a type of specifications says of the entities it is about, and what is said when it
is registered, are two restrictions, and one of them is kept. It is the type's own if it
has one. The other one may be narrower, which is checked; it is then not kept.

So the type's own restriction holds for as long as the name is not taken out, whatever
else is asked of the registry. The other one holds as well exactly if it is no narrower
(`Registry.isKeptTo_of_register`), or if nothing is ever resolved under the name.

## Main definitions

* `Registry.IsKeptTo`: A name is resolved for entities of a type only.

## Theorems

* `Schema.isCompatible_trans`: Compatibility of types is transitive.
* `Registry.resolve_eq_ok_iff`: A registration's type of entities is all that resolving
  for a type of entities adds.
* `Registry.find?_serveAll_of_kept`: A name stands for the same until it is taken out.
* `Registry.isKeptTo_of_register`: Which of the two restrictions holds.
-/

namespace Criteria

namespace Schema

variable {s : Schema}

theorem isCompatible_trans {t u w : TypeExpr} (htu : s.isCompatible t u = true)
    (huw : s.isCompatible u w = true) : s.isCompatible t w = true := by
  -- Compatible types are both named, apart from `any`, which stands in for `object`.
  cases t with
  | named t =>
      cases u with
      | named u =>
          cases w with
          | named w => exact isSubtype_trans htu huw
          | _ => cases huw
      | _ => cases htu
  | any =>
      cases u with
      | any => exact huw
      | named u =>
          cases u with
          | object =>
              cases w with
              | named w =>
                  -- Nothing is above `object` but itself.
                  have hw : w = .object := by simpa [isCompatible, isSubtype, lineage] using huw
                  rw [hw]
                  rfl
              | _ => cases huw
          | _ => cases htu
      | _ => cases htu
  | _ => cases htu

/-- What something is compatible with is compatible with itself. -/
theorem isCompatible_self {t u : TypeExpr} (h : s.isCompatible t u = true) :
    s.isCompatible u u = true := by
  cases u with
  | named u => exact isSubtype_refl s u
  | any => rfl
  | _ => cases t <;> cases h

end Schema

namespace Registry

variable {s : Schema} {r r' : Registry} {name : String} {entry : Registration}

/-- Under the name nothing is resolved for a type of entities, unless these are entities of
    the given type. -/
def IsKeptTo (s : Schema) (r : Registry) (name : String) (t : TypeExpr) : Prop :=
  ∀ (u : TypeExpr) (arguments : List Value) (spec : Spec),
    r.resolve s name arguments (some u) = .ok spec → s.isCompatible u t = true

/-- What is resolved for a type of entities is what is resolved for none, as long as the
    registration is about such entities. -/
theorem resolve_eq_ok_iff (h : r.find? name = some entry) (arguments : List Value)
    (entity : Option TypeExpr) (spec : Spec) :
    r.resolve s name arguments entity = .ok spec ↔
      s.mayBe entity entry.entity = true ∧ r.resolve s name arguments none = .ok spec := by
  have hget : r.get name = .ok entry := by rw [get, h]
  have hnone : s.mayBe none entry.entity = true := rfl
  rw [resolve, resolve, hget]
  simp only [bind, Except.bind, hnone, Bool.not_true, Bool.false_eq_true, if_false]
  cases s.mayBe entity entry.entity with
  | true => exact (and_iff_right rfl).symm
  | false => exact iff_of_false (fun hok => by cases hok) fun hok => Bool.false_ne_true hok.1

/-- A name is kept to a type of entities exactly if all that its registration is about are of
    that type, or if nothing is made under it. -/
theorem isKeptTo_iff {t : TypeExpr} (h : r.find? name = some entry) :
    r.IsKeptTo s name t ↔
      (∀ u, s.mayBe (some u) entry.entity = true → s.isCompatible u t = true) ∨
        ∀ arguments spec, r.resolve s name arguments none ≠ .ok spec := by
  constructor
  · intro hkept
    by_cases hmade : ∃ arguments spec, r.resolve s name arguments none = .ok spec
    · rcases hmade with ⟨arguments, spec, hspec⟩
      exact .inl fun u hu => hkept u arguments spec ((resolve_eq_ok_iff h _ _ _).mpr ⟨hu, hspec⟩)
    · exact .inr fun arguments spec hspec => hmade ⟨arguments, spec, hspec⟩
  · rintro (hall | hnever) u arguments spec hspec
    · exact hall u ((resolve_eq_ok_iff h _ _ _).mp hspec).1
    · exact absurd ((resolve_eq_ok_iff h _ _ _).mp hspec).2 (hnever arguments spec)

/-- A name stands for the same until it is taken out. -/
theorem find?_serveAll_of_kept (h : r.find? name = some entry) {requests : List (Nat × Request)}
    (hkept : ∀ p ∈ requests, p.2.removes name = false) :
    (serveAll s r requests).1.find? name = some entry := by
  -- The last event that concerns the name would be a removal, which `hkept` excludes, or an
  -- addition, which is refused while the name is taken.
  have hnone : (serveAll s r requests).2.reverse.find? (·.concerns s name) = none := by
    rw [List.find?_eq_none]
    intro e he
    have hmem := List.mem_reverse.mp he
    have hadds := List.filter_eq_nil_iff.mp
      (filter_adds_eq_nil (s := s) (h ▸ rfl : (r.find? name).isSome = true) hkept) e hmem
    have hremoves : e.request.removes name = false := by
      refine hkept (e.client, e.request) ?_
      rw [← map_serveAll s r requests]
      exact List.mem_map_of_mem hmem
    rw [Event.concerns, hremoves, Bool.false_or]
    exact hadds
  rw [find?_serveAll, hnone]
  exact h

/-- What a type of specifications is registered as, if nothing stands in its way. -/
theorem find?_of_register {t : SpecType} {given : Option String} {entity : Option TypeExpr}
    (h : (register s t given entity).result r = (r', none)) :
    s.mayBe entity t.entity = true ∧ r'.find? (FilterError.textOr t.name given) =
      some ⟨FilterError.textOr t.name given, t.maker, some t.name,
        t.entity.orElse fun _ => entity⟩ := by
  have hserve : (Request.register t given entity).serve s r = (r', none) := h
  -- A registration without an error has added its entry, and the name was free.
  cases hserve ▸ Request.outcome_serve s (.register t given entity) r with
  | @added entry _ hoffer hfree =>
      rw [Request.offer?] at hoffer
      split at hoffer
      · rename_i hall
        cases hoffer
        refine ⟨hall.2.1, ?_⟩
        rw [find?, List.find?_append, ← find?, hfree, Option.none_or, List.find?_cons,
          beq_self_eq_true]
      · cases hoffer
  | removed hq => cases hq

/-- From when a type of specifications has been registered for a type of entities until its
    name is taken out, it is resolved for those entities that it is itself about, or that it
    is registered for if it does not say. So it is kept to the entities it is about. It is
    kept to those it is registered for as well exactly if these are all it is about, or if
    nothing can be made of it. -/
theorem isKeptTo_of_register {t : SpecType} {given : Option String} {entity : TypeExpr}
    (h : (register s t given (some entity)).result r = (r', none))
    {requests : List (Nat × Request)}
    (hname : FilterError.textOr t.name given = name)
    (hkept : ∀ p ∈ requests, p.2.removes name = false) :
    (∀ arguments u spec,
      (serveAll s r' requests).1.resolve s name arguments (some u) = .ok spec ↔
        s.isCompatible u (t.entity.getD entity) = true ∧
          (serveAll s r' requests).1.resolve s name arguments none = .ok spec) ∧
    (∀ own ∈ t.entity, (serveAll s r' requests).1.IsKeptTo s name own) ∧
    ((serveAll s r' requests).1.IsKeptTo s name entity ↔
      (∀ own ∈ t.entity, s.isCompatible own entity = true) ∨
        ∀ arguments spec, (serveAll s r' requests).1.resolve s name arguments none ≠ .ok spec) := by
  rcases find?_of_register h with ⟨hmay, hfind⟩
  rw [hname] at hfind
  -- Whatever is requested afterwards, the entry is still found.
  have hlater := find?_serveAll_of_kept (s := s) hfind hkept
  generalize (serveAll s r' requests).1 = later at hlater ⊢
  refine ⟨fun arguments u spec => ?_, fun own hown => ?_, ?_⟩
  -- The entry is kept to the declared type, and to the requested one only where none is declared.
  · rw [resolve_eq_ok_iff hlater]
    cases t.entity <;> rfl
  · refine (isKeptTo_iff hlater).mpr (.inl fun u hu => ?_)
    dsimp only at hu
    rw [Option.mem_def.mp hown] at hu
    exact hu
  · rw [isKeptTo_iff hlater]
    refine or_congr_left ?_
    dsimp only
    cases hown : t.entity with
    | none => exact iff_of_true (fun u hu => hu) fun own hown => by cases hown
    | some own =>
        rw [hown] at hmay
        -- The declared type is compatible with itself, so the condition is also necessary.
        have hself := Schema.isCompatible_self hmay
        constructor
        · rintro hall d ⟨⟩
          exact hall own hself
        · exact fun hown u hu => Schema.isCompatible_trans hu (hown own rfl)

/-- Adults are people, and are registered as such; what is asked for later does not matter.
    Under their name something is resolved for employees, and nothing for addresses. -/
theorem isKeptTo_of_register_adult :
    let later := (serveAll Catalog.schema []
      [(0, .register (Catalog.adultNamed "Adult") none (some (Catalog.entityNamed "Person"))),
        (0, .register Catalog.anyOf (some "Adult") none), (1, .unregister "AnyOf")]).1
    later.IsKeptTo Catalog.schema "Adult" (Catalog.entityNamed "Person") ∧
      (∃ spec, later.resolve Catalog.schema "Adult" []
        (some (Catalog.entityNamed "Employee")) = .ok spec) ∧
      Catalog.schema.isCompatible (Catalog.entityNamed "Address")
        (Catalog.entityNamed "Person") = false := by
  have hregister : (register Catalog.schema (Catalog.adultNamed "Adult") none
      (some (Catalog.entityNamed "Person"))).result [] = (_, none) := rfl
  have hkept : ∀ p ∈ [(0, Request.register Catalog.anyOf (some "Adult") none),
      (1, .unregister "AnyOf")], p.2.removes "Adult" = false := by decide
  have h := isKeptTo_of_register hregister rfl hkept
  exact ⟨h.2.1 _ rfl, ⟨_, (h.1 [] _ _).mpr ⟨by decide, rfl⟩⟩, by decide⟩

/-- The narrower one of two restrictions is lost: adults are people, and if they are
    registered for employees, they are resolved for people who are none. -/
theorem not_isKeptTo_requested :
    ¬ ∀ (r r' : Registry) (t : SpecType) (given : Option String) (entity : TypeExpr),
      (register Catalog.schema t given (some entity)).result r = (r', none) →
        r'.IsKeptTo Catalog.schema (FilterError.textOr t.name given) entity := by
  intro h
  have hkept := h [] _ (Catalog.adultNamed "Adult") none (Catalog.entityNamed "Employee") rfl
  exact absurd (hkept (Catalog.entityNamed "Person") [] _ rfl) (by decide)

end Registry

end Criteria
