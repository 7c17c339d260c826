import Criteria.Proofs.Outcome
import Criteria.Proofs.Schema.Conformance
import Criteria.Value.Order
import Criteria.Value.Temporal

/-!
# Values on a Scale

Values of one plain type can be compared with each other.

Values that can be compared are on one scale. There is one for numbers of all kinds,
one for texts, one for dates and moments, and one each for lengths of time and for
identifiers. A type is on a scale if all of its values are, those of the types that
extend it included, and this is what `Schema.HasType.has` says: truths are on the
scale of whole numbers, moments on that of dates, and members of enumerations on that
of what they stand for. Decimals are on no scale, since some of them are undefined,
and neither are times of day, which may have an offset or not.

Two values on a scale are comparable once they are brought to one kind. The only
thing that can still be in the way is an offset that is none, so the moments have to
have proper ones.

A member of an enumeration is a value that says itself what it stands for. It is
genuine if the schema says so too.

## Main definitions

* `Schema.FitsEnums`: Members stand for what the kind of their enumeration says.
* `Schema.IsGenuine`: A value is no member that the schema does not know.
* `Schema.HasType`: A genuine value of a type.
* `Scale`, `Scale.Has`: The scales, and the values on them.

## Theorems

* `Schema.isInstance_cases`: What the values of a type look like.
* `Schema.HasType.has`: A value of a type on a scale is on that scale.
* `Scale.exists_relate`: Two values on a scale are comparable.
* `Value.exists_equal?`: All but a few values can be asked whether they are equal.
-/

namespace Criteria

/-- What a member of an enumeration of the kind may stand for. -/
def EnumKind.admits : EnumKind → EnumValue → Bool
  | .plain, _ => true
  | .integral, x => x.int?.isSome
  | .textual, .text _ | .wire, .text _ => true
  | .textual, _ | .wire, _ => false

namespace EnumType

variable {e : EnumType} {m : EnumMember}

theorem type_of_mem_members (h : m ∈ e.members) : m.type = e.name := by
  rcases List.mem_map.mp h with ⟨x, -, rfl⟩
  rfl

theorem kind_of_mem_members (h : m ∈ e.members) : m.kind = e.kind := by
  rcases List.mem_map.mp h with ⟨x, -, rfl⟩
  rfl

theorem mem_entries_of_mem_members (h : m ∈ e.members) : (m.name, m.value) ∈ e.entries := by
  rcases List.mem_map.mp h with ⟨x, hx, rfl⟩
  exact List.fst_mem_of_mem_zipIdx hx

end EnumType

/-- A moment has no offset, or one that is less than a day. -/
def Value.isProper : Value → Bool
  | moment m => m.isProper
  | _ => true

namespace Schema

/-- The members of all enumerations stand for what the kind of the enumeration
    says. -/
def FitsEnums (s : Schema) : Prop :=
  ∀ e ∈ s.enums, ∀ entry ∈ e.entries, e.kind.admits entry.2 = true

instance (s : Schema) : Decidable s.FitsEnums :=
  inferInstanceAs (Decidable (∀ e ∈ s.enums, _))

/-- A member of an enumeration is one of those that the enumeration has. -/
def IsGenuine (s : Schema) : Value → Prop
  | .member m => ∃ e, s.enum? m.type = some e ∧ m ∈ e.members
  | _ => True

/-- A value of the type; a member of an enumeration is a genuine one. -/
structure HasType (s : Schema) (v : Value) (t : NamedType) : Prop where
  isInstance : s.isInstance v t = true
  genuine : s.IsGenuine v

variable {s : Schema} {v : Value} {t : NamedType}

theorem isInstance_ofValue (s : Schema) (v : Value) : s.isInstance v (.ofValue v) = true := by
  rw [isInstance, isSubtype, lineage.eq_def]
  exact List.contains_iff_mem.mpr (List.mem_append_left _ List.mem_cons_self)

/-- What the values of a type look like: they are of no other type, but for a few
    types that extend another one. -/
theorem isInstance_cases (h : s.isInstance v t = true) :
    t = .ofValue v ∨ t = .object ∨ (∃ b, v = .bool b ∧ t = .int) ∨
      (∃ m, v = .moment m ∧ t = .date) ∨
      (∃ m e, v = .member m ∧ s.enum? m.type = some e ∧ t ∈ enumBase e.kind) ∨
      ∃ name, t = .entity name := by
  have hmem := List.contains_iff_mem.mp h
  -- The lineage is the type of the value, then what it extends, then what all extend.
  rw [lineage.eq_def, List.mem_append, List.mem_cons] at hmem
  rcases hmem with (hmem | hmem) | hmem
  · exact .inl hmem
  · cases v with
    | bool b => exact .inr (.inr (.inl ⟨b, rfl, List.mem_singleton.mp hmem⟩))
    | moment m => exact .inr (.inr (.inr (.inl ⟨m, rfl, List.mem_singleton.mp hmem⟩)))
    | member m =>
        dsimp only [NamedType.ofValue] at hmem
        cases henum : s.enum? m.type with
        | none =>
            rw [henum] at hmem
            exact absurd hmem List.not_mem_nil
        | some e =>
            rw [henum] at hmem
            exact .inr (.inr (.inr (.inr (.inl ⟨m, e, rfl, henum, hmem⟩))))
    -- The types above an entity are entities.
    | entity name => exact .inr (.inr (.inr (.inr (.inr (mem_ancestors hmem)))))
    | set frozen => cases frozen <;> exact absurd hmem List.not_mem_nil
    | _ => exact absurd hmem List.not_mem_nil
  · split at hmem
    · exact absurd hmem List.not_mem_nil
    · exact .inr (.inl (List.mem_singleton.mp hmem))

/-- The values of a type that none extends are of that type and no other. -/
theorem ofValue_eq_of_final (h : s.isInstance v t = true)
    (ht : t ∉ [NamedType.object, .int, .date, .text]) (hentity : ∀ name, t ≠ .entity name) :
    .ofValue v = t := by
  simp only [List.mem_cons, List.not_mem_nil, or_false, not_or] at ht
  -- The types that something other than their own values extends
  -- are excluded by `ht` and `hentity`.
  rcases s.isInstance_cases h with
    rfl | rfl | ⟨b, -, rfl⟩ | ⟨m, -, rfl⟩ | ⟨m, e, -, -, hbase⟩ | ⟨name, rfl⟩
  · rfl
  · exact absurd rfl ht.1
  · exact absurd rfl ht.2.1
  · exact absurd rfl ht.2.2.1
  · cases hkind : e.kind <;> rw [hkind] at hbase
    · exact absurd hbase List.not_mem_nil
    · exact absurd (List.mem_singleton.mp hbase) ht.2.1
    · exact absurd (List.mem_singleton.mp hbase) ht.2.2.2
    · exact absurd (List.mem_singleton.mp hbase) ht.2.2.2
  · exact absurd rfl (hentity name)

/-- The values of an enumeration are its members. -/
theorem exists_member_of_isInstance {name : String} (h : s.isInstance v (.enum name) = true) :
    ∃ m, v = .member m ∧ m.type = name := by
  have hof : NamedType.ofValue v = .enum name :=
    ofValue_eq_of_final h (by simp) fun other => NamedType.noConfusion
  cases v with
  | member m => exact ⟨m, rfl, NamedType.enum.inj hof⟩
  | set frozen => cases frozen <;> cases hof
  | _ => cases hof

/-- What a genuine member stands for is what the kind of its enumeration says. -/
theorem IsGenuine.admits (hs : s.FitsEnums) {m : EnumMember} {e : EnumType}
    (h : s.IsGenuine (.member m)) (he : s.enum? m.type = some e) :
    m.kind = e.kind ∧ e.kind.admits m.value = true := by
  rcases h with ⟨e', he', hm⟩
  rw [he', Option.some.injEq] at he
  rw [← he]
  exact ⟨EnumType.kind_of_mem_members hm,
    hs e' (List.mem_of_find?_eq_some he') _ (EnumType.mem_entries_of_mem_members hm)⟩

end Schema

/-- A scale that values are on. -/
inductive Scale where
  | number | text | calendar | duration | identifier
  deriving DecidableEq

/-- The scale that the values of the type are on. -/
def NamedType.scale? : NamedType → Option Scale
  | bool | int | float => some .number
  | text => some .text
  | date | moment => some .calendar
  | duration => some .duration
  | uuid => some .identifier
  | _ => none

/-- The value is on the scale. -/
def Scale.Has : Scale → Value → Prop
  | number, v => v.isDecimal = false ∧ ∃ d, v.number? = some d
  | text, v => v.number? = none ∧ ∃ s, v.text? = some s
  | calendar, v => (∃ d, v = .date d) ∨ ∃ m, v = .moment m
  | duration, v => ∃ d, v = .duration d
  | identifier, v => ∃ u, v = .uuid u

/-- A value of a type on a scale is on that scale. -/
theorem Schema.HasType.has {s : Schema} (hs : s.FitsEnums) {v : Value} {t : NamedType}
    (h : s.HasType v t) {scale : Scale} (hscale : t.scale? = some scale) : scale.Has v := by
  -- By the kind of the value; only truths, moments and members are on
  -- the scale of a type that they extend.
  rcases s.isInstance_cases h.isInstance with
    rfl | rfl | ⟨b, rfl, rfl⟩ | ⟨m, rfl, rfl⟩ | ⟨m, e, rfl, he, ht⟩ | ⟨name, rfl⟩
  · cases v with
    | bool | int | float => exact Option.some.inj hscale ▸ ⟨rfl, _, rfl⟩
    | text => exact Option.some.inj hscale ▸ ⟨rfl, _, rfl⟩
    | date d => exact Option.some.inj hscale ▸ .inl ⟨d, rfl⟩
    | moment m => exact Option.some.inj hscale ▸ .inr ⟨m, rfl⟩
    | duration d => exact Option.some.inj hscale ▸ ⟨d, rfl⟩
    | uuid u => exact Option.some.inj hscale ▸ ⟨u, rfl⟩
    | set frozen => cases frozen <;> cases hscale
    | _ => cases hscale
  · cases hscale
  · exact Option.some.inj hscale ▸ ⟨rfl, _, rfl⟩
  · exact Option.some.inj hscale ▸ .inr ⟨m, rfl⟩
  · -- The enumeration extends a type that its kind names, and the kind also says what a
    -- genuine member stands for.
    rcases h.genuine.admits hs he with ⟨hkind, hadmits⟩
    rcases m with ⟨type, kind, name, ordinal, value⟩
    dsimp only at hkind hadmits
    rw [hkind]
    cases hk : e.kind with
    | plain =>
        rw [hk] at ht
        exact absurd ht List.not_mem_nil
    | integral =>
        rw [hk] at ht hadmits
        rw [List.mem_singleton.mp ht] at hscale
        rcases Option.isSome_iff_exists.mp hadmits with ⟨n, hn⟩
        refine Option.some.inj hscale ▸ ⟨rfl, .ofInt n, ?_⟩
        rw [Value.number?, hn, Option.map_some]
    | textual | wire =>
        rw [hk] at ht hadmits
        rw [List.mem_singleton.mp ht] at hscale
        cases value with
        | text w => exact Option.some.inj hscale ▸ ⟨rfl, w, rfl⟩
        | _ => cases hadmits
  · cases hscale

section Moments

theorem Moment.meets_of_isProper {a b : Moment} (ha : a.isProper = true) (hb : b.isProper = true) :
    a.meets b = true := by
  rw [Moment.meets, ha, hb, Bool.and_self, Bool.or_true]

/-- Moments with an offset each, or without one, have an order. -/
theorem Moment.exists_compare? {a b : Moment} (h : a.offset.isSome = b.offset.isSome) :
    ∃ o, Moment.compare? a b = some o := by
  unfold Moment.compare?
  split
  · exact ⟨_, rfl⟩
  · exact ⟨_, rfl⟩
  · rename_i hnone hsome
    cases ha : a.offset <;> cases hb : b.offset
    · exact absurd hb (hnone ha)
    · rw [ha, hb] at h
      exact absurd h Bool.false_ne_true
    · rw [ha, hb] at h
      exact absurd h.symm Bool.false_ne_true
    · exact absurd hb (hsome _ _ ha)

/-- Aligned moments have an offset each, or none has, and stay proper. -/
theorem Value.alignMoments_spec (a b : Moment) :
    (alignMoments a b).1.offset.isSome = (alignMoments a b).2.offset.isSome ∧
      (a.isProper = true → (alignMoments a b).1.isProper = true) ∧
      (b.isProper = true → (alignMoments a b).2.isProper = true) := by
  -- Universal time is a proper offset, so a moment that is given one stays proper.
  have hutc (m : Moment) : ({ m with offset := some .utc } : Moment).isProper = true := by
    rw [Moment.isProper, Option.all_some]
    decide
  -- An offset is given to the moment that has none if the other one has one.
  cases ha : a.offset with
  | none =>
      cases hb : b.offset with
      | none =>
          rw [alignMoments, ha, hb]
          exact ⟨by rw [ha, hb], id, id⟩
      | some o =>
          rw [alignMoments, ha, hb]
          exact ⟨by rw [hb]; rfl, fun _ => hutc a, id⟩
  | some o =>
      cases hb : b.offset with
      | none =>
          rw [alignMoments, ha, hb]
          exact ⟨by rw [ha]; rfl, id, fun _ => hutc b⟩
      | some o' =>
          rw [alignMoments, ha, hb]
          exact ⟨by rw [ha, hb]; rfl, id, id⟩

end Moments

namespace Value

variable {a b : Value}

theorem meets_of_isProper (ha : a.isProper = true) (hb : b.isProper = true) :
    a.meets b = true := by
  unfold meets
  split
  · exact Moment.meets_of_isProper ha hb
  · rfl

/-- Values can be asked whether they are equal, unless one of them is a decimal that
    signals or a moment with an offset that is none. -/
theorem exists_equal? (ha : a.signals = false) (hb : b.signals = false)
    (hpa : a.isProper = true) (hpb : b.isProper = true) : ∃ r, equal? a b = .ok r := by
  refine ⟨equal a b, ?_⟩
  rw [equal?, ha, hb, Bool.false_and, Bool.false_and, Bool.false_or, if_neg Bool.false_ne_true,
    if_pos (meets_of_isProper hpa hpb)]

/-- Aligning keeps offsets proper and brings no decimal in. -/
theorem align_spec (hpa : a.isProper = true) (hpb : b.isProper = true) :
    ((align a b).1.isProper = true ∧ (align a b).2.isProper = true) ∧
      (a.signals = false → (align a b).1.signals = false) ∧
      (b.signals = false → (align a b).2.signals = false) := by
  unfold align
  split
  · rename_i x y
    exact ⟨⟨(alignMoments_spec x y).2.1 hpa, (alignMoments_spec x y).2.2 hpb⟩, fun _ => rfl,
      fun _ => rfl⟩
  · exact ⟨⟨hpa, hpa⟩, fun _ => rfl, fun _ => rfl⟩
  · exact ⟨⟨rfl, rfl⟩, fun _ => rfl, fun _ => rfl⟩
  · exact ⟨⟨hpa, hpb⟩, id, id⟩

theorem exists_relate_moments {x y : Moment} (hmeets : x.meets y = true)
    (h : x.offset.isSome = y.offset.isSome) : ∃ r, relate (.moment x) (.moment y) = .ok r := by
  rcases Moment.exists_compare? h with ⟨o, ho⟩
  refine ⟨.ofOrdering o, ?_⟩
  show (if x.meets y then relation? (Moment.compare? x y) else .error .unreadable) = _
  rw [if_pos hmeets, ho]
  rfl

end Value

/-- Two values on a scale are comparable once they are aligned. -/
theorem Scale.exists_relate {scale : Scale} {a b : Value} (ha : scale.Has a) (hb : scale.Has b)
    (hpa : a.isProper = true) (hpb : b.isProper = true) :
    ∃ r, Value.relate (Value.align a b).1 (Value.align a b).2 = .ok r := by
  -- One case for each scale. A relation is all that is claimed, which may also be that of no order.
  cases scale with
  | number =>
      rcases ha with ⟨hda, x, hx⟩
      rcases hb with ⟨hdb, y, hy⟩
      -- Without decimals all numbers have an order, or one of them is
      -- undefined and they stand in no relation.
      have hscalars : ∃ r, Value.relateScalars a b = .ok r := by
        rw [Value.relateScalars.eq_def, hx, hy]
        dsimp only
        rw [hda, hdb, Bool.or_self, Value.relateNumbers]
        cases Decimal.compare? x y <;> exact ⟨_, rfl⟩
      cases a with
      | bool | int | float | member => exact hscalars
      | decimal => cases hda
      | _ => cases hx
  | text =>
      rcases ha with ⟨hna, x, hx⟩
      rcases hb with ⟨hnb, y, hy⟩
      have hscalars : ∃ r, Value.relateScalars a b = .ok r := by
        rw [Value.relateScalars.eq_def, hna, hnb, hx, hy]
        exact ⟨_, rfl⟩
      cases a with
      | text | member => exact hscalars
      | _ => cases hx
  | calendar =>
      rcases ha with ⟨d, rfl⟩ | ⟨m, rfl⟩ <;> rcases hb with ⟨e, rfl⟩ | ⟨n, rfl⟩
      · exact ⟨_, rfl⟩
      · exact ⟨_, rfl⟩
      · -- The date becomes a moment on the same clock.
        refine Value.exists_relate_moments ?_ rfl
        rw [Moment.meets, Moment.ofDate, beq_self_eq_true, Bool.true_or]
      -- Two moments are first given offsets alike.
      · have hspec := Value.alignMoments_spec m n
        exact Value.exists_relate_moments
          (Moment.meets_of_isProper (hspec.2.1 hpa) (hspec.2.2 hpb)) hspec.1
  | duration =>
      rcases ha with ⟨d, rfl⟩
      rcases hb with ⟨e, rfl⟩
      exact ⟨_, rfl⟩
  | identifier =>
      rcases ha with ⟨u, rfl⟩
      rcases hb with ⟨w, rfl⟩
      exact ⟨_, rfl⟩

end Criteria
