import Criteria.Schema.Path
import Mathlib.Data.List.Forall2

/-!
# Values of Declared Types

When what a value holds is as the types of its members declare it, all the way down.

A value may lead to values that are not inside it, since a property computes what it
likes. So conforming cannot be defined by recursion on the value, and not on the type
either, where entity types refer to one another. It is the greatest relation that
keeps its promises one step ahead: `Schema.IsTyping` says what a value of a type has
to answer in terms of the relation itself, and a value conforms if some relation of
that kind relates it to the type. Then conforming is one of these relations
(`Schema.isTyping_conforms`), which is all that proofs use.

Null is of the null type, and like any value it is an object. So null conforms to the
type of all objects, which does not say that null is allowed, and to a union by an arm
that is the type of all objects or unrestricted; `TypeExpr.IsClear` is about types where
null is written down. A value without a declared type still has to answer: no property
of it may fail, whatever the name that it is asked for.

## Main definitions

* `Generic.Admits`: A value is a collection or a table of a kind.
* `Generic.Holds`: What is in it, by the arguments of the generic type.
* `Schema.TypedBy`, `Schema.IsTyping`: A relation between values and types that keeps
  what types promise.
* `Schema.Conforms`: A value conforms to a type.
* `TypeExpr.IsClear`: A type that says whether null is allowed.

## Theorems

* `Schema.isTyping_conforms`: Conforming keeps what types promise.
* `Schema.conforms_of_typedBy`, `Schema.conforms_named`: How a value comes to conform.
* `Schema.Conforms.nullable`: Where null conforms, the type says so.
* `Schema.Conforms.unwrapOptional`: A value that is not null conforms to what is left
  without the null arm.
* `Schema.Conforms.elements`: Elements conform to the type of the elements.
-/

namespace Criteria

/-- One goes through a text character by character. -/
theorem Value.exists_iterate_of_text {v : Value} (h : v.text? ≠ none) :
    ∃ xs, v.iterate = .ok xs := by
  cases v with
  | text s => exact ⟨_, rfl⟩
  | member m =>
      rcases Option.ne_none_iff_exists'.mp h with ⟨s, hs⟩
      simp only [iterate, hs]
      exact ⟨_, rfl⟩
  | _ => exact absurd rfl h

theorem Value.exists_iterate_of_isCollection {v : Value}
    (h : (NamedType.ofValue v).isCollection = true) : ∃ xs, v.iterate = .ok xs := by
  cases v with
  | list | tuple | set => exact ⟨_, rfl⟩
  | _ => exact absurd h Bool.false_ne_true

namespace TypeExpr

theorem unwrapOptional_union_snd (arms : List TypeExpr) : (union arms).unwrapOptional.2 =
    ((arms.filter fun t => !t.isNull).length != arms.length) := by
  rw [unwrapOptional.eq_def]
  dsimp only
  split <;> rfl

theorem unwrapOptional_union_fst (arms : List TypeExpr) :
    (∃ t, (arms.filter fun t => !t.isNull) = [t] ∧ (union arms).unwrapOptional.1 = t) ∨
      (union arms).unwrapOptional.1 = union (arms.filter fun t => !t.isNull) := by
  rw [unwrapOptional.eq_def]
  dsimp only
  split
  · rename_i t ht
    exact .inl ⟨t, ht, rfl⟩
  · exact .inr rfl

end TypeExpr

namespace Generic

/-- The value is a collection or a table of the kind, whatever is in it. -/
def Admits : Generic → Value → Prop
  | list, v | mutableSequence, v => ∃ xs, v = .list xs
  | tuple, v => ∃ xs, v = .tuple xs
  | set, v | mutableSet, v => ∃ xs, v = .set false xs
  | frozenset, v => ∃ xs, v = .set true xs
  | abstractSet, v => ∃ frozen xs, v = .set frozen xs
  | dict, v | mapping, v => ∃ es, v = .dict es
  -- Texts and bytes are sequences too, and a model goes through its fields.
  | sequence, v => (∃ xs, v = .list xs ∨ v = .tuple xs) ∨ (∃ bs, v = .bytes bs) ∨ v.text? ≠ none
  | collection, v => v.size? ≠ none
  | iterable, v => ∃ xs, v.iterate = .ok xs

/-- What is in the value is related to the arguments of the generic type. -/
def Holds (R : Value → TypeExpr → Prop) (v : Value) : Generic → List TypeExpr → Prop
  | _, [] => True
  | tuple, ts => ∀ xs, v = .tuple xs → List.Forall₂ R xs ts
  | dict, k :: ts | mapping, k :: ts => ∀ es, v = .dict es → ∀ e ∈ es, R e.1 k ∧ ∀ t ∈ ts, R e.2 t
  | _, t :: _ => ∀ xs, v.iterate = .ok xs → ∀ x ∈ xs, R x t

theorem Holds.mono {R S : Value → TypeExpr → Prop} (hRS : ∀ v t, R v t → S v t) {v : Value}
    {g : Generic} {ts : List TypeExpr} (h : g.Holds R v ts) : g.Holds S v ts := by
  cases ts with
  | nil => cases g <;> trivial
  | cons t ts =>
      cases g with
      | tuple => exact fun xs hxs => (h xs hxs).imp fun v t => hRS v t
      | dict | mapping =>
          intro es hes e he
          exact ⟨hRS _ _ (h es hes e he).1, fun t ht => hRS _ _ ((h es hes e he).2 t ht)⟩
      | _ => exact fun xs hxs x hx => hRS _ _ (h xs hxs x hx)

/-- Null is no collection. -/
theorem not_admits_null (g : Generic) : ¬ g.Admits .null := by
  cases g <;> simp [Admits, Value.size?, Value.text?, Value.iterate]

/-- One goes through a collection value by value. -/
theorem Admits.exists_iterate {g : Generic} {v : Value} (h : g.Admits v)
    (hg : g.isCollection = true) : ∃ xs, v.iterate = .ok xs := by
  -- What each generic admits can be gone through; texts and bytes are sequences as well.
  cases g with
  | list | mutableSequence | tuple | set | mutableSet | frozenset =>
      rcases h with ⟨xs, rfl⟩
      exact ⟨xs, rfl⟩
  | abstractSet =>
      rcases h with ⟨frozen, xs, rfl⟩
      exact ⟨xs, rfl⟩
  | dict | mapping => exact absurd hg Bool.false_ne_true
  | sequence =>
      rcases h with ⟨xs, rfl | rfl⟩ | ⟨bs, rfl⟩ | h
      · exact ⟨xs, rfl⟩
      · exact ⟨xs, rfl⟩
      · exact ⟨_, rfl⟩
      · exact Value.exists_iterate_of_text h
  | collection =>
      cases v with
      | bytes | list | tuple | set | dict | text => exact ⟨_, rfl⟩
      | member m =>
          -- A member has a length only if it is a text.
          refine Value.exists_iterate_of_text fun htext => h ?_
          exact congrArg (Option.map String.length) htext
      | _ => exact absurd rfl h
  | iterable => exact h

end Generic

namespace Schema

section Lineage

variable {s : Schema}

theorem mem_ancestors {n : Nat} {name : String} {u : NamedType} (h : u ∈ s.ancestors n name) :
    ∃ parent, u = .entity parent := by
  induction n generalizing name with
  | zero => exact absurd h List.not_mem_nil
  | succ n ih =>
      rw [ancestors] at h
      split at h
      · rename_i parent _
        rcases List.mem_cons.mp h with rfl | h
        · exact ⟨parent, rfl⟩
        · exact ih h
      · exact absurd h List.not_mem_nil

/-- A type extends entity types, and a few types that are neither the null type nor
    types of collections. -/
theorem mem_lineage {t u : NamedType} (h : u ∈ s.lineage t) :
    u = t ∨ u ∈ [NamedType.int, .text, .date, .object] ∨ ∃ name, u = .entity name := by
  rw [lineage.eq_def, List.mem_append, List.mem_cons] at h
  -- A type extends itself, the types on its line, or the type of all objects.
  rcases h with (h | h) | h
  · exact .inl h
  · right
    cases t with
    | bool => exact .inl (by rw [List.mem_singleton.mp h]; decide)
    | moment => exact .inl (by rw [List.mem_singleton.mp h]; decide)
    | enum name =>
        dsimp only at h
        cases henum : s.enum? name with
        | none =>
            rw [henum] at h
            exact absurd h List.not_mem_nil
        | some e =>
            rw [henum, Option.map_some, Option.getD_some] at h
            cases hkind : e.kind <;> rw [hkind] at h
            · exact absurd h List.not_mem_nil
            all_goals exact .inl (by rw [List.mem_singleton.mp h]; decide)
    | entity name => exact .inr (mem_ancestors h)
    | _ => exact absurd h List.not_mem_nil
  · split at h
    · exact absurd h List.not_mem_nil
    · exact .inr (.inl (by rw [List.mem_singleton.mp h]; decide))

/-- What belongs to the null type or to a type of collections does so by its own
    type. -/
theorem ofValue_eq_of_isInstance {v : Value} {t : NamedType} (h : s.isInstance v t = true)
    (ht : t = .null ∨ t.isCollection = true) : NamedType.ofValue v = t := by
  rcases mem_lineage (List.contains_iff_mem.mp h) with h | h | ⟨name, rfl⟩
  · exact h.symm
  · simp only [List.mem_cons, List.not_mem_nil, or_false] at h
    rcases h with rfl | rfl | rfl | rfl <;> exact absurd ht (by decide)
  · exact absurd ht (by simp only [reduceCtorEq, NamedType.isCollection, Bool.false_eq_true,
      or_self, not_false_eq_true])

/-- Null is of the null type, and an object like any value. -/
theorem eq_null_or_eq_object_of_isInstance {t : NamedType} (h : s.isInstance .null t = true) :
    t = .null ∨ t = .object := by
  have hlineage : s.lineage (.ofValue .null) = [.null, .object] := rfl
  rw [isInstance, isSubtype, hlineage, List.contains_iff_mem, List.mem_cons,
    List.mem_singleton] at h
  exact h

end Lineage

/-- The value has what a type promises, and what is met there is related to the
    declared types. -/
def TypedBy (s : Schema) (R : Value → TypeExpr → Prop) (v : Value) : TypeExpr → Prop
  | .any => True
  | .named t => s.isInstance v t = true ∧
      ∀ e ∈ s.members (.named t), ∃ x, s.read v e.1 = .ok x ∧ R x e.2
  | .generic g ts => g.Admits v ∧ g.Holds R v ts
  | .tupleOf t => ∃ xs, v = .tuple xs ∧ ∀ x ∈ xs, R x t
  | .union arms => ∃ t ∈ arms, R v t
  | .unresolved _ => False

/-- The relation keeps what types promise: related values have it, and also answer
    where no type is declared. -/
structure IsTyping (s : Schema) (R : Value → TypeExpr → Prop) : Prop where
  typed : ∀ v t, R v t → s.TypedBy R v t
  untyped : ∀ v t, R v t → R v .any
  read : ∀ v, R v .any → ∀ name, ∃ x, s.read v name = .ok x ∧ R x .any
  elements : ∀ v, R v .any → ∀ xs, v.iterate = .ok xs → ∀ x ∈ xs, R x .any

/-- The value conforms to the type. -/
def Conforms (s : Schema) (v : Value) (t : TypeExpr) : Prop :=
  ∃ R, s.IsTyping R ∧ R v t

variable {s : Schema} {v : Value} {t : TypeExpr}

theorem TypedBy.mono {R S : Value → TypeExpr → Prop} (hRS : ∀ v t, R v t → S v t)
    (h : s.TypedBy R v t) : s.TypedBy S v t := by
  -- By the form of the type; `R` occurs only in front of what stands inside.
  cases t with
  | any => trivial
  | named t =>
      refine ⟨h.1, fun e he => ?_⟩
      rcases h.2 e he with ⟨x, hx, hxe⟩
      exact ⟨x, hx, hRS x e.2 hxe⟩
  | generic g ts => exact ⟨h.1, h.2.mono hRS⟩
  | tupleOf t =>
      rcases h with ⟨xs, hxs, h⟩
      exact ⟨xs, hxs, fun x hx => hRS x t (h x hx)⟩
  | union arms =>
      rcases h with ⟨t, ht, h⟩
      exact ⟨t, ht, hRS v t h⟩
  | unresolved name => exact h

/-- Conforming itself keeps what types promise. -/
theorem isTyping_conforms (s : Schema) : s.IsTyping s.Conforms where
  typed := by
    rintro v t ⟨R, hR, h⟩
    exact (hR.typed v t h).mono fun x u hx => ⟨R, hR, hx⟩
  untyped := by
    rintro v t ⟨R, hR, h⟩
    exact ⟨R, hR, hR.untyped v t h⟩
  read := by
    rintro v ⟨R, hR, h⟩ name
    rcases hR.read v h name with ⟨x, hx, hxany⟩
    exact ⟨x, hx, R, hR, hxany⟩
  elements := by
    rintro v ⟨R, hR, h⟩ xs hxs x hx
    exact ⟨R, hR, hR.elements v h xs hxs x hx⟩

/-- A value that has what a type promises, and answers where no type is declared,
    conforms to the type. -/
theorem conforms_of_typedBy (hany : s.Conforms v .any) (h : s.TypedBy s.Conforms v t) :
    s.Conforms v t := by
  -- One more pair may be added to those that conform.
  refine ⟨fun w u => s.Conforms w u ∨ w = v ∧ u = t, ⟨?_, ?_, ?_, ?_⟩, .inr ⟨rfl, rfl⟩⟩
  -- A new pair is typed by assumption and has no members and elements but those of `v`.
  · rintro w u (hw | ⟨rfl, rfl⟩)
    · exact (s.isTyping_conforms.typed w u hw).mono fun _ _ => .inl
    · exact h.mono fun _ _ => .inl
  · rintro w u (hw | ⟨rfl, rfl⟩)
    · exact .inl (s.isTyping_conforms.untyped w u hw)
    · exact .inl hany
  · intro w hw name
    have hw : s.Conforms w .any := hw.elim id fun ⟨hwv, _⟩ => hwv ▸ hany
    rcases s.isTyping_conforms.read w hw name with ⟨x, hx, hxany⟩
    exact ⟨x, hx, .inl hxany⟩
  · intro w hw xs hxs x hx
    have hw : s.Conforms w .any := hw.elim id fun ⟨hwv, _⟩ => hwv ▸ hany
    exact .inl (s.isTyping_conforms.elements w hw xs hxs x hx)

/-- Where reading never fails, every value conforms as one without a declared type. -/
theorem conforms_any (h : ∀ v name, ∃ x, s.read v name = .ok x) (v : Value) :
    s.Conforms v .any := by
  refine ⟨fun _ t => t = .any, ⟨?_, ?_, ?_, ?_⟩, rfl⟩
  · rintro w t rfl
    trivial
  · exact fun _ _ _ => rfl
  · intro w _ name
    rcases h w name with ⟨x, hx⟩
    exact ⟨x, hx, rfl⟩
  · exact fun _ _ _ _ _ _ => rfl

/-- A value conforms to a type that it belongs to if the type declares no members. -/
theorem conforms_named {t : NamedType} (hany : s.Conforms v .any) (h : s.isInstance v t = true)
    (hmembers : s.members (.named t) = []) : s.Conforms v (.named t) := by
  refine conforms_of_typedBy hany ⟨h, fun e he => ?_⟩
  rw [hmembers] at he
  exact absurd he List.not_mem_nil

theorem property?_eq_none (h : ∀ e ∈ s.entities, e.properties = []) (type name : String) :
    s.property? type name = none := by
  rw [property?]
  cases hentity : s.entity? type with
  | none => rfl
  | some e =>
      rw [Option.bind_some, h e (List.mem_of_find?_eq_some hentity)]
      rfl

/-- Without properties reading never fails. -/
theorem conforms_any_of_properties (h : ∀ e ∈ s.entities, e.properties = []) (v : Value) :
    s.Conforms v .any := by
  refine conforms_any (fun v name => ?_) v
  cases v with
  | entity type form fields computed =>
      rw [read, property?_eq_none h]
      cases fields.lookup name <;> exact ⟨_, rfl⟩
  | _ => exact ⟨_, rfl⟩

end Schema

/-- The type says whether null is allowed: it is neither the null type alone nor the type
    of all objects, the arms of a union are neither unions themselves nor unrestricted,
    and a union with an arm for all objects has one for null. -/
def TypeExpr.IsClear : TypeExpr → Prop
  | .named t => t ≠ .null ∧ t ≠ .object
  | .union arms => (∀ t ∈ arms, t ≠ .any ∧ ∀ us, t ≠ .union us) ∧
      (.named .object ∈ arms → .named .null ∈ arms)
  | _ => True

namespace Schema

namespace Conforms

variable {s : Schema} {v : Value} {t : TypeExpr}

theorem typed (h : s.Conforms v t) : s.TypedBy s.Conforms v t :=
  s.isTyping_conforms.typed v t h

theorem untyped (h : s.Conforms v t) : s.Conforms v .any :=
  s.isTyping_conforms.untyped v t h

/-- Null conforms to a type that is neither a union nor unrestricted only if that is
    the null type or the type of all objects. -/
theorem eq_of_null (h : s.Conforms .null t) (hany : t ≠ .any) (hunion : ∀ us, t ≠ .union us) :
    t = .named .null ∨ t = .named .object := by
  cases t with
  | any => exact absurd rfl hany
  | named t =>
      exact (eq_null_or_eq_object_of_isInstance h.typed.1).imp
        (congrArg TypeExpr.named) (congrArg TypeExpr.named)
  | generic g ts => exact absurd h.typed.1 g.not_admits_null
  | tupleOf t =>
      rcases h.typed with ⟨xs, hxs, -⟩
      exact absurd hxs (by simp only [reduceCtorEq, not_false_eq_true])
  | union arms => exact absurd rfl (hunion arms)
  | unresolved name => exact absurd h.typed id

/-- A value that conforms to the null type is null. -/
theorem isNull_of_isNull (h : s.Conforms v t) (ht : t.isNull = true) : v.isNull = true := by
  cases t with
  | named t =>
      cases t with
      | null =>
          have hof := ofValue_eq_of_isInstance h.typed.1 (.inl rfl)
          cases v with
          | null => rfl
          | set frozen => cases frozen <;> exact absurd hof (by simp [NamedType.ofValue])
          | _ => exact absurd hof (by simp [NamedType.ofValue])
      | _ => exact absurd ht Bool.false_ne_true
  | _ => exact absurd ht Bool.false_ne_true

/-- Where null conforms to a type that says whether it is allowed, it is. -/
theorem nullable (h : s.Conforms .null t) (ht : t.IsClear) : t.unwrapOptional.2 = true := by
  cases t with
  | any => rfl
  | named t =>
      -- Null is an instance of two types only, and `ht` excludes both.
      rcases eq_null_or_eq_object_of_isInstance h.typed.1 with rfl | rfl
      · exact absurd rfl ht.1
      · exact absurd rfl ht.2
  | generic g ts => exact absurd h.typed.1 g.not_admits_null
  | tupleOf t =>
      rcases h.typed with ⟨xs, hxs, -⟩
      exact absurd hxs (by simp only [reduceCtorEq, not_false_eq_true])
  | union arms =>
      rcases h.typed with ⟨u, hu, hnull⟩
      -- Null is let in by the null type, which is there beside the type of all objects.
      have harm : TypeExpr.named .null ∈ arms := by
        rcases hnull.eq_of_null (ht.1 u hu).1 (ht.1 u hu).2 with rfl | rfl
        · exact hu
        · exact ht.2 hu
      have hlength : (arms.filter fun t => !t.isNull).length < arms.length := by
        rw [List.length_filter_lt_length_iff_exists]
        exact ⟨_, harm, by decide⟩
      rw [TypeExpr.unwrapOptional_union_snd, bne_iff_ne]
      exact Nat.ne_of_lt hlength
  | unresolved name => exact absurd h.typed id

/-- A value that is not null conforms to what is left without the null arm. -/
theorem unwrapOptional (h : s.Conforms v t) (hv : v.isNull = false) :
    s.Conforms v t.unwrapOptional.1 := by
  cases t with
  | union arms =>
      rcases h.typed with ⟨u, hu, hvu⟩
      -- What is not null conforms to an arm that stays when the null type is taken out.
      have harm : u ∈ arms.filter fun t => !t.isNull := by
        refine List.mem_filter.mpr ⟨hu, ?_⟩
        cases hnull : u.isNull with
        | false => rfl
        | true => exact absurd (hvu.isNull_of_isNull hnull) (by rw [hv]; exact Bool.false_ne_true)
      -- One arm may be left, or a union of several.
      rcases TypeExpr.unwrapOptional_union_fst arms with ⟨w, hw, hfst⟩ | hfst
      · rw [hw, List.mem_singleton] at harm
        rw [hfst, ← harm]
        exact hvu
      · rw [hfst]
        exact conforms_of_typedBy h.untyped ⟨u, harm, hvu⟩
  | _ => exact h

/-- Elements conform to the type of the elements. -/
theorem elements (h : s.Conforms v t) {u : TypeExpr} (hu : t.element? = some u) :
    ∃ xs, v.iterate = .ok xs ∧ ∀ x ∈ xs, s.Conforms x u := by
  have hany {xs : List Value} (hxs : v.iterate = .ok xs) : ∀ x ∈ xs, s.Conforms x .any :=
    s.isTyping_conforms.elements v h.untyped xs hxs
  have hargument {w : TypeExpr} (hw : w.argument? = some u) : u = w := by
    rw [TypeExpr.argument?] at hw
    split at hw
    · exact absurd hw (by simp only [reduceCtorEq, not_false_eq_true])
    · exact (Option.some.inj hw).symm
  -- By the form of the type: only collections have an element type.
  cases t with
  | named t =>
      rw [TypeExpr.element?] at hu
      split at hu
      · rename_i hcollection
        rw [← Option.some.inj hu]
        rcases Value.exists_iterate_of_isCollection (v := v)
          (by rw [ofValue_eq_of_isInstance h.typed.1 (.inr hcollection), hcollection]) with
          ⟨xs, hxs⟩
        exact ⟨xs, hxs, hany hxs⟩
      · exact absurd hu (by simp only [reduceCtorEq, not_false_eq_true])
  | generic g ts =>
      -- A table is no collection here, so it has no element type either.
      cases hg : g.isCollection with
      | false =>
          rw [TypeExpr.element?.eq_def] at hu
          simp only [hg, Bool.false_eq_true, if_false, reduceCtorEq] at hu
      | true =>
          rcases h.typed.1.exists_iterate hg with ⟨xs, hxs⟩
          refine ⟨xs, hxs, ?_⟩
          cases ts with
          | nil =>
              have huany : some TypeExpr.any = some u := by
                cases g <;> first | exact hu | exact absurd hg Bool.false_ne_true
              rw [← Option.some.inj huany]
              exact hany hxs
          | cons w ts =>
              cases g with
              -- The elements of a tuple are each of their own type.
              | tuple =>
                  have huany : some TypeExpr.any = some u := hu
                  rw [← Option.some.inj huany]
                  exact hany hxs
              | dict | mapping => exact absurd hg Bool.false_ne_true
              | _ =>
                  rw [hargument (w := w) hu]
                  exact h.typed.2 xs hxs
  | tupleOf t =>
      rcases h.typed with ⟨xs, rfl, hxs⟩
      rw [hargument hu]
      exact ⟨xs, rfl, hxs⟩
  | _ => exact absurd hu (by simp only [TypeExpr.element?, reduceCtorEq, not_false_eq_true])

end Conforms

end Schema

end Criteria
