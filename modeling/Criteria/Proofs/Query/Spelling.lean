import Criteria.Proofs.Query.Criterion
import Criteria.Proofs.Text.LowerCase

/-!
# Spellings of Keys

When two payloads differ in nothing but the spelling of keys.

A member of an object goes by two names, one with a capital letter inside and one
with an underscore, and either may begin with a capital letter. What counts as a
member depends on what the object is meant to be: the keys of a criterion are names,
those of the parameters of a custom filter are not. `Place.members` lists, for each
place of a payload, the members of an object that stands there and the places that
these are in turn. One place depends on more than where it is. The operand of a
criterion is read as a criterion itself where the operator is a quantifier and one of
its keys says "field" in some case, and else it is a value like any other.

`Respelled` relates payloads along these places. Entries that are members may be
spelled differently, and no member may be there twice; all other entries stay as they
are. Two facts make it useful. A member is found in both objects or in neither
(`Respelled.found`), and a table is a criterion for a quantifier in both spellings,
although that is decided in another way than names are (`Criterion.isCriterionTable_of_respelled`).

## Main definitions

* `Place`: What stands at a place of a payload.
* `MemberPlace`: A member of an object.
* `Place.members`: The members of an object that stands somewhere.
* `Respelled`: Two payloads are the same but for the spelling of keys.
* `MemberPlace.Found`: A member is found in two objects alike.

## Theorems

* `Text.lower_eq_of_lowerFirst`: A text and its name are the same in lower case.
* `Respelled.forall₂_entries`: Entries of respelled objects.
* `Respelled.found`: Members of respelled objects.
* `Respelled.depth_eq`: Spelling has no effect on how deeply values are nested.
* `Criterion.isCriterionTable_of_respelled`: Nor on what a quantifier takes for a
  criterion.
-/

namespace Criteria

open Fitted

namespace Text

/-- The small form of a character is one character, or the one that the tables make
    two of. -/
theorem lowerChar_eq (c : Char) :
    (∃ d, lowerChar c = [d]) ∨ lowerChar c = [Char.ofNat 0x69, Char.ofNat 0x307] := by
  rcases lowerChar_cases c with ⟨-, hc⟩ | hc | ⟨r, -, -, hc⟩ | hc
  · exact .inl ⟨_, hc⟩
  · exact .inr hc
  · exact .inl ⟨_, hc⟩
  · exact .inl ⟨_, hc⟩

/-- A name of plain characters that begins with a small one. -/
def IsPlainName (n : String) : Prop :=
  (∀ c ∈ n.toList, c.toNat < 0x80) ∧ ∀ c ∈ n.toList.head?, c.toLower = c

instance (n : String) : Decidable (IsPlainName n) :=
  decidable_of_iff
    (n.toList.all (fun c => c.toNat < 0x80) ∧ n.toList.head?.all fun c => c.toLower = c) (by
      simp only [IsPlainName, List.all_eq_true, Option.all_eq_true, decide_eq_true_eq,
        Option.mem_def])

/-- A text is the same in lower case as the name that it becomes when its first letter
    is made a small one. -/
theorem lower_eq_of_lowerFirst {k n : String} (hn : IsPlainName n) (h : lowerFirst k = n) :
    lower k = lower n := by
  -- The name is plain, so there is no sigma in it.
  have hplain : ∀ d ∈ n.toList, d ≠ 'Σ' := by
    intro d hd hsigma
    have := hn.1 d hd
    rw [hsigma] at this
    exact absurd this (by decide)
  rw [lowerFirst] at h
  -- Only the first letter is made small by `lowerFirst`, so the texts are compared from there.
  cases hk : k.toList with
  | nil =>
      rw [hk] at h
      have hempty : k = n := by
        rw [← h, ← String.ofList_toList (s := k), hk]
      rw [hempty]
  | cons c cs =>
      rw [hk] at h
      have hlist : n.toList = lowerChar c ++ cs := by
        rw [← h, String.toList_ofList]
      rcases lowerChar_eq c with ⟨d, hd⟩ | hd
      · -- The letters after the first are those of the name, so it is enough that the first
        -- letter of the name is its own small form.
        rw [hd, List.singleton_append] at hlist
        have hsmall : lowerChar d = [d] := by
          have hd128 := hn.1 d (by rw [hlist]; exact List.mem_cons_self)
          rw [lowerChar, if_pos hd128, hn.2 d (by rw [hlist]; rfl)]
        -- The one letter whose small form depends on where it stands is not in the text:
        -- made small it would not be plain.
        have hsigma : ∀ x ∈ k.toList, x ≠ 'Σ' := by
          rw [hk]
          intro x hx
          rcases List.mem_cons.mp hx with rfl | hx
          · rintro rfl
            have hd' : d = 'σ' := by
              rw [lowerChar_sigma] at hd
              exact (List.head_eq_of_cons_eq hd).symm
            have := hn.1 d (by rw [hlist]; exact List.mem_cons_self)
            rw [hd'] at this
            exact absurd this (by decide)
          · exact hplain x (by rw [hlist]; exact List.mem_cons_of_mem d hx)
        rw [lower_eq_flatMap hsigma, lower_eq_flatMap hplain, hk, hlist, List.flatMap_cons,
          List.flatMap_cons, hd, hsmall]
      · -- The second of the two characters is not plain.
        have := hn.1 (Char.ofNat 0x307) (by rw [hlist, hd]; simp)
        exact absurd this (by decide)

end Text

/-- What stands at a place of a payload. -/
inductive Place where
  | untyped
  | query
  | ordering
  | criterion
  /-- The operand of a quantifier. -/
  | operand
  | composite
  | node
  | list (place : Place)
  deriving DecidableEq

/-- A member of an object: the names it goes by, and what it is. -/
structure MemberPlace where
  name : String
  other : String
  place : Place
  deriving DecidableEq

namespace MemberPlace

/-- The key names the member, with a small or a capital letter in front. -/
def Names (m : MemberPlace) (k : Value) : Prop :=
  ∃ s ∈ k.text?, Text.lowerFirst s = m.name ∨ Text.lowerFirst s = m.other

instance (m : MemberPlace) (k : Value) : Decidable (m.Names k) :=
  inferInstanceAs (Decidable (∃ s ∈ k.text?, _))

example : ∀ k ∈ ["pageSize", "page_size", "PageSize", "Page_size"],
    (⟨"pageSize", "page_size", .untyped⟩ : MemberPlace).Names (.text k) := by decide

/-- Two keys name the member: texts in whatever spelling, or one key of any sort. -/
def NamesBoth (m : MemberPlace) (k k' : Value) : Prop :=
  m.Names k ∧ m.Names k' ∧ (k = k' ∨ ∃ s s', k = .text s ∧ k' = .text s')

/-- Texts that name the member. -/
theorem namesBoth_texts {m : MemberPlace} {s s' : String} (h : m.Names (.text s))
    (h' : m.Names (.text s')) : m.NamesBoth (.text s) (.text s') :=
  ⟨h, h', .inr ⟨s, s', rfl, rfl⟩⟩

end MemberPlace

/-- A member of one name that is a value of any sort. -/
def plainMember (name : String) : MemberPlace :=
  ⟨name, name, .untyped⟩

/-- The members of a query. -/
def queryMembers : List MemberPlace := [
  plainMember "page",
  ⟨"pageSize", "page_size", .untyped⟩,
  ⟨"noTracking", "no_tracking", .untyped⟩,
  ⟨"orderings", "orderings", .list .ordering⟩,
  ⟨"filters", "filters", .list .criterion⟩,
  plainMember "includes",
  plainMember "hierarchy",
  ⟨"hierarchyMaxDepth", "hierarchy_max_depth", .untyped⟩]

/-- The members of a criterion, whose operand may be a criterion under a
    quantifier. -/
def criterionMembers (quantified : Bool) : List MemberPlace := [
  plainMember "field",
  plainMember "operator",
  ⟨"value", "value", if quantified then .operand else .untyped⟩,
  plainMember "logic",
  ⟨"filters", "filters", .list .criterion⟩,
  ⟨"customType", "custom_type", .untyped⟩,
  ⟨"customParameters", "custom_parameters", .untyped⟩,
  ⟨"specificationName", "specification_name", .untyped⟩,
  ⟨"specificationArguments", "specification_arguments", .untyped⟩,
  ⟨"compositeSpecification", "composite_specification", .composite⟩]

/-- The members of an ordering. -/
def orderingMembers : List MemberPlace :=
  [plainMember "field", plainMember "direction"]

/-- The members of a composite specification. -/
def compositeMembers : List MemberPlace :=
  [⟨"nodes", "nodes", .list .node⟩]

/-- The members of a node of a composite specification, which has those of a leaf or
    those of a group. -/
def nodeMembers : List MemberPlace :=
  [plainMember "name", plainMember "arguments", plainMember "logic",
    ⟨"nodes", "nodes", .list .node⟩]

/-- The operator of a criterion with the members is a quantifier. -/
def Members.isQuantified (ms : Members) : Bool :=
  match ms.fit "operator" "operator" (fits .equal) fitOperator with
  | fits op => op.isQuantifier
  | misfits _ => false

namespace Place

/-- The members of an object that stands at the place. -/
def members (place : Place) (entries : List (Value × Value)) : List MemberPlace :=
  match place with
  | query => queryMembers
  | ordering => orderingMembers
  | criterion => criterionMembers (Members.ofEntries entries).isQuantified
  | composite => compositeMembers
  | node => nodeMembers
  | untyped | operand | list _ => []

/-- No two members share a name. -/
theorem eq_of_names (place : Place) (entries : List (Value × Value)) :
    ∀ m ∈ place.members entries, ∀ m' ∈ place.members entries, ∀ k, m.Names k → m'.Names k →
      m = m' := by
  -- Within one place the names are all different, which is decided for each kind of place.
  have hdistinct : ∀ m ∈ place.members entries, ∀ m' ∈ place.members entries,
      (m.name = m'.name ∨ m.name = m'.other ∨ m.other = m'.name ∨ m.other = m'.other) → m = m' := by
    cases place with
    | criterion =>
        rw [members]
        cases (Members.ofEntries entries).isQuantified <;> decide
    | untyped | operand | list => exact fun m hm => absurd hm List.not_mem_nil
    | _ =>
        rw [members]
        decide
  -- A key becomes one name only, which the two members share if the key names both.
  rintro m hm m' hm' k ⟨s, hs, hname⟩ ⟨s', hs', hname'⟩
  rw [← Option.mem_unique hs hs'] at hname'
  refine hdistinct m hm m' hm' ?_
  rcases hname with h | h <;> rcases hname' with h' | h'
  · exact .inl (h.symm.trans h')
  · exact .inr (.inl (h.symm.trans h'))
  · exact .inr (.inr (.inl (h.symm.trans h')))
  · exact .inr (.inr (.inr (h.symm.trans h')))

end Place

/-- No member is there twice. -/
def SpelledOnce (members : List MemberPlace) (es : List (Value × Value)) : Prop :=
  ∀ m ∈ members, es.Pairwise fun e e' => ¬ (m.Names e.1 ∧ m.Names e'.1)

instance (members : List MemberPlace) (es : List (Value × Value)) :
    Decidable (SpelledOnce members es) :=
  inferInstanceAs (Decidable (∀ m ∈ members, _))

/-- Of two different entries one does not name the member. -/
theorem SpelledOnce.of_ne {members : List MemberPlace} {es : List (Value × Value)}
    (h : SpelledOnce members es) {m : MemberPlace} (hm : m ∈ members) {e e' : Value × Value}
    (he : e ∈ es) (he' : e' ∈ es) (hne : e ≠ e') : ¬ (m.Names e.1 ∧ m.Names e'.1) := by
  have hsymm : Std.Symm fun e e' : Value × Value => ¬ (m.Names e.1 ∧ m.Names e'.1) :=
    ⟨fun _ _ h hswapped => h hswapped.symm⟩
  exact (h m hm).forall he he' hne

mutual

/-- Two payloads at a place are the same but for the spelling of keys, and no object
    holds two spellings of a member. -/
inductive Respelled : Place → Value → Value → Prop
  | same (place : Place) (v : Value) : Respelled place v v
  | object {place : Place} {es es' : List (Value × Value)}
      (h : RespelledEntries (place.members es) es es')
      (honce : SpelledOnce (place.members es) es) (honce' : SpelledOnce (place.members es) es') :
      Respelled place (.dict es) (.dict es')
  | list {place : Place} {xs xs' : List Value} (h : RespelledAll place xs xs') :
      Respelled (.list place) (.list xs) (.list xs')
  | tuple {place : Place} {xs xs' : List Value} (h : RespelledAll place xs xs') :
      Respelled (.list place) (.tuple xs) (.tuple xs')
  | operand {v v' : Value} (htable : Criterion.isCriterionTable v = true)
      (h : Respelled .criterion v v') : Respelled .operand v v'

/-- The entries of two objects are the same but for the spelling of the members. -/
inductive RespelledEntries : List MemberPlace → List (Value × Value) → List (Value × Value) → Prop
  | nil {members : List MemberPlace} : RespelledEntries members [] []
  | member {members : List MemberPlace} {m : MemberPlace} {k k' v v' : Value}
      {es es' : List (Value × Value)} (hm : m ∈ members) (hkeys : m.NamesBoth k k')
      (hv : Respelled m.place v v') (h : RespelledEntries members es es') :
      RespelledEntries members ((k, v) :: es) ((k', v') :: es')
  | other {members : List MemberPlace} {e : Value × Value} {es es' : List (Value × Value)}
      (he : ∀ m ∈ members, ¬ m.Names e.1) (h : RespelledEntries members es es') :
      RespelledEntries members (e :: es) (e :: es')

/-- The elements of two lists are the same but for the spelling of keys. -/
inductive RespelledAll : Place → List Value → List Value → Prop
  | nil {place : Place} : RespelledAll place [] []
  | cons {place : Place} {x x' : Value} {xs xs' : List Value} (hx : Respelled place x x')
      (h : RespelledAll place xs xs') : RespelledAll place (x :: xs) (x' :: xs')

end

namespace Respelled

/-- An entry and its partner. -/
def IsPartner (members : List MemberPlace) (e e' : Value × Value) : Prop :=
  (∃ m ∈ members, m.NamesBoth e.1 e'.1 ∧ Respelled m.place e.2 e'.2) ∨
    e' = e ∧ ∀ m ∈ members, ¬ m.Names e.1

theorem forall₂_entries {members : List MemberPlace} : ∀ {es es' : List (Value × Value)},
    RespelledEntries members es es' → List.Forall₂ (IsPartner members) es es'
  | _, _, .nil => .nil
  | _, _, .member hm hkeys hv h => .cons (.inl ⟨_, hm, hkeys, hv⟩) (forall₂_entries h)
  | _, _, .other he h => .cons (.inr ⟨rfl, he⟩) (forall₂_entries h)

theorem forall₂_elements {place : Place} : ∀ {xs xs' : List Value},
    RespelledAll place xs xs' → List.Forall₂ (Respelled place) xs xs'
  | _, _, .nil => .nil
  | _, _, .cons hx h => .cons hx (forall₂_elements h)

/-- Where nothing is a member nothing is respelled. -/
theorem eq_of_other {es es' : List (Value × Value)} (h : RespelledEntries [] es es') :
    es' = es := by
  have hpartners := forall₂_entries h
  clear h
  induction hpartners with
  | nil => rfl
  | cons he _ ih =>
      rcases he with ⟨m, hm, -⟩ | ⟨rfl, -⟩
      · exact absurd hm List.not_mem_nil
      · rw [ih]

/-- Values that are no part of the form of payloads stay as they are. -/
theorem eq_of_untyped {v v' : Value} (h : Respelled .untyped v v') : v' = v := by
  cases h with
  | same => rfl
  | object h => rw [eq_of_other h]

end Respelled

namespace Members

variable {es : List (Value × Value)} {m : MemberPlace}

theorem mem_ofEntries {n : String} {v : Value} :
    (n, v) ∈ ofEntries es ↔ ∃ k s, (k, v) ∈ es ∧ k.text? = some s ∧ Text.lowerFirst s = n := by
  simp only [ofEntries, Value.textEntries, List.mem_reverse, List.mem_map, List.mem_filterMap,
    Option.map_eq_some_iff]
  constructor
  · rintro ⟨e, ⟨d, hd, s, hs, rfl⟩, heq⟩
    rcases Prod.mk.inj heq with ⟨hn, rfl⟩
    exact ⟨d.1, s, hd, hs, hn⟩
  · rintro ⟨k, s, hmem, hs, rfl⟩
    exact ⟨(s, v), ⟨(k, v), hmem, s, hs, rfl⟩, rfl⟩

/-- A member that is found is one of the entries. -/
theorem exists_of_find {v : Value} (h : ((ofEntries es).find m.name m.other).2 = some v) :
    ∃ k, (k, v) ∈ es ∧ m.Names k := by
  have hlookup :
      (ofEntries es).lookup m.name = some v ∨ (ofEntries es).lookup m.other = some v := by
    rw [find] at h
    split at h
    · rename_i hname
      exact .inl (hname.trans h)
    · rename_i hother
      exact .inr (hother.trans h)
    · cases h
  rcases hlookup with hlookup | hlookup
  · rcases mem_ofEntries.mp (mem_of_lookup hlookup) with ⟨k, s, hmem, hs, hname⟩
    exact ⟨k, hmem, s, hs, .inl hname⟩
  · rcases mem_ofEntries.mp (mem_of_lookup hlookup) with ⟨k, s, hmem, hs, hname⟩
    exact ⟨k, hmem, s, hs, .inr hname⟩

/-- A member that is one of the entries is found, as that entry or another one. -/
theorem find_ne_none {e : Value × Value} (he : e ∈ es) (hm : m.Names e.1) :
    ((ofEntries es).find m.name m.other).2 ≠ none := by
  -- A key that stands for a name of the member is found under it.
  have hlookup {n : String} (hn : ∃ s, e.1.text? = some s ∧ Text.lowerFirst s = n) :
      (ofEntries es).lookup n ≠ none := by
    rcases hn with ⟨s, hs, hname⟩
    intro hnone
    have hmem : (n, e.2) ∈ ofEntries es := mem_ofEntries.mpr ⟨e.1, s, he, hs, hname⟩
    have hkey := List.lookup_eq_none_iff.mp hnone (n, e.2) hmem
    simp at hkey
  rw [find]
  rcases hm with ⟨s, hs, hname | hname⟩
  · split
    · exact Option.some_ne_none _
    · exact Option.some_ne_none _
    · rename_i hnone _
      exact absurd hnone (hlookup ⟨s, hs, hname⟩)
  · split
    · exact Option.some_ne_none _
    · exact Option.some_ne_none _
    · rename_i _ hnone
      exact absurd hnone (hlookup ⟨s, hs, hname⟩)

end Members

/-- The member is found in both objects, as values that are the same but for the
    spelling of keys, or in neither. -/
def MemberPlace.Found (m : MemberPlace) (ms ms' : Members) : Prop :=
  ((ms.find m.name m.other).2 = none ∧ (ms'.find m.name m.other).2 = none) ∨
    ∃ v v', (ms.find m.name m.other).2 = some v ∧ (ms'.find m.name m.other).2 = some v' ∧
      Respelled m.place v v'

namespace Respelled

variable {place : Place} {es es' : List (Value × Value)}

/-- The members of respelled objects. Their order is the same, but that is not what
    decides which one is found: no member is there twice. -/
theorem found (h : RespelledEntries (place.members es) es es')
    (honce' : SpelledOnce (place.members es) es') {m : MemberPlace} (hm : m ∈ place.members es) :
    m.Found (.ofEntries es) (.ofEntries es') := by
  have hpartners := forall₂_entries h
  -- Either spelling is searched, and whatever is found has a partner in the other one.
  cases hfind : ((Members.ofEntries es).find m.name m.other).2 with
  | none =>
      refine .inl ⟨hfind, ?_⟩
      cases hfind' : ((Members.ofEntries es').find m.name m.other).2 with
      | none => rfl
      | some v' =>
          rcases Members.exists_of_find hfind' with ⟨k', hmem', hk'⟩
          rcases forall₂_exists_left hpartners hmem' with ⟨e, he, hpartner⟩
          -- The partner has a name of the member as well, so it would have been found.
          have hk : m.Names e.1 := by
            rcases hpartner with ⟨m', hm', hkeys, -⟩ | ⟨rfl, hother⟩
            · rw [place.eq_of_names es m hm m' hm' k' hk' hkeys.2.1]
              exact hkeys.1
            · exact hk'
          exact absurd hfind (Members.find_ne_none he hk)
  | some v =>
      rcases Members.exists_of_find hfind with ⟨k, hmem, hk⟩
      rcases forall₂_exists_right hpartners hmem with ⟨e', he', hpartner⟩
      rcases hpartner with ⟨m', hm', hkeys, hv⟩ | ⟨-, hother⟩
      · have hsame : m = m' := place.eq_of_names es m hm m' hm' k hk hkeys.1
        rw [← hsame] at hkeys hv
        rcases Option.ne_none_iff_exists'.mp (Members.find_ne_none he' hkeys.2.1) with ⟨v', hfind'⟩
        rcases Members.exists_of_find hfind' with ⟨k', hmem', hk'⟩
        refine .inr ⟨v, v', hfind, hfind', ?_⟩
        -- The entry that is found is the partner, since no other one names the member.
        by_cases hentry : (k', v') = e'
        · rw [← hentry] at hv
          exact hv
        · exact absurd ⟨hk', hkeys.2.1⟩ (honce'.of_ne hm hmem' he' hentry)
      · exact absurd hk (hother m hm)

theorem depth_of_names {m : MemberPlace} {k : Value} (h : m.Names k) : k.depth = 0 := by
  rcases h with ⟨s, hs, -⟩
  cases k with
  | text | member => rfl
  | _ => cases hs

mutual

/-- Spelling has no effect on how deeply values are nested. -/
theorem depth_eq : ∀ {place : Place} {v v' : Value}, Respelled place v v' → v'.depth = v.depth
  | _, _, _, .same _ _ => rfl
  | _, _, _, .object h _ _ => congrArg (· + 1) (depthEntries_eq h)
  | _, _, _, .list h => congrArg (· + 1) (depthAll_eq h)
  | _, _, _, .tuple h => congrArg (· + 1) (depthAll_eq h)
  | _, _, _, .operand _ h => depth_eq h

theorem depthEntries_eq : ∀ {members : List MemberPlace} {es es' : List (Value × Value)},
    RespelledEntries members es es' → Value.depthEntries es' = Value.depthEntries es
  | _, _, _, .nil => rfl
  | _, _, _, .member _ hkeys hv h => by
      rw [Value.depthEntries, Value.depthEntries, Value.depthEntry, Value.depthEntry,
        depth_of_names hkeys.1, depth_of_names hkeys.2.1, depth_eq hv, depthEntries_eq h]
  | _, _, _, .other _ h => by
      rw [Value.depthEntries, Value.depthEntries, depthEntries_eq h]

theorem depthAll_eq : ∀ {place : Place} {xs xs' : List Value},
    RespelledAll place xs xs' → Value.depthAll xs' = Value.depthAll xs
  | _, _, _, .nil => rfl
  | _, _, _, .cons hx h => by
      rw [Value.depthAll, Value.depthAll, depth_eq hx, depthAll_eq h]

end

end Respelled

namespace Criterion

/-- Plain names of the members of a criterion, all of which say "field" in lower case
    under both names or under neither. -/
theorem isPlainName_members (quantified : Bool) : ∀ m ∈ criterionMembers quantified,
    Text.IsPlainName m.name ∧ Text.IsPlainName m.other ∧
      (Text.lower m.name = "field" ↔ Text.lower m.other = "field") := by
  cases quantified <;> decide

/-- Keys that name a member of a criterion both say "field" in some case, or neither
    does. -/
theorem lower_display_of_namesBoth {quantified : Bool} {m : MemberPlace}
    (hm : m ∈ criterionMembers quantified) {k k' : Value} (h : m.NamesBoth k k') :
    Text.lower k'.display = "field" ↔ Text.lower k.display = "field" := by
  -- All names of members are plain, and of those only one is `field`.
  rcases isPlainName_members quantified m hm with ⟨hname, hother, hfield⟩
  rcases h with ⟨⟨s, hs, hk⟩, ⟨s', hs', hk'⟩, rfl | ⟨t, t', rfl, rfl⟩⟩
  · rfl
  · -- In lower case each text is one of the two names.
    have hlower {s t : String} (hs : s ∈ (Value.text t).text?)
        (hk : Text.lowerFirst s = m.name ∨ Text.lowerFirst s = m.other) :
        Text.lower (Value.text t).display = "field" ↔ Text.lower m.name = "field" := by
      have heq : t = s := Option.some.inj hs
      show Text.lower t = "field" ↔ _
      rw [heq]
      rcases hk with hk | hk
      · rw [Text.lower_eq_of_lowerFirst hname hk]
      · rw [Text.lower_eq_of_lowerFirst hother hk, hfield]
    rw [hlower hs hk, hlower hs' hk']

theorem any_field_of_partners {quantified : Bool} {es es' : List (Value × Value)}
    (h : List.Forall₂ (Respelled.IsPartner (criterionMembers quantified)) es es') :
    (es'.any fun e => Text.lower e.1.display == "field") =
      es.any fun e => Text.lower e.1.display == "field" := by
  induction h with
  | nil => rfl
  | @cons e e' _ _ hpartner _ ih =>
      rw [List.any_cons, List.any_cons, ih]
      congr 1
      rw [Bool.eq_iff_iff, beq_iff_eq, beq_iff_eq]
      rcases hpartner with ⟨m, hm, hkeys, -⟩ | ⟨rfl, -⟩
      · exact lower_display_of_namesBoth hm hkeys
      · rfl

/-- A table stands for a criterion in both spellings. -/
theorem isCriterionTable_of_respelled {v v' : Value} (h : Respelled .criterion v v') :
    isCriterionTable v' = isCriterionTable v := by
  cases h with
  | same => rfl
  | object h => exact any_field_of_partners (Respelled.forall₂_entries h)

end Criterion

end Criteria
