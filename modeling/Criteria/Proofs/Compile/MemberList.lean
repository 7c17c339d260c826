import Criteria.Catalog.Candidates
import Criteria.Proofs.Coercion.Token
import Criteria.Proofs.Coercion.Whole
import Criteria.Proofs.Compile.ValueList

/-!
# Lists of Members

Which candidates a list of members accepts.

The items of the list are tokens, and each of them stands for one member
(`EnumType.TellsTokens.parse_eq`). What is read of a candidate is then looked up among
these members: the value itself or, where the field is a collection, each of its
elements. So there is one rule for both, about what a field holds (`Accessor.holds`):
something of it has to be in the list.

Two things are to be kept in mind. Before an item becomes a token the blanks around it are
taken off, if it is a text, and with them those of a value that is a text with blanks
around it. And looking up goes by equality, not by identity. Among the members of an
enumeration there is no difference; but a member that is a whole number, say, equals that
number, and a candidate may hold the number.

## Main definitions

* `Accessor.holds`: What a field holds.
* `EnumMember.IsListedAs`: The items that stand for a member in a list.

## Theorems

* `MembershipTest.accepts_eq`: A field is looked up by what it holds.
* `EnumMember.isListedAs_of_denotes`: Which tokens may stand in a list.
* `Context.exists_holds`: What is held in a field of an enumeration are members.
* `Context.verdict_memberList`: Tokens, and lists of them.
* `Context.not_verdict_memberList_verbatim`: Tokens of a list are trimmed, and what is equal
  to a member need not be one.
-/

namespace Criteria

/-- What the field holds where this is read of it: the elements of a collection, or a
    single value unless it is null. -/
def Accessor.holds (a : Accessor) (y : Value) : Except Failure (List Value) :=
  if a.isCollection then y.elementsOrNone else .ok (if y.isNull then [] else [y])

namespace MembershipTest

variable {s : Schema} {t : MembershipTest} {v y : Value} {es : List Value}

/-- Hashable values are looked up one by one. -/
theorem holdsAny_eq (ht : t.transform = none) (hes : ∀ e ∈ es, e.isHashable = true) :
    t.holdsAny es = .ok (es.any fun e => Value.contains t.values e) := by
  induction es with
  | nil => rfl
  | cons e es ih =>
      rw [List.forall_mem_cons] at hes
      have hholds : t.holds e = .ok (Value.contains t.values e) := by
        rw [holds, ht]
        exact if_pos hes.1
      rw [holdsAny, hholds, ih hes.2, List.any_cons]
      cases Value.contains t.values e <;> rfl

/-- A field is looked up by what it holds. -/
theorem accepts_eq (ht : t.transform = none) (hread : t.accessor.read s v = .ok y)
    (hholds : t.accessor.holds y = .ok es) (hes : ∀ e ∈ es, e.isHashable = true) :
    t.accepts s v = .ok ((es.any fun e => Value.contains t.values e) != t.negated) := by
  have hany := holdsAny_eq ht hes
  rw [accepts, hread]
  dsimp only [bind, Except.bind]
  unfold Accessor.holds at hholds
  -- A collection is read item by item and a single value as one item,
  -- unless it is null, which nothing accepts.
  by_cases hcollection : t.accessor.isCollection = true
  · rw [if_pos hcollection] at hholds ⊢
    rw [hholds]
    dsimp only
    rw [hany]
    rfl
  · rw [if_neg hcollection] at hholds ⊢
    have hsame := Except.ok.inj hholds
    by_cases hnull : y.isNull = true
    · rw [if_pos hnull] at hsame ⊢
      rw [← hsame]
      rfl
    · rw [if_neg hnull] at hsame ⊢
      rw [← hsame] at hes ⊢
      have hone : t.holds y = .ok (Value.contains t.values y) := by
        rw [holds, ht]
        exact if_pos (hes y List.mem_cons_self)
      rw [hone, List.any_cons, List.any_nil, Bool.or_false]
      rfl

end MembershipTest

namespace Value

variable {v : Value} {text : String}

/-- A text in a list is trimmed. -/
theorem keptItem?_of_text (h : v.text? = some text) (hblank : Text.isBlankText text = false) :
    v.keptItem? = some (.text (Text.trim text)) := by
  unfold keptItem?
  cases v with
  | null => cases h
  | _ =>
      rw [h]
      dsimp only
      rw [hblank, if_neg Bool.false_ne_true]

/-- What is no text stays as it is. -/
theorem keptItem?_of_no_text (h : v.text? = none) (hnull : v.isNull = false) :
    v.keptItem? = some v := by
  unfold keptItem?
  rw [h]
  cases v with
  | null => cases hnull
  | _ => rfl

end Value

namespace EnumMember

/-- The item stands for the member in a list: what is left of it without the blanks around
    it is a token of the member. -/
def IsListedAs (m : EnumMember) (item : Value) : Prop :=
  ∃ token, item.keptItem? = some token ∧ m.Denotes token

variable {m : EnumMember} {item : Value}

/-- A token of a member may stand in a list if it is not blank and if there are no blanks
    around the value of the member. -/
theorem isListedAs_of_denotes (h : m.Denotes item)
    (hblank : ∀ text, item.text? = some text → Text.isBlankText text = false)
    (hvalue : Text.trim m.value.toValue.display = m.value.toValue.display) :
    m.IsListedAs item := by
  -- An item without a text is kept as it stands, one with a text is trimmed first; the two helpers
  -- say that the rest is then denoted as before.
  have hplain {v : Value} (hv : m.Denotes v) (hnull : v.isNull = false) (htext : v.text? = none) :
      m.IsListedAs v := ⟨v, Value.keptItem?_of_no_text htext hnull, hv⟩
  have htrimmed {v : Value} {text : String} (hv : v.text? = some text)
      (hblank : Text.isBlankText text = false) (hdenotes : m.Denotes (.text (Text.trim text))) :
      m.IsListedAs v := ⟨_, Value.keptItem?_of_text hv hblank, hdenotes⟩
  cases h with
  | self =>
      cases htext : (Value.member m).text? with
      | none => exact hplain .self rfl htext
      | some text =>
          -- A member that is a text is its value.
          have hsame : m.value = .text text := by
            rcases m with ⟨type, kind, name, ordinal, value⟩
            cases kind with
            | textual | wire =>
                cases value with
                | text w => rw [Option.some.inj htext]
                | int | float | bool => cases htext
            | plain | integral => cases htext
          refine htrimmed htext (hblank text htext) ?_
          rw [hsame] at hvalue
          have htoken : Value.text (Text.trim text) = m.value.toValue := by
            rw [hsame]
            exact congrArg Value.text hvalue
          rw [htoken]
          exact .value
  | @name text hname =>
      refine htrimmed rfl (hblank text rfl) (.name ?_)
      rw [Text.trim_trim, hname]
  | value =>
      -- The token is the member's value: only a textual one can carry
      -- blanks, which `hvalue` excludes.
      cases hm : m.value with
      | text text =>
          rw [hm] at hvalue hblank
          refine htrimmed rfl (hblank text rfl) ?_
          have htoken : Value.text (Text.trim text) = m.value.toValue := by
            rw [hm]
            exact congrArg Value.text hvalue
          rw [htoken]
          exact .value
      | int | float | bool => exact hm ▸ hplain .value (hm ▸ rfl) (hm ▸ rfl)
  | text =>
      refine htrimmed rfl (hblank _ rfl) ?_
      rw [hvalue]
      exact .text

end EnumMember

namespace Context

variable {c : Context} {entity : TypeExpr} {k : Criterion} {a : Accessor} {e : EnumType}
  {name : String} {ms : List EnumMember} {items tokens : List Value} {token : Value}

/-- The items of a list are read as the tokens that are left of them. -/
theorem exists_tokens (hget : k.settings.get? "values" = some (.list items)) (hne : items ≠ [])
    (hitems : List.Forall₂ EnumMember.IsListedAs ms items) :
    ∃ tokens, k.settings.values "values" = .ok tokens ∧
      List.Forall₂ EnumMember.Denotes ms tokens := by
  have hread : ∃ tokens, items.filterMap Value.keptItem? = tokens ∧
      List.Forall₂ EnumMember.Denotes ms tokens := by
    -- Induction on the rendering: every item is kept, so tokens and members stay aligned.
    clear hget hne
    induction hitems with
    | nil => exact ⟨[], rfl, .nil⟩
    | @cons m item ms items hitem _ ih =>
        rcases hitem with ⟨token, hkept, hdenotes⟩
        rcases ih with ⟨tokens, htokens, hrest⟩
        exact ⟨token :: tokens, by rw [List.filterMap_cons_some hkept, htokens],
          .cons hdenotes hrest⟩
  rcases hread with ⟨tokens, htokens, hdenotes⟩
  refine ⟨tokens, ?_, hdenotes⟩
  have hrequire : k.settings.require "values" = .ok (.list items) := by
    rw [Parameters.require, hget]
  have hlist : Value.readList [';'] (.list items) = tokens := htokens
  rw [Parameters.values, hrequire]
  dsimp only [bind, Except.bind]
  rw [hlist]
  -- The list is not empty, which is the one fault that `values` could still report.
  cases hdenotes with
  | nil =>
      rw [List.forall₂_nil_left_iff] at hitems
      exact absurd hitems hne
  | cons => rfl

/-- A token is the member that it stands for. -/
theorem enumToken_eq (henum : c.schema.enum? name = some e) {m : EnumMember}
    (h : e.parse token = .ok m) : c.enumToken name token = .ok (.member m) := by
  rw [enumToken_eq_ok_iff, Schema.parseMember, henum]
  exact map_eq_ok_iff.mpr ⟨m, h, rfl⟩

/-- What a list of members compiles to. -/
theorem compile_memberList (he : e.TellsTokens) (henum : c.schema.enum? name = some e)
    (htype : k.type = .enumValues) (hfield : c.fieldOf entity k.settings = .ok a)
    (helement : elementOrValue a = .named (.enum name))
    (hvalues : k.settings.values "values" = .ok tokens) (hms : ∀ m ∈ ms, m ∈ e.members)
    (htokens : List.Forall₂ EnumMember.Denotes ms tokens) :
    c.compileCriterion entity k = .ok (.member ⟨a, ms.map .member, false, none⟩) := by
  have hcompile : c.compileCriterion entity k = c.enumValues entity k.settings := by
    refine compileCriterion_of_filter? ?_ ?_
    · rw [htype]
      rfl
    · rw [htype]
      rfl
  -- Each token parses to its member, so the test holds the members themselves.
  have hmembers : tokens.mapM (c.enumToken name) = .ok (ms.map .member) := by
    rw [mapM_eq_ok_iff]
    clear hvalues
    induction htokens with
    | nil => exact .nil
    | cons hdenotes _ ih =>
        rw [List.forall_mem_cons] at hms
        exact .cons (enumToken_eq henum (he.parse_eq hms.1 hdenotes)) (ih hms.2)
  -- Members are hashable, so building the test cannot fail.
  have hhashable : Value.allHashable (ms.map .member) = true := by
    refine Value.allHashable_iff.mpr fun x hx => ?_
    rcases List.mem_map.mp hx with ⟨m, -, rfl⟩
    rfl
  rw [hcompile, enumValues_eq hfield hvalues helement, hmembers]
  exact passing_eq_ok_iff.mpr (Spec.membership_eq_ok_iff.mpr ⟨hhashable, rfl⟩)

/-- What a candidate holds in a field of an enumeration are members. -/
theorem exists_holds (hfield : c.fieldOf entity k.settings = .ok a)
    (helement : elementOrValue a = .named (.enum name)) {v : Value}
    (hv : c.schema.Suits v entity) :
    ∃ y es, a.read c.schema v = .ok y ∧ a.holds y = .ok es ∧
      ∀ x ∈ es, ∃ n, x = .member n ∧ n.type = name := by
  have hmember {x : Value} (hx : c.schema.Conforms x (.named (.enum name))) :
      ∃ n, x = .member n ∧ n.type = name :=
    Schema.exists_member_of_isInstance hx.typed.1
  rcases exists_path_of_fieldOf hfield with ⟨path, -, hresolve⟩
  unfold Accessor.holds Accessor.isCollection
  rw [elementOrValue] at helement
  -- The enumeration is either the element type of a collection or the type of a single value; the
  -- two are read through different lemmas of the schema.
  cases hu : a.element with
  | some u =>
      rw [hu] at helement
      have hsame : u = .named (.enum name) := helement
      rw [hsame] at hu
      rcases Schema.exists_elements_of_resolve hresolve hu hv with ⟨y, es, hread, hes, hall⟩
      exact ⟨y, es, hread, hes, fun x hx => hmember (hall x hx)⟩
  | none =>
      rw [hu] at helement
      have hvalue : a.valueType = .named (.enum name) := helement
      rcases Schema.exists_readAll_of_resolve hresolve hv with ⟨y, hy, -, hconforms, -⟩
      have hread : a.read c.schema v = .ok y := (c.schema.read_eq_readAll a v).trans hy
      refine ⟨y, _, hread, rfl, fun x hx => ?_⟩
      -- Null conforms to every optional type, but a single null counts as no item at all.
      by_cases hnull : y.isNull = true
      · rw [if_pos hnull] at hx
        exact absurd hx List.not_mem_nil
      · rw [if_neg hnull] at hx
        rw [List.mem_singleton.mp hx]
        exact hmember (hvalue ▸ hconforms (Bool.eq_false_iff.mpr hnull))

/-- Tokens, and lists of them. The members of the enumeration are told by their tokens.

    Then each member is found by all of its tokens. And a list whose items are, without the
    blanks around them, such tokens compiles. It has a verdict on all candidates with hashable
    values, and accepts those of which the field holds something that equals one of the
    members in the list. Where it holds members of the enumeration, and nothing else, this is
    to say that it holds one of those in the list; a candidate whose members conform to their
    types holds nothing but members. -/
theorem verdict_memberList (he : e.TellsTokens)
    (hadmits : ∀ entry ∈ e.entries, e.kind.admits entry.2 = true)
    (henum : c.schema.enum? name = some e) :
    (∀ m ∈ e.members, ∀ token, m.Denotes token → e.parse token = .ok m) ∧
    ∀ (entity : TypeExpr) (k : Criterion) (a : Accessor) (ms : List EnumMember)
      (items : List Value),
      k.type = .enumValues → c.fieldOf entity k.settings = .ok a →
      elementOrValue a = .named (.enum name) →
      k.settings.get? "values" = some (.list items) → items ≠ [] →
      (∀ m ∈ ms, m ∈ e.members) → List.Forall₂ EnumMember.IsListedAs ms items →
      (∃ spec, c.compileCriterion entity k = .ok spec) ∧
      (∀ v, c.schema.Suits v entity → ∃ y es, a.read c.schema v = .ok y ∧ a.holds y = .ok es ∧
        ∀ x ∈ es, ∃ n, x = .member n ∧ n.type = name) ∧
      ∀ v y es, a.read c.schema v = .ok y → a.holds y = .ok es →
        (∀ x ∈ es, x.isHashable = true) →
        (∃ b, c.verdict entity k v = .ok b) ∧
        (c.verdict entity k v = .ok true ↔
          ∃ x ∈ es, ∃ m ∈ ms, Value.equal x (.member m) = true) ∧
        ((∀ x ∈ es, ∃ n ∈ e.members, x = .member n) →
          (c.verdict entity k v = .ok true ↔ ∃ m ∈ ms, .member m ∈ es)) := by
  refine ⟨fun m hm token h => he.parse_eq hm h, ?_⟩
  intro entity k a ms items htype hfield helement hget hne hms hitems
  rcases exists_tokens hget hne hitems with ⟨tokens, hvalues, htokens⟩
  have hcompile := compile_memberList he henum htype hfield helement hvalues hms htokens
  refine ⟨⟨_, hcompile⟩, fun v hv => exists_holds hfield helement hv,
    fun v y es hread hholds hes => ?_⟩
  -- The compiled test is a membership test whose verdict was computed in `accepts_eq`.
  have haccepts : c.verdict entity k v =
      .ok (es.any fun x => Value.contains (ms.map .member) x) := by
    rw [verdict, hcompile]
    show passing (unworded _) = _
    rw [MembershipTest.accepts_eq rfl hread hholds hes, Bool.bne_false]
    rfl
  have hverdict : c.verdict entity k v = .ok true ↔
      ∃ x ∈ es, ∃ m ∈ ms, Value.equal x (.member m) = true := by
    rw [haccepts, Except.ok.injEq, List.any_eq_true]
    refine exists_congr fun x => and_congr_right fun _ => ?_
    rw [Value.contains, List.any_map, List.any_eq_true]
    rfl
  refine ⟨⟨_, haccepts⟩, hverdict, fun hmembers => ?_⟩
  -- Among members of one enumeration, equality of values is equality of members.
  rw [hverdict]
  constructor
  · rintro ⟨x, hx, m, hm, hequal⟩
    rcases hmembers x hx with ⟨n, hn, rfl⟩
    have hsame := Value.equal_of_equal? (he.equal?_eq hadmits hn (hms m hm))
    rw [hsame, beq_iff_eq] at hequal
    rw [hequal] at hx
    exact ⟨m, hm, hx⟩
  · rintro ⟨m, hm, hx⟩
    have hsame := Value.equal_of_equal? (he.equal?_eq hadmits (hms m hm) (hms m hm))
    rw [beq_self_eq_true] at hsame
    exact ⟨.member m, hx, m, hm, hsame⟩

/-- The priorities are told by their tokens. -/
theorem tellsTokens_priority : Catalog.priority.TellsTokens where
  names := by decide +kernel
  values := by decide +kernel
  name_inj := by decide +kernel
  text_ne_name := by decide +kernel
  text_inj := by decide +kernel

/-- The lowest priority. -/
def low : EnumMember := ⟨"Priority", .integral, "LOW", 0, .int 1⟩

/-- The priority in the middle. -/
def medium : EnumMember := ⟨"Priority", .integral, "MEDIUM", 1, .int 5⟩

/-- The highest priority. -/
def high : EnumMember := ⟨"Priority", .integral, "HIGH", 2, .int 10⟩

/-- People whose priority is not high; one of the others is given by name, and one by value. -/
def unhurried : Criterion where
  type := .enumValues
  parameters := [("field", .text "priority"), ("values", .list [.text " low ", .int 5])]

/-- The second person has one of these priorities, and the first one has not. -/
theorem verdict_memberList_unhurried :
    Catalog.priority.parse (.text " low ") = .ok low ∧
    ofSample.verdict (Catalog.entityNamed "Person") unhurried Catalog.bob = .ok true ∧
    ¬ofSample.verdict (Catalog.entityNamed "Person") unhurried Catalog.alice = .ok true := by
  -- First the facts about the schema and the list, each decided,
  -- then the theorem is applied to them.
  have henum : ofSample.schema.enum? "Priority" = some Catalog.priority := rfl
  have hadmits : ∀ entry ∈ Catalog.priority.entries,
      Catalog.priority.kind.admits entry.2 = true := by decide +kernel
  have hlow : low.Denotes (.text " low ") := .name (by decide +kernel)
  have hmedium : medium.Denotes (.int 5) := .value
  have hmembers : ∀ m ∈ [low, medium, high], m ∈ Catalog.priority.members := by decide +kernel
  have hitems : List.Forall₂ EnumMember.IsListedAs [low, medium] [.text " low ", .int 5] := by
    refine .cons (EnumMember.isListedAs_of_denotes hlow ?_ (by decide +kernel))
      (.cons (EnumMember.isListedAs_of_denotes hmedium nofun (by decide +kernel)) .nil)
    rintro text ⟨⟩
    decide +kernel
  have hresolve : ∃ a, ofSample.fieldOf (Catalog.entityNamed "Person") unhurried.settings = .ok a ∧
      elementOrValue a = .named (.enum "Priority") ∧ a.isCollection = false ∧
      a.read ofSample.schema Catalog.bob = .ok (.member medium) ∧
      a.read ofSample.schema Catalog.alice = .ok (.member high) := ⟨_, rfl, rfl, rfl, rfl, rfl⟩
  rcases hresolve with ⟨a, ha, helement, hsingle, hbob, halice⟩
  rcases verdict_memberList tellsTokens_priority hadmits henum with ⟨hparse, hlist⟩
  rcases hlist _ unhurried a [low, medium] [.text " low ", .int 5] rfl ha helement rfl
    (List.cons_ne_nil _ _) (fun m hm => hmembers m (List.mem_append_left [high] hm)) hitems with
    ⟨-, -, hverdict⟩
  have hholds (m : EnumMember) : a.holds (.member m) = .ok [.member m] := by
    rw [Accessor.holds, hsingle]
    rfl
  -- Both persons hold a single priority, so the last part of the theorem says all about them.
  have hmember {v : Value} {m : EnumMember} (hm : m ∈ [low, medium, high])
      (hread : a.read ofSample.schema v = .ok (.member m)) :
      ofSample.verdict (Catalog.entityNamed "Person") unhurried v = .ok true ↔
        ∃ n ∈ [low, medium], Value.member n ∈ [Value.member m] :=
    (hverdict v _ _ hread (hholds m) (List.forall_mem_singleton.mpr rfl)).2.2
      (List.forall_mem_singleton.mpr ⟨m, hmembers m hm, rfl⟩)
  refine ⟨hparse low (hmembers low List.mem_cons_self) _ hlow, ?_, ?_⟩
  · rw [hmember (List.mem_cons_of_mem _ List.mem_cons_self) hbob]
    exact ⟨medium, List.mem_cons_of_mem _ List.mem_cons_self, List.mem_cons_self⟩
  · rw [hmember (List.mem_cons_of_mem _ (List.mem_cons_of_mem _ List.mem_cons_self)) halice]
    rintro ⟨n, hn, hsame⟩
    have hhigh : n = high := Value.member.inj (List.mem_singleton.mp hsame)
    rw [hhigh] at hn
    exact absurd hn (by decide)

/-- An enumeration with a value that has blanks around it. -/
def spaced : EnumType := ⟨"Spaced", .plain, [("ROOMY", .text " wide ")], []⟩

theorem tellsTokens_spaced : spaced.TellsTokens where
  names := by decide +kernel
  values := by decide +kernel
  name_inj := by decide +kernel
  text_ne_name := by decide +kernel
  text_inj := by decide +kernel

/-- The member of that value. -/
def wide : EnumMember := ⟨"Spaced", .plain, "ROOMY", 0, .text " wide "⟩

/-- Labels are members of that enumeration. -/
def ofLabels : Context where
  schema := ⟨[spaced], [⟨"Label", .record, none, [⟨"width", .named (.enum "Spaced"), none, true⟩],
    [], none⟩], .first⟩
  now := ⟨.first, .ofMicros 0, some .utc⟩

/-- Wide labels. -/
def wideLabels : Criterion where
  type := .enumValues
  parameters := [("field", .text "width"), ("values", .list [.text " wide "])]

/-- People of the lowest priority. -/
def idle : Criterion where
  type := .enumValues
  parameters := [("field", .text "priority"), ("values", .list [.text "LOW"])]

/-- The items of a list are not taken as they stand: the value of a member is not found if it
    has blanks around it. And what is accepted need not be a member that is listed: a truth
    equals a member that is the number one. -/
theorem not_verdict_memberList_verbatim :
    (¬ ∀ (c : Context) (e : EnumType) (name : String) (entity : TypeExpr) (k : Criterion)
      (a : Accessor) (ms : List EnumMember) (items : List Value),
      e.TellsTokens → c.schema.enum? name = some e → k.type = .enumValues →
      c.fieldOf entity k.settings = .ok a → elementOrValue a = .named (.enum name) →
      k.settings.get? "values" = some (.list items) → items ≠ [] →
      (∀ m ∈ ms, m ∈ e.members) → List.Forall₂ EnumMember.Denotes ms items →
      (∀ item ∈ items, ∀ text, item.text? = some text → Text.isBlankText text = false) →
      ∃ spec, c.compileCriterion entity k = .ok spec) ∧
    ¬ ∀ (c : Context) (e : EnumType) (name : String) (entity : TypeExpr) (k : Criterion)
      (a : Accessor) (ms : List EnumMember) (items : List Value),
      e.TellsTokens → c.schema.enum? name = some e → k.type = .enumValues →
      c.fieldOf entity k.settings = .ok a → elementOrValue a = .named (.enum name) →
      k.settings.get? "values" = some (.list items) → items ≠ [] →
      (∀ m ∈ ms, m ∈ e.members) → List.Forall₂ EnumMember.IsListedAs ms items →
      ∀ v y es, a.read c.schema v = .ok y → a.holds y = .ok es →
        (∀ x ∈ es, x.isHashable = true) →
        (c.verdict entity k v = .ok true ↔ ∃ m ∈ ms, .member m ∈ es) := by
  constructor
  -- The member `wide` has a value with blanks around it. Given by that very value the token is
  -- trimmed before it is parsed, and no member has the text that is left.
  · intro h
    have hresolve : ∃ a,
        ofLabels.fieldOf (Catalog.entityNamed "Label") wideLabels.settings = .ok a ∧
        elementOrValue a = .named (.enum "Spaced") := ⟨_, rfl, rfl⟩
    rcases hresolve with ⟨a, ha, helement⟩
    -- The text is not blank, so it is not dropped from the list: it fails to parse.
    have hblank : ∀ item ∈ [Value.text " wide "], ∀ text, item.text? = some text →
        Text.isBlankText text = false := by
      intro item hitem text htext
      rw [List.mem_singleton.mp hitem] at htext
      rw [← Option.some.inj htext]
      decide +kernel
    rcases h ofLabels spaced "Spaced" (Catalog.entityNamed "Label") wideLabels a [wide]
      [.text " wide "] tellsTokens_spaced rfl rfl ha helement rfl (List.cons_ne_nil _ _)
      (by decide +kernel) (.cons .value .nil) hblank with ⟨spec, hspec⟩
    have hfails :
        (ofLabels.compileCriterion (Catalog.entityNamed "Label") wideLabels).isOk = false := by
      decide +kernel
    rw [hspec] at hfails
    cases hfails
  -- Here the value read is the truth `true` and the only member listed is `LOW`, whose value is the
  -- number one. The two are equal, so the criterion accepts, but the value is no member.
  · intro h
    have hresolve : ∃ a, ofSample.fieldOf (Catalog.entityNamed "Person") idle.settings = .ok a ∧
        elementOrValue a = .named (.enum "Priority") ∧ a.attributes = ["priority"] ∧
        a.holds (.bool true) = .ok [.bool true] := ⟨_, rfl, rfl, rfl, rfl⟩
    rcases hresolve with ⟨a, ha, helement, hpath, hholds⟩
    have hread : a.read ofSample.schema (.dict [(.text "priority", .bool true)]) =
        .ok (.bool true) := by
      -- The object is a bare table, which the accessor reads by key.
      have hfound : Value.lookup? [(.text "priority", .bool true)] (.text "priority") =
          some (.bool true) := by
        have hsame : Value.equal (.text "priority") (.text "priority") = true := by decide +kernel
        simp [Value.lookup?, hsame]
      have hmember : ofSample.schema.read (.dict [(.text "priority", .bool true)]) "priority" =
          .ok (.bool true) := by
        rw [Schema.read, hfound]
        rfl
      unfold Accessor.read
      rw [hpath, List.foldlM_cons]
      simp only [Value.isNull, Bool.false_eq_true, if_false, hmember]
      rfl
    have hlow : low.IsListedAs (.text "LOW") := by
      refine EnumMember.isListedAs_of_denotes (.name (by decide +kernel)) ?_ (by decide +kernel)
      rintro text ⟨⟩
      decide +kernel
    have haccepted : ofSample.verdict (Catalog.entityNamed "Person") idle
        (.dict [(.text "priority", .bool true)]) = .ok true :=
      toOption_eq_some_iff.mp (by decide +kernel)
    -- The refuted statement would make `true` a member.
    rcases (h ofSample Catalog.priority "Priority" (Catalog.entityNamed "Person") idle a [low]
      [.text "LOW"] tellsTokens_priority rfl rfl ha helement rfl (List.cons_ne_nil _ _)
      (by decide +kernel) (.cons hlow .nil) _ _ _ hread hholds
      (List.forall_mem_singleton.mpr rfl)).mp haccepted with ⟨m, -, hm⟩
    cases List.mem_singleton.mp hm

end Context

end Criteria
