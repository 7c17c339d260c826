import Criteria.Proofs.Outcome
import Criteria.Proofs.Schema.Conformance

/-!
# Reading along Paths

What is read at the end of a path that was found in the declared types.

A path is followed twice, once through the types when it is looked up and once
through the values when it is read. The induction goes along the path and keeps the
two together: what has been read so far is null, and one of the members passed may
be null, or it conforms to the type that the next member is looked up in. From the
member on that has no declared type there is nothing to look up any more, and the
rest of the path is read by name.

Types are taken apart on the way: the null arm is left out before the next member is
looked up. So it matters that null was met before, if it is ever met, and this is what
`TypeExpr.IsClear` is for. It is asked of the members of all types that a path can
lead to, and of nothing else. It is needed of a member that may hold any object: null is
read of such a member, and nothing says that it may be
(`Schema.not_exists_read_of_resolve_content`).

## Main definitions

* `Schema.Reaches`: The types that a path can lead to.
* `Schema.readAll`: The members of a value, one after the other.
* `Schema.Suits`: A value has the members that a type declares, and they conform.

## Theorems

* `Schema.mem_members_of_matchMember`: A member that is found is declared.
* `Schema.read_eq_readAll`: An accessor reads one member after the other.
* `Schema.exists_readAll_of_any`: Reading where no type is declared.
* `Schema.exists_readAll_of_follow`, `Schema.exists_readAll_of_resolve`: Reading along
  a path.
* `Schema.exists_elements_of_resolve`: The elements of a collection at the end of a path.
* `Schema.exists_read_of_resolve`: What an accessor reads.
-/

namespace Criteria

theorem Value.eq_null_of_isNull {v : Value} (h : v.isNull = true) : v = .null := by
  cases v with
  | null => rfl
  | _ => exact absurd h Bool.false_ne_true

/-- The types that a path can lead to, from a type on. -/
inductive Schema.Reaches (s : Schema) (entity : TypeExpr) : TypeExpr → Prop
  | start : Reaches s entity entity
  | member {owner : TypeExpr} (h : Reaches s entity owner) {e : String × TypeExpr}
      (he : e ∈ s.members owner) : Reaches s entity e.2.unwrapOptional.1

namespace Schema

/-- The members of a value, one after the other. -/
def readAll (s : Schema) (v : Value) (names : List String) : Except Failure Value :=
  names.foldlM s.read v

/-- A value has the members that a type declares, and they conform; without declared
    members the value itself does. -/
structure Suits (s : Schema) (v : Value) (owner : TypeExpr) : Prop where
  untyped : owner.isAny = true → s.Conforms v .any
  members : ∀ e ∈ s.members owner, ∃ x, s.read v e.1 = .ok x ∧ s.Conforms x e.2

variable {s : Schema} {v : Value} {owner : TypeExpr}

/-- A value that conforms to a type has the members that it declares. -/
theorem Conforms.suits {t : TypeExpr} (h : s.Conforms v t) : s.Suits v t := by
  refine ⟨fun _ => h.untyped, fun e he => ?_⟩
  cases t with
  | named t => exact h.typed.2 e he
  | _ => exact absurd he List.not_mem_nil

/-- Nothing is read of null but null. -/
theorem readAll_null (s : Schema) (names : List String) : s.readAll .null names = .ok .null := by
  induction names with
  | nil => rfl
  | cons name names ih => exact ih

theorem readAll_cons {name : String} {x : Value} (h : s.read v name = .ok x)
    (names : List String) : s.readAll v (name :: names) = s.readAll x names := by
  rw [readAll, List.foldlM_cons, h]
  rfl

/-- An accessor reads one member after the other. -/
theorem read_eq_readAll (s : Schema) (a : Accessor) (v : Value) :
    a.read s v = s.readAll v a.attributes := by
  have hstep : (fun (w : Value) (name : String) => if w.isNull then .ok .null else s.read w name) =
      s.read := by
    funext w name
    cases w <;> rfl
  rw [Accessor.read, hstep, readAll]

/-- Where no type is declared, reading goes on by name. -/
theorem exists_readAll_of_any (names : List String) (h : s.Conforms v .any) :
    ∃ x, s.readAll v names = .ok x ∧ s.Conforms x .any := by
  induction names generalizing v with
  | nil => exact ⟨v, rfl, h⟩
  | cons name names ih =>
      rcases s.isTyping_conforms.read v h name with ⟨x, hx, hany⟩
      rw [readAll_cons hx]
      exact ih hany

/-- A name that is found is one of those that are available. -/
theorem mem_of_matchMember {name found : String} {available : List String}
    (h : matchMember name available = some found) : found ∈ available := by
  rw [matchMember] at h
  split at h
  · rename_i hmem
    rw [← Option.some.inj h]
    exact List.contains_iff_mem.mp hmem
  · cases hlower : available.find? fun m => Text.lower m == Text.lower name with
    | some m =>
        rw [hlower] at h
        rw [← Option.some.inj h]
        exact List.mem_of_find?_eq_some hlower
    | none =>
        rw [hlower] at h
        exact List.mem_of_find?_eq_some h

/-- A member that is found is declared with its type. -/
theorem mem_members_of_matchMember {name found : String}
    (h : matchMember name ((s.members owner).map Prod.fst) = some found) :
    (found, ((s.members owner).lookup found).getD .any) ∈ s.members owner := by
  rcases List.mem_map.mp (mem_of_matchMember h) with ⟨e, he, rfl⟩
  cases hlookup : (s.members owner).lookup e.1 with
  | none => exact absurd (List.lookup_eq_none_iff.mp hlookup e he) (by simp)
  | some t =>
      rcases List.lookup_eq_some_iff.mp hlookup with ⟨before, after, hmembers, -⟩
      rw [hmembers]
      exact List.mem_append_right before List.mem_cons_self

/-- The induction is on the path; where null has been read, one of the members passed
    may be null, if the types say so. -/
theorem exists_readAll_of_follow {entity : TypeExpr} {path : String} {parts : List String}
    (hparts : parts ≠ []) {previous : Option String} {t : Trail}
    (howner : s.Reaches entity owner) (hv : s.Suits v owner)
    (h : s.follow path owner previous parts = .ok t) :
    ∃ x, s.readAll v t.attributes = .ok x ∧
      ((∀ owner, s.Reaches entity owner → ∀ e ∈ s.members owner, e.2.IsClear) →
        x.isNull = true → (t.nullable || t.declared.unwrapOptional.2) = true) ∧
      (x.isNull = false → s.Conforms x t.declared) := by
  -- Induction on the parts of the path, for any owner that it has reached.
  induction parts generalizing owner previous v t with
  | nil => exact absurd rfl hparts
  | cons part rest ih =>
      rw [follow.eq_def] at h
      dsimp only at h
      split at h
      · rename_i hany
        rw [← Except.ok.inj h]
        rcases exists_readAll_of_any (part :: rest) (hv.untyped hany) with ⟨x, hx, hxany⟩
        exact ⟨x, hx, fun _ _ => rfl, fun _ => hxany⟩
      split at h
      · exact absurd h (by simp only [reduceCtorEq, not_false_eq_true])
      split at h
      · exact absurd h (by simp only [reduceCtorEq, not_false_eq_true])
      rename_i name hname
      have hmember := mem_members_of_matchMember hname
      generalize ((s.members owner).lookup name).getD .any = declared at hmember h
      rcases hv.members _ hmember with ⟨x, hx, hconforms⟩
      -- A clear type that null conforms to lets the accessor be nullable.
      have hnullable (hclear : ∀ owner, s.Reaches entity owner → ∀ e ∈ s.members owner,
          e.2.IsClear) (hnull : x.isNull = true) : declared.unwrapOptional.2 = true := by
        rw [Value.eq_null_of_isNull hnull] at hconforms
        exact hconforms.nullable (hclear owner howner _ hmember)
      -- The path ends here, or the member is read and the rest of the
      -- path is followed from its value.
      split at h
      · rw [← Except.ok.inj h]
        refine ⟨x, readAll_cons hx [], ?_, fun _ => hconforms⟩
        intro hclear hnull
        rw [hnullable hclear hnull, Bool.or_true]
      · split at h
        · exact absurd h (by simp only [reduceCtorEq, not_false_eq_true])
        split at h
        · exact absurd h (by simp only [reduceCtorEq, not_false_eq_true])
        rcases bind_eq_ok_iff.mp h with ⟨trail, htrail, h⟩
        rw [← Except.ok.inj h]
        cases hnull : x.isNull with
        | true =>
            -- Nothing more is read, and this member may be null.
            rw [readAll_cons hx, Value.eq_null_of_isNull hnull, readAll_null]
            refine ⟨.null, rfl, fun hclear _ => ?_, fun h => absurd h.symm Bool.false_ne_true⟩
            rw [hnullable hclear hnull, Bool.true_or, Bool.true_or]
        | false =>
            rw [readAll_cons hx]
            rcases ih (List.cons_ne_nil _ _) (howner.member hmember)
              (hconforms.unwrapOptional hnull).suits htrail with ⟨y, hy, hynull, hyconforms⟩
            refine ⟨y, hy, fun hclear hnull => ?_, hyconforms⟩
            rw [Bool.or_assoc, hynull hclear hnull, Bool.or_true]

/-- Reading along the path of an accessor does not fail; a value that is not null conforms
    to the accessor's type. -/
theorem exists_readAll_of_resolve {entity : TypeExpr} {path : String} {a : Accessor}
    (ha : s.resolve entity path = .ok a) (hv : s.Suits v entity) :
    ∃ x, s.readAll v a.attributes = .ok x ∧
      ((∀ owner, s.Reaches entity owner → ∀ e ∈ s.members owner, e.2.IsClear) →
        x.isNull = true → a.nullable = true) ∧
      (x.isNull = false → s.Conforms x a.valueType) ∧ a.element = a.valueType.element? := by
  rw [resolve] at ha
  dsimp only at ha
  split at ha
  · exact absurd ha (by simp only [reduceCtorEq, not_false_eq_true])
  rename_i hparts
  rcases bind_eq_ok_iff.mp ha with ⟨t, ht, ha⟩
  rw [← Except.ok.inj ha]
  rcases exists_readAll_of_follow hparts .start hv ht with ⟨x, hx, hnull, hconforms⟩
  exact ⟨x, hx, hnull, fun hx => (hconforms hx).unwrapOptional hx, rfl⟩

/-- What is read along a path to a collection has elements, which conform to their type; null
    has none. -/
theorem exists_elements_of_resolve {entity u : TypeExpr} {path : String} {a : Accessor}
    (ha : s.resolve entity path = .ok a) (hu : a.element = some u) (hv : s.Suits v entity) :
    ∃ x xs, a.read s v = .ok x ∧ x.elementsOrNone = .ok xs ∧ ∀ y ∈ xs, s.Conforms y u := by
  rcases exists_readAll_of_resolve ha hv with ⟨x, hx, -, hconforms, helement⟩
  have hread : a.read s v = .ok x := (read_eq_readAll s a v).trans hx
  unfold Value.elementsOrNone
  by_cases htrue : x.isTrue = true
  · have hnull : x.isNull = false := by
      cases x with
      | null => cases htrue
      | _ => rfl
    rcases (hconforms hnull).elements (helement ▸ hu) with ⟨xs, hxs, hall⟩
    exact ⟨x, xs, hread, (if_pos htrue).trans hxs, hall⟩
  · exact ⟨x, [], hread, if_neg htrue, fun y hy => absurd hy List.not_mem_nil⟩

/-- What an accessor reads. The candidate has the members that the type of entity
    declares, and what the members of all types on the way declare says whether null
    is allowed. Then reading does not fail; where it gives null the accessor may be
    null; and where it gives a value, this conforms to the accessor's type, and the
    elements of a collection to the type of the elements. -/
theorem exists_read_of_resolve {entity : TypeExpr} {path : String} {a : Accessor}
    (hclear : ∀ owner, s.Reaches entity owner → ∀ e ∈ s.members owner, e.2.IsClear)
    (ha : s.resolve entity path = .ok a) (hv : s.Suits v entity) :
    ∃ x, a.read s v = .ok x ∧ (x.isNull = true → a.nullable = true) ∧
      (x.isNull = false → s.Conforms x a.valueType ∧
        ∀ u, a.element = some u → ∃ xs, x.iterate = .ok xs ∧ ∀ y ∈ xs, s.Conforms y u) := by
  rcases exists_readAll_of_resolve ha hv with ⟨x, hx, hnull, hconforms, helement⟩
  refine ⟨x, (read_eq_readAll s a v).trans hx, hnull hclear, fun hx => ?_⟩
  exact ⟨hconforms hx, fun u hu => (hconforms hx).elements (helement ▸ hu)⟩

/-- Links of a chain. -/
def linkType : TypeExpr := .named (.entity "Link")

/-- Marks, which are numbers. -/
def marksType : TypeExpr := .generic .list [.named .int]

/-- A link, or nothing at the end of the chain. -/
def nextType : TypeExpr := .union [linkType, .named .null]

/-- Chains of links with marks. -/
def chains : Schema :=
  ⟨[], [⟨"Link", .record, none, [⟨"marks", marksType, none, true⟩, ⟨"next", nextType, none, true⟩],
    [], none⟩], .first⟩

/-- A link with one mark, at the end of a chain. -/
def lastLink : Value := .entity "Link" .record [("marks", .list [.int 7]), ("next", .null)] []

/-- A link without marks in front of it. -/
def firstLink : Value := .entity "Link" .record [("marks", .list []), ("next", lastLink)] []

theorem conforms_chains_any (v : Value) : chains.Conforms v .any :=
  conforms_any_of_properties (fun e he => by rw [List.mem_singleton.mp he]) v

theorem conforms_marks (ns : List Int) : chains.Conforms (.list (ns.map .int)) marksType := by
  have hint (n : Int) : chains.Conforms (.int n) (.named .int) :=
    conforms_named (conforms_chains_any _) rfl rfl
  refine conforms_of_typedBy (conforms_chains_any _) ⟨⟨_, rfl⟩, fun xs hxs x hx => ?_⟩
  rw [← Except.ok.inj hxs] at hx
  rcases List.mem_map.mp hx with ⟨n, -, rfl⟩
  exact hint n

theorem members_link : chains.members linkType = [("marks", marksType), ("next", nextType)] :=
  rfl

/-- A link suits its type if what follows is a link or nothing. -/
theorem suits_link (ns : List Int) {next : Value} (hnext : chains.Conforms next nextType) :
    chains.Suits (.entity "Link" .record [("marks", .list (ns.map .int)), ("next", next)] [])
      linkType := by
  refine ⟨fun _ => conforms_chains_any _, fun e he => ?_⟩
  rw [members_link, List.mem_cons, List.mem_singleton] at he
  rcases he with rfl | rfl
  · exact ⟨_, rfl, conforms_marks ns⟩
  · exact ⟨_, rfl, hnext⟩

theorem suits_firstLink : chains.Suits firstLink linkType := by
  have hnull : chains.Conforms .null nextType :=
    conforms_of_typedBy (conforms_chains_any _)
      ⟨.named .null, List.mem_cons_of_mem _ (List.mem_singleton_self _),
        conforms_named (conforms_chains_any _) rfl rfl⟩
  have hlast : chains.Conforms lastLink linkType :=
    conforms_of_typedBy (conforms_chains_any _)
      ⟨rfl, (suits_link [7] hnull).members⟩
  exact suits_link []
    (conforms_of_typedBy (conforms_chains_any _) ⟨linkType, List.mem_cons_self, hlast⟩)

theorem isClear_chains {owner : TypeExpr} (h : chains.Reaches linkType owner) :
    ∀ e ∈ chains.members owner, e.2.IsClear := by
  -- A path leads to links and to marks, and marks have no members.
  have howner : owner = linkType ∨ owner = marksType := by
    induction h with
    | start => exact .inl rfl
    | member _ he ih =>
        rcases ih with rfl | rfl
        · rw [members_link, List.mem_cons, List.mem_singleton] at he
          rcases he with rfl | rfl
          · exact .inr rfl
          · exact .inl rfl
        · exact absurd he List.not_mem_nil
  rcases howner with rfl | rfl
  -- The two members of a link have clear types: marks are named, and the next link is optional.
  · rw [members_link, List.forall_mem_cons, List.forall_mem_singleton]
    refine ⟨trivial, fun t ht => ?_, fun _ => List.mem_cons_of_mem _ List.mem_cons_self⟩
    rw [List.mem_cons, List.mem_singleton] at ht
    rcases ht with rfl | rfl
    · exact ⟨TypeExpr.noConfusion, fun us => TypeExpr.noConfusion⟩
    · exact ⟨TypeExpr.noConfusion, fun us => TypeExpr.noConfusion⟩
  · exact fun e he => absurd he List.not_mem_nil

/-- The marks of the next link, which may be missing. -/
theorem exists_read_of_resolve_marks : ∃ a xs,
    chains.resolve linkType "next.marks" = .ok a ∧ a.read chains firstLink = .ok (.list xs) ∧
      a.element = some (.named .int) ∧ ∀ y ∈ xs, chains.Conforms y (.named .int) := by
  have hrun : (do
      let a ← chains.resolve linkType "next.marks"
      return (a.element, a.read chains firstLink)) =
        .ok (some (.named .int), .ok (.list [.int 7])) := rfl
  -- The accessor and what it reads are computed, and the theorem says what the elements conform to.
  rcases bind_eq_ok_iff.mp hrun with ⟨a, ha, hrun⟩
  have helement := congrArg Prod.fst (Except.ok.inj hrun)
  have hread := congrArg Prod.snd (Except.ok.inj hrun)
  rcases exists_read_of_resolve (fun _ => isClear_chains) ha suits_firstLink with
    ⟨x, hx, -, hconforms⟩
  rw [← Except.ok.inj (hread.symm.trans hx)] at hconforms
  rcases (hconforms rfl).2 _ helement with ⟨ys, hys, helements⟩
  rw [← Except.ok.inj hys] at helements
  exact ⟨a, _, ha, hread, helement, helements⟩

/-- A box, in which there may be anything. -/
def boxType : TypeExpr := .named (.entity "Box")

/-- Boxes, whose contents are of the type of all objects. -/
def boxes : Schema :=
  ⟨[], [⟨"Box", .record, none, [⟨"content", .named .object, none, true⟩], [], none⟩], .first⟩

/-- A box with nothing in it. -/
def emptyBox : Value := .entity "Box" .record [("content", .null)] []

theorem members_box : boxes.members boxType = [("content", .named .object)] :=
  rfl

/-- Null is an object, so the empty box holds what it should. -/
theorem suits_emptyBox : boxes.Suits emptyBox boxType := by
  have hany (v : Value) : boxes.Conforms v .any :=
    conforms_any_of_properties (fun e he => by rw [List.mem_singleton.mp he]) v
  refine ⟨fun _ => hany _, fun e he => ⟨.null, ?_, ?_⟩⟩
  · rw [members_box, List.mem_singleton] at he
    rw [he]
    rfl
  · rw [members_box, List.mem_singleton] at he
    rw [he]
    exact conforms_named (hany _) rfl rfl

/-- A path leads to boxes and to what is in them, of which nothing more is known. -/
theorem members_boxes {owner : TypeExpr} (h : boxes.Reaches boxType owner) :
    ∀ e ∈ boxes.members owner, e.2 = .named .object := by
  have howner : owner = boxType ∨ owner = .named .object := by
    induction h with
    | start => exact .inl rfl
    | member _ he ih =>
        rcases ih with rfl | rfl
        · rw [members_box, List.mem_singleton] at he
          rw [he]
          exact .inr rfl
        · exact absurd he List.not_mem_nil
  rcases howner with rfl | rfl
  · rw [members_box, List.forall_mem_singleton]
  · exact fun e he => absurd he List.not_mem_nil

/-- It is not enough that no member is declared by the null type alone or by a union with an
    unrestricted arm: null is read of a member that may hold any object, and the accessor
    may not be null. -/
theorem not_exists_read_of_resolve_content :
    ¬ ∀ (s : Schema) (v : Value) (entity : TypeExpr) (path : String) (a : Accessor),
      (∀ owner, s.Reaches entity owner → ∀ e ∈ s.members owner, e.2 ≠ .named .null ∧
        ∀ arms, e.2 = .union arms → ∀ t ∈ arms, t ≠ .any ∧ ∀ us, t ≠ .union us) →
      s.resolve entity path = .ok a → s.Suits v entity →
      ∃ x, a.read s v = .ok x ∧ (x.isNull = true → a.nullable = true) ∧
        (x.isNull = false → s.Conforms x a.valueType ∧
          ∀ u, a.element = some u → ∃ xs, x.iterate = .ok xs ∧ ∀ y ∈ xs, s.Conforms y u) := by
  intro h
  have hrun : (do
      let a ← boxes.resolve boxType "content"
      return (a.nullable, a.read boxes emptyBox)) = .ok (false, .ok .null) := rfl
  rcases bind_eq_ok_iff.mp hrun with ⟨a, ha, hrun⟩
  have hnullable := congrArg Prod.fst (Except.ok.inj hrun)
  have hread := congrArg Prod.snd (Except.ok.inj hrun)
  -- The only member is of the type of all objects, which none of the exclusions is about.
  have hmembers (owner : TypeExpr) (howner : boxes.Reaches boxType owner)
      (e : String × TypeExpr) (he : e ∈ boxes.members owner) : e.2 ≠ .named .null ∧
        ∀ arms, e.2 = .union arms → ∀ t ∈ arms, t ≠ .any ∧ ∀ us, t ≠ .union us := by
    rw [members_boxes howner e he]
    exact ⟨by simp, fun arms harms => by simp at harms⟩
  rcases h boxes emptyBox boxType "content" a hmembers ha suits_emptyBox with ⟨x, hx, hnull, -⟩
  rw [← Except.ok.inj (hread.symm.trans hx)] at hnull
  exact absurd (hnullable.symm.trans (hnull rfl)) Bool.false_ne_true

end Schema

end Criteria
