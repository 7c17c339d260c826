import Criteria.Proofs.Query.Fitting

/-!
# Writing and Reading Nodes

The trees of composite specifications, written and read again.

A table may be a leaf or a group, and the reader tries both and takes the one
that gives meaning to more members. A written node leaves no choice: a leaf is
written without nodes, which a group cannot do without, and a group is written
without a name. So one of the two readings never fits and the weights decide
nothing.

The reader counts down at every level of a tree, and the depth of the written
table is always enough.

## Main definitions

* `SpecNode.IsJson`: The arguments of a tree are payloads.
* `SpecNode.leafMembers`, `SpecNode.groupMembers`: The members that a leaf and a
  group are written with.
* `SpecNode.IsWrittenAs`: A tree, and a payload that it is written as and read
  from.

## Theorems

* `Logic.find?_wire`: A word for joining is read from its wire form.
* `SpecNode.fitLeaf_eq_fits_iff`, `SpecNode.fitGroup_eq_fits_iff`: A leaf and a
  group fit when their members do.
* `SpecNode.isJson_of_fitNodeTo`: What is read from a payload has payloads as
  arguments.
* `SpecNode.IsJson.exists_isWrittenAs`: Such a tree is written and read again.
* `isJson_of_fitComposite`, `exists_wireComposite`: The same for the trees of a
  composite specification.
-/

namespace Criteria

open Fitted

section Scalars

/-- A word for joining is read from its wire form. -/
theorem Logic.find?_wire (l : Logic) : Logic.vocabulary.find? l.wire = some l := by
  cases l <;> decide +kernel

theorem fitLogic_wire (l : Logic) : fitWord Logic.vocabulary (.text l.wire) = fits l := by
  rw [fitWord, Value.text?, ofOption_eq_fits_iff]
  exact l.find?_wire

theorem fitText_text (s : String) : fitText (.text s) = fits s :=
  rfl

/-- Arguments are the elements of a list, or there are none. -/
theorem isJson_of_fitArguments {v : Value} {xs : List Value} (hv : v.IsJson)
    (h : fitArguments v = fits xs) : ∀ x ∈ xs, x.IsJson := by
  rcases unlessNull_eq_fits h with rfl | h
  · exact fun x hx => absurd hx List.not_mem_nil
  · exact isJson_of_elements? hv (ofOption_eq_fits_iff.mp h)

/-- Arguments that are read from a member of a payload are payloads. -/
theorem isJson_of_fit_arguments {ms : Members} {name other : String} {xs : List Value}
    (hms : ∀ e ∈ ms, e.2.IsJson) (h : ms.fit name other (fits []) fitArguments = fits xs) :
    ∀ x ∈ xs, x.IsJson := by
  refine Members.property_of_fit (P := fun xs => ∀ x ∈ xs, x.IsJson) hms ?_ ?_ h
  · intro xs hxs
    rw [← fits.inj hxs]
    exact fun x hx => absurd hx List.not_mem_nil
  · exact fun v hv xs hxs => isJson_of_fitArguments hv hxs

theorem fitArguments_list (xs : List Value) : fitArguments (.list xs) = fits xs :=
  rfl

/-- Arguments that are payloads are their own wire form. -/
theorem wireList_eq_ok {xs : List Value} (h : ∀ x ∈ xs, x.IsJson) :
    wireList xs = .ok (.list xs) :=
  Value.wire_eq_ok (.list xs h)

end Scalars

namespace SpecNode

/-- The arguments of a tree are payloads. -/
inductive IsJson : SpecNode → Prop
  | leaf (name : String) (arguments : List Value) (h : ∀ a ∈ arguments, a.IsJson) :
      IsJson (leaf name arguments)
  | group (logic : Logic) (nodes : List SpecNode) (h : ∀ n ∈ nodes, IsJson n) :
      IsJson (group logic nodes)

/-- The members that a leaf is written with. -/
def leafMembers (name : String) (arguments : List Value) : List (String × Option Value) :=
  [("name", some (.text name)), ("arguments", some (.list arguments))]

/-- The members that a group is written with, given the wire forms of its
    nodes. -/
def groupMembers (logic : Logic) (nodes : List Value) : List (String × Option Value) :=
  [("logic", some (.text logic.wire)), ("nodes", some (.list nodes))]

/-- A tree, and a payload that it is written as and read from. -/
structure IsWrittenAs (n : SpecNode) (w : Value) : Prop where
  wire_eq : n.wire = .ok w
  isJson : w.IsJson
  fits_of_depth_lt : ∀ fuel, w.depth < fuel → ∃ weight, fitNodeTo fuel w = fits ⟨n, weight⟩

section Reading

/-- A leaf fits when its name and its arguments do. -/
theorem fitLeaf_eq_fits_iff {v : Value} {x : Weighed SpecNode} :
    fitLeaf v = fits x ↔ ∃ ms name arguments, membersOf v = fits ms ∧
      ms.fit "name" "name" misfit fitText = fits name ∧
      ms.fit "arguments" "arguments" (fits []) fitArguments = fits arguments ∧
      ⟨leaf name arguments, ms.count ["name", "arguments"]⟩ = x := by
  simp only [fitLeaf, andThen_eq_fits_iff, map_eq_fits_iff, seq_eq_fits_iff]
  constructor
  · rintro ⟨ms, hms, n, ⟨g, arguments, ⟨name, hname, rfl⟩, harguments, rfl⟩, hx⟩
    exact ⟨ms, name, arguments, hms, hname, harguments, hx⟩
  · rintro ⟨ms, name, arguments, hms, hname, harguments, hx⟩
    exact ⟨ms, hms, _, ⟨_, arguments, ⟨name, hname, rfl⟩, harguments, rfl⟩, hx⟩

/-- A group fits when its logic and its nodes do. -/
theorem fitGroup_eq_fits_iff {fit : Value → Fitted (Weighed SpecNode)} {v : Value}
    {x : Weighed SpecNode} :
    fitGroup fit v = fits x ↔ ∃ ms logic nodes, membersOf v = fits ms ∧
      ms.fit "logic" "logic" (fits .and) (fitWord Logic.vocabulary) = fits logic ∧
      ms.fit "nodes" "nodes" misfit (fitAll fit) = fits nodes ∧
      groupOf (ms.count ["logic", "nodes"]) logic nodes = x := by
  simp only [fitGroup, andThen_eq_fits_iff, map_eq_fits_iff, seq_eq_fits_iff]
  constructor
  · rintro ⟨ms, hms, g, nodes, ⟨logic, hlogic, rfl⟩, hnodes, hx⟩
    exact ⟨ms, logic, nodes, hms, hlogic, hnodes, hx⟩
  · rintro ⟨ms, logic, nodes, hms, hlogic, hnodes, hx⟩
    exact ⟨ms, hms, _, nodes, ⟨logic, hlogic, rfl⟩, hnodes, hx⟩

/-- The weightier of two results is one of them. -/
theorem eq_of_weightier {α : Type} {a b : Fitted (Weighed α)} {x : Weighed α}
    (h : weightier a b = fits x) : a = fits x ∨ b = fits x := by
  rw [weightier.eq_def] at h
  split at h
  · split at h
    · exact .inr h
    · exact .inl h
  · exact .inl h
  · exact .inr h
  · exact absurd h (by simp only [reduceCtorEq, not_false_eq_true])

/-- What is read from a payload has payloads as arguments. -/
theorem isJson_of_fitNodeTo {fuel : Nat} {v : Value} {x : Weighed SpecNode} (hv : v.IsJson)
    (h : fitNodeTo fuel v = fits x) : x.result.IsJson := by
  -- Induction on the depth to which trees are read. A tree is read as a leaf or as a group.
  induction fuel generalizing v x with
  | zero => simp only [fitNodeTo, misfit, reduceCtorEq] at h
  | succ fuel ih =>
      rw [fitNodeTo] at h
      rcases eq_of_weightier h with hleaf | hgroup
      · rcases fitLeaf_eq_fits_iff.mp (beneath_eq_fits_iff.mp hleaf) with
          ⟨ms, name, arguments, hms, -, harguments, hx⟩
        rw [← hx]
        exact .leaf name arguments
          (isJson_of_fit_arguments (isJson_of_mem_members hv hms) harguments)
      · rcases fitGroup_eq_fits_iff.mp (beneath_eq_fits_iff.mp hgroup) with
          ⟨ms, logic, nodes, hms, -, hnodes, hx⟩
        -- The nodes of a group are parts of the value, so they are read from JSON again.
        have hall : ∀ y ∈ nodes, y.result.IsJson := by
          refine Members.property_of_fit (P := fun ys => ∀ y ∈ ys, y.result.IsJson)
            (isJson_of_mem_members hv hms) ?_ ?_ hnodes
          · exact fun b hb => absurd hb (by simp only [misfit, reduceCtorEq, not_false_eq_true])
          · exact fun v hv ys hys => forall_of_fitAll hv (fun w hw y hy => ih hw hy) hys
        rw [← hx]
        refine .group logic (nodes.map (·.result)) ?_
        intro n hn
        rcases List.mem_map.mp hn with ⟨y, hy, rfl⟩
        exact hall y hy

end Reading

section Writing

/-- The wire forms of trees, tree by tree. -/
theorem wireAll_eq_ok {nodes : List SpecNode} {ws : List Value}
    (h : List.Forall₂ IsWrittenAs nodes ws) : wireAll nodes = .ok ws := by
  induction h with
  | nil => rfl
  | cons hn _ ih =>
      rw [wireAll, hn.wire_eq, ih]
      rfl

/-- The first of two results, if the second does not fit. -/
theorem weightier_of_left {α : Type} {a b : Fitted (Weighed α)} {x : Weighed α}
    (ha : a = fits x) (hb : ∀ y, b ≠ fits y) : weightier a b = fits x := by
  cases b with
  | fits y => exact absurd rfl (hb y)
  | misfits es => rw [ha, weightier]

/-- The second of two results, if the first does not fit. -/
theorem weightier_of_right {α : Type} {a b : Fitted (Weighed α)} {x : Weighed α}
    (ha : ∀ y, a ≠ fits y) (hb : b = fits x) : weightier a b = fits x := by
  cases a with
  | fits y => exact absurd rfl (ha y)
  | misfits es => rw [hb, weightier]

/-- A member that has to be there and is not. -/
theorem fit_misfit_ne_fits {α : Type} {ms : Members} {name : String} {read : Value → Fitted α}
    (h : ms.lookup name = none) (a : α) : ms.fit name name misfit read ≠ fits a := by
  rw [Members.fit_of_lookup_eq_none h h]
  simp only [misfit, beneath, ne_eq, reduceCtorEq, not_false_eq_true]

/-- A leaf is written and read again. -/
theorem isWrittenAs_leaf (name : String) {arguments : List Value}
    (h : ∀ a ∈ arguments, a.IsJson) :
    IsWrittenAs (leaf name arguments) (present (leafMembers name arguments)) := by
  have hkeys : ((leafMembers name arguments).map Prod.fst).Nodup := by simp [leafMembers]
  -- The keys are distinct and in their normal form, so each of them is found again.
  have hlower : ∀ k ∈ (leafMembers name arguments).map Prod.fst, Text.lowerFirst k = k := by
    show ∀ k ∈ ["name", "arguments"], Text.lowerFirst k = k
    decide
  rcases membersOf_present _ hkeys hlower with ⟨ms, hms, hlookup⟩
  refine ⟨?_, ?_, ?_⟩
  · rw [wire, wireList_eq_ok h]
    rfl
  · refine isJson_present hkeys ?_
    intro k v hv
    simp only [leafMembers, List.mem_cons, Prod.mk.injEq, Option.some.injEq, List.not_mem_nil,
      or_false] at hv
    rcases hv with ⟨-, rfl⟩ | ⟨-, rfl⟩
    · exact .text name
    · exact .list arguments h
  -- The depth of a table is at least one, so there is fuel for the leaf.
  · intro fuel hfuel
    cases fuel with
    | zero => omega
    | succ fuel =>
        refine ⟨ms.count ["name", "arguments"],
          weightier_of_left (beneath_eq_fits_iff.mpr (fitLeaf_eq_fits_iff.mpr ?_)) ?_⟩
        · refine ⟨ms, name, arguments, hms, ?_, ?_, rfl⟩
          · rw [Members.fit_of_lookup (hlookup "name")]
            rfl
          · rw [Members.fit_of_lookup (hlookup "arguments")]
            rfl
        · -- A group cannot do without nodes.
          intro y hy
          rcases fitGroup_eq_fits_iff.mp (beneath_eq_fits_iff.mp hy) with
            ⟨ns, logic, nodes, hns, -, hnodes, -⟩
          rw [← fits.inj (hms.symm.trans hns)] at hnodes
          exact fit_misfit_ne_fits (hlookup "nodes") nodes hnodes

/-- Trees that are written are read again from a list. -/
theorem fitAll_fitNodeTo {nodes : List SpecNode} {ws : List Value} {fuel : Nat}
    (h : List.Forall₂ IsWrittenAs nodes ws) (hfuel : (Value.list ws).depth ≤ fuel) :
    ∃ xs, fitAll (fitNodeTo fuel) (.list ws) = fits xs ∧ xs.map (·.result) = nodes := by
  have hread : List.Forall₂ (fun w n => ∃ weight, fitNodeTo fuel w = fits ⟨n, weight⟩) ws nodes :=
    forall₂_imp_of_mem h.flip fun w hw n _ hn =>
      hn.fits_of_depth_lt fuel (Nat.lt_of_lt_of_le (Value.depth_lt_list hw) hfuel)
  -- The weights are whatever the reader makes of each tree.
  have hweighed : ∃ xs, List.Forall₂ (fun w x => fitNodeTo fuel w = fits x) ws xs ∧
      xs.map (·.result) = nodes := by
    clear h hfuel
    induction hread with
    | nil => exact ⟨[], .nil, rfl⟩
    | @cons w n _ _ hw _ ih =>
        rcases hw with ⟨weight, hw⟩
        rcases ih with ⟨xs, hxs, hresults⟩
        exact ⟨⟨n, weight⟩ :: xs, .cons hw hxs, by rw [List.map_cons, hresults]⟩
  rcases hweighed with ⟨xs, hxs, hresults⟩
  exact ⟨xs, fitAll_eq_fits_iff.mpr ⟨ws, rfl, hxs⟩, hresults⟩

/-- A group is written and read again. -/
theorem isWrittenAs_group (logic : Logic) {nodes : List SpecNode} {ws : List Value}
    (h : List.Forall₂ IsWrittenAs nodes ws) :
    IsWrittenAs (group logic nodes) (present (groupMembers logic ws)) := by
  -- The same three parts as for a leaf, with nodes that are written already.
  have hkeys : ((groupMembers logic ws).map Prod.fst).Nodup := by simp [groupMembers]
  have hlower : ∀ k ∈ (groupMembers logic ws).map Prod.fst, Text.lowerFirst k = k := by
    show ∀ k ∈ ["logic", "nodes"], Text.lowerFirst k = k
    decide
  rcases membersOf_present _ hkeys hlower with ⟨ms, hms, hlookup⟩
  have hws : ∀ w ∈ ws, w.IsJson := by
    intro w hw
    rcases forall₂_exists_left h hw with ⟨n, -, hn⟩
    exact hn.isJson
  refine ⟨?_, ?_, ?_⟩
  · rw [wire, wireAll_eq_ok h]
    rfl
  · refine isJson_present hkeys ?_
    intro k v hv
    simp only [groupMembers, List.mem_cons, Prod.mk.injEq, Option.some.injEq, List.not_mem_nil,
      or_false] at hv
    rcases hv with ⟨-, rfl⟩ | ⟨-, rfl⟩
    · exact .text logic.wire
    · exact .list ws hws
  · intro fuel hfuel
    cases fuel with
    | zero => omega
    | succ fuel =>
        -- The list of nodes is nested one level less deep than the group.
        have hdepth : (Value.list ws).depth ≤ fuel := by
          have hlt := depth_lt_present (groupMembers logic ws) (k := "nodes") (v := .list ws)
            (by simp [groupMembers])
          omega
        rcases fitAll_fitNodeTo h hdepth with ⟨xs, hxs, hresults⟩
        refine ⟨xs.foldl (fun n node => n + node.weight) (ms.count ["logic", "nodes"]),
          weightier_of_right ?_ (beneath_eq_fits_iff.mpr (fitGroup_eq_fits_iff.mpr ?_))⟩
        · -- A leaf cannot do without a name.
          intro y hy
          rcases fitLeaf_eq_fits_iff.mp (beneath_eq_fits_iff.mp hy) with
            ⟨ns, name, arguments, hns, hname, -, -⟩
          rw [← fits.inj (hms.symm.trans hns)] at hname
          exact fit_misfit_ne_fits (hlookup "name") name hname
        · refine ⟨ms, logic, xs, hms, ?_, ?_, ?_⟩
          · rw [Members.fit_of_lookup (hlookup "logic"), beneath_eq_fits_iff]
            exact fitLogic_wire logic
          · rw [Members.fit_of_lookup (hlookup "nodes"), beneath_eq_fits_iff]
            exact hxs
          · rw [groupOf, hresults]

/-- A tree whose arguments are payloads is written and read again. -/
theorem IsJson.exists_isWrittenAs {n : SpecNode} (h : n.IsJson) : ∃ w, n.IsWrittenAs w := by
  induction h with
  | leaf name arguments h => exact ⟨_, isWrittenAs_leaf name h⟩
  | group logic nodes _ ih =>
      rcases exists_forall₂ ih with ⟨ws, hws⟩
      exact ⟨_, isWrittenAs_group logic hws⟩

end Writing

end SpecNode

section Composite

/-- What is read from a payload has payloads as arguments in all its trees. -/
theorem isJson_of_fitComposite {v : Value} {composite : Option (List SpecNode)} (hv : v.IsJson)
    (h : fitComposite v = fits composite) : ∀ nodes ∈ composite, ∀ n ∈ nodes, n.IsJson := by
  rcases unlessNull_eq_fits h with rfl | h
  · exact fun nodes hnodes => absurd hnodes (by simp only [reduceCtorEq, not_false_eq_true,
      Option.mem_def])
  -- What is not null is a table whose nodes are read one by one.
  · rcases andThen_eq_fits_iff.mp h with ⟨ms, hms, h⟩
    rcases map_eq_fits_iff.mp h with ⟨nodes, hnodes, rfl⟩
    intro ns hns
    rw [← Option.some.inj hns]
    refine Members.property_of_fit (P := fun ns => ∀ n ∈ ns, n.IsJson)
      (isJson_of_mem_members hv hms) ?_ ?_ hnodes
    · intro ns hns
      rw [← fits.inj hns]
      exact fun n hn => absurd hn List.not_mem_nil
    · refine fun v hv ns hns => forall_of_fitAll hv (fun w hw n hn => ?_) hns
      rcases map_eq_fits_iff.mp hn with ⟨x, hx, rfl⟩
      exact SpecNode.isJson_of_fitNodeTo hw hx

/-- The trees of a composite specification are written and read again. -/
theorem exists_wireComposite {composite : Option (List SpecNode)}
    (h : ∀ nodes ∈ composite, ∀ n ∈ nodes, n.IsJson) :
    ∃ o, wireComposite composite = .ok o ∧ (o = none → composite = none) ∧
      ∀ w, o = some w → w.IsJson ∧ fitComposite w = fits composite := by
  cases composite with
  | none => exact ⟨none, rfl, fun _ => rfl, fun w hw => absurd hw (by simp only [reduceCtorEq,
      not_false_eq_true])⟩
  | some nodes =>
      rcases exists_forall₂ fun n hn => (h nodes rfl n hn).exists_isWrittenAs with ⟨ws, hws⟩
      -- Each node is read back from its own text by the lemmas on trees.
      have hread : List.Forall₂ (fun w n => fitNode w = fits n) ws nodes := by
        refine hws.flip.imp fun w n hn => ?_
        rcases hn.fits_of_depth_lt (w.depth + 1) (Nat.lt_succ_self _) with ⟨k, hk⟩
        exact map_eq_fits_iff.mpr ⟨_, hk, rfl⟩
      have hjson : ∀ w ∈ ws, w.IsJson := by
        intro w hw
        rcases forall₂_exists_left hws hw with ⟨n, -, hn⟩
        exact hn.isJson
      rcases membersOf_present [("nodes", some (.list ws))] (List.nodup_singleton "nodes")
        (by simp; decide) with ⟨ms, hms, hlookup⟩
      -- The composite is a table with the single member `nodes`.
      refine ⟨present [("nodes", some (.list ws))], ?_, ?_, ?_⟩
      · rw [wireComposite, SpecNode.wireAll_eq_ok hws]
        rfl
      · exact fun h => absurd h (by simp only [reduceCtorEq, not_false_eq_true])
      · intro w hw
        rw [← Option.some.inj hw]
        constructor
        · refine isJson_present (by simp) ?_
          intro k v hv
          simp only [List.mem_singleton, Prod.mk.injEq, Option.some.injEq] at hv
          rw [hv.2]
          exact .list ws hjson
        · rw [fitComposite, unlessNull_of_isNull rfl, hms]
          refine map_eq_fits_iff.mpr ⟨nodes, ?_, rfl⟩
          rw [Members.fit_of_lookup (hlookup "nodes"), beneath_eq_fits_iff]
          exact fitAll_eq_fits_iff.mpr ⟨ws, rfl, hread⟩

end Composite

end Criteria
