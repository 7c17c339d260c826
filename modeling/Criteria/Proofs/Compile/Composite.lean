import Criteria.Catalog.Specs
import Criteria.Proofs.Compile.Negation

/-!
# Composite Specifications

What a tree of named specifications stands for, and why it may stand for nothing.

Compiling a tree resolves its leaves and combines what they stand for from the bottom
up. A group of one node is that node, and a group in a group of its own kind is
flattened away, so the specification does not have the shape of the tree. It has its
meaning: `Context.Meets` reads the tree as it is drawn, and the verdict of the
specification is the same wherever every leaf gives one.

A tree fails to compile where a leaf cannot be resolved or a group is empty, and what
is reported is the first of these. The order is that of the nodes with each group
before the nodes in it: a group without nodes fails before anything behind it is
looked at, also where it is nested deeper. `Context.failure?_compileNode` says so in
one equation, in which compiling is searching the nodes in this order for one that is
at fault by itself.

## Main definitions

* `SpecNode.walk`: A node and all nodes below it.
* `Context.nodeFault?`: What is wrong with a node itself.
* `Context.Meets`: A candidate meets a tree as it is drawn.
* `Context.LeafAnswers`: A leaf gives a verdict.

## Theorems

* `Context.failure?_compileNode`, `Context.failure?_compileNodes`: The first fault in a
  tree is reported.
* `Context.exists_verdict_compileNode`: The verdict of a compiled tree.
* `Context.compileCriterion_composite`: Compiling a composite specification.
-/

namespace Criteria

namespace SpecNode

mutual

/-- The node and all nodes below it, each before those below it. -/
def walk : SpecNode → List SpecNode
  | leaf name arguments => [leaf name arguments]
  | group logic nodes => group logic nodes :: walkAll nodes
termination_by structural n => n

/-- The nodes and all nodes below them. -/
def walkAll : List SpecNode → List SpecNode
  | [] => []
  | n :: ns => walk n ++ walkAll ns
termination_by structural ns => ns

end

end SpecNode

namespace Context

/-- What is wrong with the node itself, whatever may be wrong below it. -/
def nodeFault? (c : Context) (entity : TypeExpr) : SpecNode → Option Fault
  | .leaf name arguments => failure? (c.registry.resolve c.schema name arguments (some entity))
  | .group _ nodes => if nodes.isEmpty then some (.filter (.schema .emptyGroup)) else none

mutual

/-- The candidate meets the tree as it is drawn: what a leaf stands for accepts it,
    and it meets all or some of the nodes of a group. -/
def Meets (c : Context) (entity : TypeExpr) (v : Value) : SpecNode → Prop
  | .leaf name arguments => ∃ x,
    c.registry.resolve c.schema name arguments (some entity) = .ok x ∧
      x.accepts c.schema v = .ok true
  | .group .and nodes => MeetsAll c entity v nodes
  | .group .or nodes => MeetsAny c entity v nodes
termination_by structural n => n

/-- The candidate meets all of the nodes. -/
def MeetsAll (c : Context) (entity : TypeExpr) (v : Value) : List SpecNode → Prop
  | [] => True
  | n :: ns => Meets c entity v n ∧ MeetsAll c entity v ns
termination_by structural ns => ns

/-- The candidate meets one of the nodes. -/
def MeetsAny (c : Context) (entity : TypeExpr) (v : Value) : List SpecNode → Prop
  | [] => False
  | n :: ns => Meets c entity v n ∨ MeetsAny c entity v ns
termination_by structural ns => ns

end

/-- If the node is a leaf, what it stands for gives a verdict. -/
def LeafAnswers (c : Context) (entity : TypeExpr) (v : Value) (n : SpecNode) : Prop :=
  ∀ name arguments x, n = .leaf name arguments →
    c.registry.resolve c.schema name arguments (some entity) = .ok x →
    ∃ b, x.accepts c.schema v = .ok b

section Tree

variable {c : Context} {entity : TypeExpr}

theorem leafAnswers_leaf {name : String} {arguments : List Value} {v : Value} {x : Spec} {b : Bool}
    (h : c.registry.resolve c.schema name arguments (some entity) = .ok x)
    (hb : x.accepts c.schema v = .ok b) : c.LeafAnswers entity v (.leaf name arguments) := by
  intro name' arguments' y hn hy
  cases hn
  rw [h] at hy
  exact ⟨b, Except.ok.inj hy ▸ hb⟩

theorem leafAnswers_group {logic : Logic} {nodes : List SpecNode} {v : Value} :
    c.LeafAnswers entity v (.group logic nodes) :=
  fun _ _ _ hn => by cases hn

/-- The specification of a group, whose nodes are compiled first. -/
theorem compileNode_group (logic : Logic) {nodes : List SpecNode} (hne : nodes ≠ []) :
    c.compileNode entity (.group logic nodes) = (do
      let specs ← c.compileNodes entity nodes
      match logic with
      | .and => return .allOf specs
      | .or => passing (Spec.oneOf specs)) := by
  cases nodes with
  | nil => exact absurd rfl hne
  | cons n ns =>
      rw [compileNode, compileNodes]
      cases c.compileNode entity n with
      | error f => rfl
      | ok x => cases c.compileNodes entity ns <;> rfl

mutual

/-- Compiling a tree reports the first node that is at fault by itself. -/
theorem failure?_compileNode (c : Context) (entity : TypeExpr) : ∀ n : SpecNode,
    failure? (c.compileNode entity n) = n.walk.findSome? (c.nodeFault? entity)
  | .leaf name arguments => by
      rw [compileNode, SpecNode.walk, List.findSome?_singleton, nodeFault?]
  | .group logic [] => by
      rw [compileNode, SpecNode.walk, List.findSome?_cons, nodeFault?]
      rfl
  | .group logic (n :: ns) => by
      -- The group itself has no fault, so the first one is found among its nodes.
      have hnodes := failure?_compileNodes c entity (n :: ns)
      rw [SpecNode.walk, List.findSome?_cons, nodeFault?, List.isEmpty_cons,
        if_neg Bool.false_ne_true, ← hnodes, compileNode_group logic (List.cons_ne_nil n ns)]
      refine failure?_bind_of_ok fun specs hspecs => ?_
      -- There is a specification for each node, so that alternatives cannot be missing.
      cases logic with
      | and => exact ⟨_, rfl⟩
      | or =>
          rw [compileNodes] at hspecs
          rcases bind_eq_ok_iff.mp hspecs with ⟨x, -, hspecs⟩
          rcases bind_eq_ok_iff.mp hspecs with ⟨rest, -, hspecs⟩
          rw [← Except.ok.inj hspecs]
          cases rest <;> exact ⟨_, rfl⟩

theorem failure?_compileNodes (c : Context) (entity : TypeExpr) : ∀ ns : List SpecNode,
    failure? (c.compileNodes entity ns) = (SpecNode.walkAll ns).findSome? (c.nodeFault? entity)
  | [] => rfl
  | n :: ns => by
      rw [compileNodes, SpecNode.walkAll, List.findSome?_append, failure?_both,
        failure?_compileNode c entity n, failure?_compileNodes c entity ns]

end

mutual

/-- A compiled tree accepts the candidates that meet it, where every leaf gives a
    verdict. -/
theorem exists_verdict_compileNode {v : Value} : ∀ {n : SpecNode} {x : Spec},
    c.compileNode entity n = .ok x → (∀ m ∈ n.walk, c.LeafAnswers entity v m) →
    ∃ b, x.accepts c.schema v = .ok b ∧ (b = true ↔ c.Meets entity v n)
  | .leaf name arguments, x, h, hanswers => by
      rw [compileNode] at h
      -- A leaf has a verdict by assumption, and meeting it is accepting by its specification.
      rcases hanswers _ (List.mem_singleton.mpr rfl) name arguments x rfl h with ⟨b, hb⟩
      refine ⟨b, hb, ?_⟩
      rw [Meets]
      constructor
      · exact fun hyes => ⟨x, h, hyes ▸ hb⟩
      · rintro ⟨y, hy, hval⟩
        rw [h] at hy
        rw [← Except.ok.inj hy, hb] at hval
        exact Except.ok.inj hval
  | .group logic [], x, h, _ => by
      rw [compileNode] at h
      cases h
  | .group logic (n :: ns), x, h, hanswers => by
      rw [compileNode_group logic (List.cons_ne_nil n ns)] at h
      rcases bind_eq_ok_iff.mp h with ⟨specs, hspecs, h⟩
      have hbelow : ∀ m ∈ SpecNode.walkAll (n :: ns), c.LeafAnswers entity v m :=
        fun m hm => hanswers m (List.mem_cons_of_mem _ hm)
      rcases exists_verdict_compileNodes hspecs hbelow with ⟨hverdicts, hall, hany⟩
      -- The combination may be flattened, or be the only node: its verdict is that of the
      -- row of nodes in any case.
      cases logic with
      | and =>
          rcases Spec.exists_verdict hverdicts with ⟨b, hb, hiff⟩
          rw [← Except.ok.inj h, Spec.accepts_allOf, Meets, ← hall]
          exact ⟨b, hb, hiff⟩
      | or =>
          rcases Spec.exists_verdict_any hverdicts with ⟨b, hb, hiff⟩
          rw [Spec.accepts_oneOf (passing_eq_ok_iff.mp h), Meets, ← hany]
          exact ⟨b, hb, hiff⟩

theorem exists_verdict_compileNodes {v : Value} : ∀ {ns : List SpecNode} {xs : List Spec},
    c.compileNodes entity ns = .ok xs →
    (∀ m ∈ SpecNode.walkAll ns, c.LeafAnswers entity v m) →
    (∀ x ∈ xs, ∃ b, x.accepts c.schema v = .ok b) ∧
      ((∀ x ∈ xs, x.accepts c.schema v = .ok true) ↔ c.MeetsAll entity v ns) ∧
      ((∃ x ∈ xs, x.accepts c.schema v = .ok true) ↔ c.MeetsAny entity v ns)
  | [], xs, h, _ => by
      -- Everything meets an empty row, and nothing meets one of its nodes.
      rw [← Except.ok.inj h, MeetsAll, MeetsAny]
      exact ⟨List.forall_mem_nil _, iff_of_true (List.forall_mem_nil _) trivial,
        iff_of_false (fun ⟨_, hx, _⟩ => absurd hx List.not_mem_nil) id⟩
  | n :: ns, xs, h, hanswers => by
      rw [compileNodes] at h
      rcases bind_eq_ok_iff.mp h with ⟨x, hx, h⟩
      rcases bind_eq_ok_iff.mp h with ⟨rest, hrest, h⟩
      rw [SpecNode.walkAll, List.forall_mem_append] at hanswers
      -- The verdict on the row is put together from that on its head and that on its tail.
      rcases exists_verdict_compileNode hx hanswers.1 with ⟨b, hb, hiff⟩
      rcases exists_verdict_compileNodes hrest hanswers.2 with ⟨hverdicts, hall, hany⟩
      have hone : x.accepts c.schema v = .ok true ↔ c.Meets entity v n := by
        rw [hb, Except.ok.injEq, hiff]
      rw [← Except.ok.inj h, MeetsAll, MeetsAny, List.forall_mem_cons, List.forall_mem_cons,
        List.exists_mem_cons_iff, hone, hall, hany]
      exact ⟨⟨⟨b, hb⟩, hverdicts⟩, Iff.rfl, Iff.rfl⟩

end

end Tree

/-- Compiling a composite specification. There have to be nodes. If no node is at fault
    by itself, that is, if every group has nodes and every leaf is resolved, then there
    is a specification, which accepts the candidates that meet all of the topmost nodes,
    as long as every leaf gives a verdict. Otherwise the first fault is reported. -/
theorem compileCriterion_composite (c : Context) (entity : TypeExpr) {x : Criterion}
    (hkind : x.kind = .composite) :
    (x.composite.getD [] = [] →
      c.compileCriterion entity x = .error (.filter (.schema .emptyComposite))) ∧
    ∀ nodes, x.composite = some nodes → nodes ≠ [] →
      (∀ f, (SpecNode.walkAll nodes).findSome? (c.nodeFault? entity) = some f →
        c.compileCriterion entity x = .error f) ∧
      ((∀ n ∈ SpecNode.walkAll nodes, c.nodeFault? entity n = none) →
        ∃ spec, c.compileCriterion entity x = .ok spec ∧ ∀ v,
          (∀ n ∈ SpecNode.walkAll nodes, c.LeafAnswers entity v n) →
            ∃ b, spec.accepts c.schema v = .ok b ∧ (b = true ↔ c.MeetsAll entity v nodes)) := by
  have hcompile : c.compileCriterion entity x = c.compileComposite entity x.composite := by
    rw [compileCriterion_eq, hkind]
  rw [hcompile]
  refine ⟨fun hempty => ?_, fun nodes hnodes hne => ?_⟩
  -- An empty composite is refused whether it is missing or empty.
  · cases hcomposite : x.composite with
    | none => rfl
    | some nodes =>
        rw [hcomposite, Option.getD_some] at hempty
        rw [hempty]
        rfl
  · have hmap : c.compileComposite entity x.composite =
        (c.compileNodes entity nodes).map .allOf := by
      rw [hnodes]
      cases nodes with
      | nil => exact absurd rfl hne
      | cons n ns => rfl
    -- Both halves are read off the one search for a node at fault.
    have hfailure := failure?_compileNodes c entity nodes
    rw [hmap]
    refine ⟨fun f hf => ?_, fun hsound => ?_⟩
    · rw [hf, failure?_eq_some_iff] at hfailure
      rw [hfailure]
      rfl
    -- Without a fault below, every node compiles, and the row has a verdict.
    · rw [List.findSome?_eq_none_iff.mpr hsound, failure?_eq_none_iff] at hfailure
      rcases hfailure with ⟨specs, hspecs⟩
      refine ⟨.allOf specs, by rw [hspecs]; rfl, fun v hanswers => ?_⟩
      rcases exists_verdict_compileNodes hspecs hanswers with ⟨hverdicts, hall, -⟩
      rcases Spec.exists_verdict hverdicts with ⟨b, hb, hiff⟩
      exact ⟨b, (Spec.accepts_allOf specs).trans hb, hiff.trans hall⟩

/-- The sample schema with what is registered about the age of people. -/
def ofAges : Context :=
  { ofSample with registry := [
      ⟨"adult", (Catalog.adultNamed "Adult").maker, some "Adult", none⟩,
      ⟨"older", Catalog.olderThan.maker, some "OlderThan", none⟩] }

/-- A person of an age. -/
def personAged (age : Int) : Value :=
  .entity "Person" .record [("age", .int age)] []

/-- Adults who are over 65 or meet all of some nodes. -/
def adultsAnd (nodes : List SpecNode) : Criterion where
  type := .composite
  composite := some [.leaf "adult" [], .group .or [.leaf "older" [.int 65], .group .and nodes]]

/-- The tree compiles and accepts someone of 40. With an empty group in it, it fails for
    that and not for the name behind it, which stands for nothing. -/
theorem compileCriterion_composite_adultsAnd :
    (∃ spec, ofAges.compileCriterion (Catalog.entityNamed "Person")
        (adultsAnd [.leaf "adult" [.int 21], .leaf "older" [.int 30]]) = .ok spec ∧
      spec.accepts ofAges.schema (personAged 40) = .ok true) ∧
    ofAges.compileCriterion (Catalog.entityNamed "Person")
        (adultsAnd [.group .or [], .leaf "unknown" []]) =
      .error (.filter (.schema .emptyGroup)) := by
  -- The theorem is used on both trees; the second one has its first fault in an empty group.
  have hcompile (nodes : List SpecNode) := (compileCriterion_composite ofAges
    (Catalog.entityNamed "Person") (x := adultsAnd nodes) rfl).2 _ rfl (List.cons_ne_nil _ _)
  refine ⟨?_, (hcompile _).1 _ rfl⟩
  rcases (hcompile [.leaf "adult" [.int 21], .leaf "older" [.int 30]]).2 (by
    simp only [SpecNode.walkAll, SpecNode.walk, List.forall_mem_append, List.forall_mem_cons,
      List.not_mem_nil, false_implies, implies_true, and_true]
    exact ⟨rfl, rfl, rfl, rfl, rfl, rfl⟩) with ⟨spec, hspec, hverdict⟩
  rcases hverdict (personAged 40) (by
    simp only [SpecNode.walkAll, SpecNode.walk, List.forall_mem_append, List.forall_mem_cons,
      List.not_mem_nil, false_implies, implies_true, and_true]
    exact ⟨leafAnswers_leaf rfl rfl, leafAnswers_group, leafAnswers_leaf rfl rfl, leafAnswers_group,
      leafAnswers_leaf rfl rfl, leafAnswers_leaf rfl rfl⟩) with ⟨b, hb, hiff⟩
  refine ⟨spec, hspec, hb.trans (congrArg Except.ok (hiff.mpr ?_))⟩
  exact ⟨⟨_, rfl, rfl⟩, .inr (.inl ⟨⟨_, rfl, rfl⟩, ⟨_, rfl, rfl⟩, trivial⟩), trivial⟩

end Context

end Criteria
