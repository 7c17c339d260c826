import Criteria.Filter.Operator

/-!
# Criteria

A criterion is one condition of a query. Its type says which of its members
matter: a simple criterion compares a field with an operand, a custom filter has
parameters, and the remaining types refer to registered specifications by name,
one of them or a tree of them.

The operand of a quantifier may be a criterion itself, for the elements of a
collection; further criteria of that sort are kept beside it.

## Main definitions

* `SpecNode`: A node of a tree of named specifications.
* `Criterion`: One condition of a query.
* `Criterion.nested?`: The criterion that a quantifier asks of the elements.
* `Criterion.references`: The criterion is about a field.
* `Criterion.replaces`: The criterion supersedes another one.
* `Criterion.walk`: The criterion and all criteria in it.
-/

namespace Criteria

/-- A node of a tree of named specifications. -/
inductive SpecNode where
  | leaf (name : String) (arguments : List Value)
  | group (logic : Logic) (nodes : List SpecNode)
  deriving Inhabited

/-- What the field of a criterion is compared with. -/
inductive Operand (γ : Type) where
  | literal (v : Value)
  | nested (c : γ)
  deriving Inhabited

/-- One condition of a query. -/
structure Criterion where
  field : Option String := none
  op : Operator := .equal
  operand : Operand Criterion := .literal .null
  /-- How the criterion joins the one that follows it. -/
  logic : Logic := .and
  /-- Further criteria for the elements of a collection. -/
  filters : List Criterion := []
  type : CustomType := .simple
  parameters : List (String × Value) := []
  /-- The name of a registered specification. -/
  specification : Option String := none
  arguments : List Value := []
  /-- The trees of a composite specification. -/
  composite : Option (List SpecNode) := none

instance : Inhabited Criterion := ⟨{}⟩

namespace Criterion

/-- The kind of a criterion. -/
def kind (c : Criterion) : CriterionKind :=
  c.type.kind

/-- The criterion that a quantifier asks of the elements of a collection. -/
def nested? (c : Criterion) : Option Criterion :=
  match c.operand with
  | .nested n => some n
  | .literal _ => c.filters.head?

/-- What the parameters name as the field, null if they name nothing; the name of
    the parameter may be in any case. -/
def target (c : Criterion) : Value :=
  ((c.parameters.find? fun e => Text.lower e.1 == "field").map Prod.snd).getD .null

/-- The criterion is about a field. -/
def references (c : Criterion) (field : String) : Bool :=
  c.field == some field || Value.equal (.text field) c.target

/-- The criterion supersedes another one of its type: a simple one for the same
    field and operator, a custom filter for the same target, a named
    specification of the same name. -/
def replaces (c other : Criterion) : Bool :=
  c.type == other.type &&
    match c.kind with
    | .simple => c.field == other.field && c.op == other.op
    | .named => c.specification == other.specification
    | .custom => !c.target.isNull && Value.equal c.target other.target
    | .composite => false

/-- The criterion is a simple one for a field and an operator. -/
def isSimpleOn (c : Criterion) (field : String) (op : Operator) : Bool :=
  c.field == some field && c.op == op && c.type == .simple

mutual

/-- The criterion and all criteria in it, each before those in it. -/
def walk : Criterion → List Criterion
  | ⟨field, op, operand, logic, filters, type, parameters, specification, arguments, composite⟩ =>
    ⟨field, op, operand, logic, filters, type, parameters, specification, arguments, composite⟩ ::
      (walkOperand operand ++ walkAll filters)
termination_by structural c => c

/-- The criteria in an operand. -/
def walkOperand : Operand Criterion → List Criterion
  | .literal _ => []
  | .nested c => walk c
termination_by structural o => o

/-- The criteria and all criteria in them. -/
def walkAll : List Criterion → List Criterion
  | [] => []
  | c :: cs => walk c ++ walkAll cs
termination_by structural cs => cs

end

end Criterion

end Criteria
