import Criteria.Compile.Custom
import Criteria.Query.Basic

/-!
# Compiling Criteria

The specifications that the criteria of a query stand for. Criteria are cut into
runs: each criterion joined by "or" shares a run with the one that follows it. A
run is met if one of its criteria is, and a query if all of its runs are.

## Main definitions

* `runs`: A list cut into runs.
* `Context.compileCriterion`: The specification of a criterion.
* `Context.compileNode`: The specification of a tree of named specifications.
* `Context.compile`: The specifications of criteria.
-/

namespace Criteria

/-- The elements cut into runs. A run ends with an element that is joined by
    "and", or with the list. -/
def runs {α : Type} : List (Logic × α) → List (List α)
  | [] => []
  | (.and, a) :: rest => [a] :: runs rest
  | (.or, a) :: rest =>
    match runs rest with
    | [] => [[a]]
    | run :: more => (a :: run) :: more

namespace Context

/-- The comparison of a field by order. -/
def compileOrder (c : Context) (a : Accessor) (op : Operator) (operand : Value) :
    Except Fault Spec :=
  if operand.isNull then defective (.missingValue op a.path)
  else if a.isEnum then .ok (c.guarded a (c.test a op operand.ordinal (some .ordinal)))
  else .ok (c.guarded a (c.test a op operand none))

/-- The comparison of a field's text. -/
def compileText (c : Context) (a : Accessor) (op : Operator) (operand : Value) :
    Except Fault Spec := do
  if operand.isNull then defective (.missingValue op a.path)
  else return c.test a op (← c.coercer.coerce c.schema (.named .text) operand) none

/-- The comparison of a field with an operand. -/
def compileComparison (c : Context) (a : Accessor) (op : Operator) (operand : Value) :
    Except Fault Spec := do
  if !op.takesValue then return c.test a op .null none
  else if op.isTextual then c.compileText a op operand
  else
    -- The operand becomes a value of the field before the two are compared.
    let operand ← c.coercer.coerce c.schema a.valueType operand
    if op.isComparison then c.compileOrder a op operand else return c.test a op operand none

/-- What a quantifier asks of a collection. No element is accepted where it is
    not the case that some element is. -/
def quantify (a : Accessor) (op : Operator) (inner : Spec) : Spec :=
  match op with
  | .all => .quantified a .every inner
  | .none => .not (.quantified a .some inner)
  | _ => .quantified a .some inner

/-- The condition of a quantifier on a collection, given what it asks of values of
    the type of the elements. -/
def compileQuantifier (a : Accessor) (op : Operator)
    (inner : TypeExpr → Option (Except Fault Spec)) : Except Fault Spec :=
  match a.element with
  | none => failWith (.notACollection (a.attributes.getLast?.getD "") a.entity.name a.path)
  | some element =>
    match inner element with
    | none => defective (.missingNested op a.path)
    | some spec => spec.map (quantify a op)

mutual

/-- The specification of a node. -/
def compileNode (c : Context) (entity : TypeExpr) : SpecNode → Except Fault Spec
  | .leaf name arguments => c.registry.resolve c.schema name arguments (some entity)
  | .group _ [] => defective .emptyGroup
  | .group logic (n :: ns) => do
    let specs := (← compileNode c entity n) :: (← compileNodes c entity ns)
    match logic with
    | .and => return .allOf specs
    | .or => passing (Spec.oneOf specs)
termination_by structural n => n

/-- The specifications of nodes. -/
def compileNodes (c : Context) (entity : TypeExpr) : List SpecNode → Except Fault (List Spec)
  | [] => .ok []
  | n :: ns => do return (← compileNode c entity n) :: (← compileNodes c entity ns)
termination_by structural ns => ns

end

/-- The specification of a tree, whose topmost nodes all have to be met. -/
def compileComposite (c : Context) (entity : TypeExpr) :
    Option (List SpecNode) → Except Fault Spec
  | none | some [] => defective .emptyComposite
  | some nodes => (c.compileNodes entity nodes).map .allOf

/-- The specification registered under a name. -/
def compileNamed (c : Context) (entity : TypeExpr) (name : Option String)
    (arguments : List Value) : Except Fault Spec :=
  match name with
  | none | some "" => defective .missingName
  | some name => c.registry.resolve c.schema name arguments (some entity)

/-- The value of an operand that is no criterion. -/
def literalOf : Operand Criterion → Value
  | .literal v => v
  | .nested _ => .null

/-- The specification of a simple criterion, given what it asks of the elements
    of a collection. -/
def compileSimple (c : Context) (entity : TypeExpr) (field : Option String) (op : Operator)
    (operand : Value) (inner : TypeExpr → Option (Except Fault Spec)) : Except Fault Spec :=
  match field with
  | none | some "" => defective (.missingField op)
  | some path => do
    let a ← c.resolve entity path
    if op.isQuantifier then compileQuantifier a op inner else c.compileComparison a op operand

mutual

/-- The specification of a criterion. -/
def compileCriterion (c : Context) (entity : TypeExpr) : Criterion → Except Fault Spec
  | ⟨field, op, operand, _, filters, type, parameters, specification, arguments, composite⟩ =>
    match type.kind with
    -- A criterion given as the operand wins over those in the list.
    | .simple => c.compileSimple entity field op (literalOf operand) fun element =>
        (compileOperand c element operand).orElse fun _ => compileFirst c element filters
    | .named => c.compileNamed entity specification arguments
    | .composite => c.compileComposite entity composite
    | .custom => c.compileCustom entity type parameters
termination_by structural x => x

/-- The specification of a criterion that is an operand. -/
def compileOperand (c : Context) (entity : TypeExpr) :
    Operand Criterion → Option (Except Fault Spec)
  | .literal _ => none
  | .nested n => some (compileCriterion c entity n)
termination_by structural o => o

/-- The specification of the first of several criteria. -/
def compileFirst (c : Context) (entity : TypeExpr) :
    List Criterion → Option (Except Fault Spec)
  | [] => none
  | n :: _ => some (compileCriterion c entity n)
termination_by structural ns => ns

end

/-- The criteria, none of which may be missing. -/
def present (criteria : List (Option Criterion)) : Except Fault (List Criterion) :=
  if criteria.all Option.isSome then .ok (criteria.filterMap id)
  else defective (.missingCriterion (some "filters"))

/-- The specifications of criteria, one for each run. -/
def compileRuns (c : Context) (entity : TypeExpr) (criteria : List Criterion) :
    Except Fault (List Spec) := do
  let specs ← criteria.mapM (c.compileCriterion entity)
  (runs ((criteria.map (·.logic)).zip specs)).mapM fun run => passing (Spec.oneOf run)

/-- The specifications of criteria, followed by further ones. -/
def compile (c : Context) (entity : TypeExpr) (criteria : List Criterion) (further : List Spec) :
    Except Fault (List Spec) :=
  (c.compileRuns entity criteria).map (· ++ further)

end Context

end Criteria
