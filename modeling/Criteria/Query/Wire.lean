import Criteria.Query.Basic
import Criteria.Wire.Form
import Criteria.Wire.Writer

/-!
# Writing Queries

The table that a query is on the wire: names in camel case, words in their wire
form, and no members that are null. Nulls inside of operands, parameters and
arguments are kept.

## Main definitions

* `SpecNode.wire`, `Criterion.wire`, `OrderBy.wire`, `Query.wire`: The wire forms.
* `Query.json`: The compact text of a query.
-/

namespace Criteria

/-- The entries of a table, without those that are missing. -/
def present (entries : List (String × Option Value)) : Value :=
  Value.table (entries.filterMap fun (k, v) => v.map (k, ·))

/-- The wire forms of the values, as a list. -/
def wireList (vs : List Value) : Except Failure Value :=
  Value.wire (.list vs)

/-- The wire form of a table with text keys. -/
def wireTable (entries : List (String × Value)) : Except Failure Value :=
  (Value.wireFields true entries).map Value.table

namespace SpecNode

mutual

/-- The wire form of a node. -/
def wire : SpecNode → Except Failure Value
  | leaf name arguments => do
    return Value.table [("name", .text name), ("arguments", ← wireList arguments)]
  | group logic nodes => do
    return Value.table [("logic", .text logic.wire), ("nodes", .list (← wireAll nodes))]
termination_by structural n => n

/-- The wire forms of nodes. -/
def wireAll : List SpecNode → Except Failure (List Value)
  | [] => .ok []
  | n :: ns => do return (← wire n) :: (← wireAll ns)
termination_by structural ns => ns

end

end SpecNode

/-- The wire form of what is not null. -/
def wireUnlessNull (v : Value) : Except Failure (Option Value) :=
  if v.isNull then .ok none else v.wire.map some

/-- The wire form of the trees of a composite specification. -/
def wireComposite : Option (List SpecNode) → Except Failure (Option Value)
  | none => .ok none
  | some nodes => do
    return some (Value.table [("nodes", .list (← SpecNode.wireAll nodes))])

namespace Criterion

mutual

/-- The wire form of a criterion. -/
def wire : Criterion → Except Failure Value
  | ⟨field, op, operand, logic, filters, type, parameters, specification, arguments, composite⟩ =>
    do
      return present [
        ("field", field.map .text),
        ("operator", some (.text op.wire)),
        ("value", ← wireOperand operand),
        ("logic", some (.text logic.wire)),
        ("filters", some (.list (← wireAll filters))),
        ("customType", some (.text type.wire)),
        ("customParameters", some (← wireTable parameters)),
        ("specificationName", specification.map .text),
        ("specificationArguments", some (← wireList arguments)),
        ("compositeSpecification", ← wireComposite composite)]
termination_by structural c => c

/-- The wire form of an operand that is not null. -/
def wireOperand : Operand Criterion → Except Failure (Option Value)
  | .literal v => wireUnlessNull v
  | .nested c => (wire c).map some
termination_by structural o => o

/-- The wire forms of criteria. -/
def wireAll : List Criterion → Except Failure (List Value)
  | [] => .ok []
  | c :: cs => do return (← wire c) :: (← wireAll cs)
termination_by structural cs => cs

end

end Criterion

/-- The wire form of an ordering. -/
def OrderBy.wire (o : OrderBy) : Value :=
  Value.table [("field", .text o.field), ("direction", .text o.direction.wire)]

namespace Query

/-- The wire form of a query. -/
def wire (q : Query) : Except Failure Value := do
  let filters ← Criterion.wireAll q.filters
  return present [
    ("page", some (.int q.page)),
    ("pageSize", some (.int q.pageSize)),
    ("noTracking", some (.bool q.noTracking)),
    ("orderings", some (.list (q.orderings.map OrderBy.wire))),
    ("filters", some (.list filters)),
    ("includes", some (.list (q.includes.map .text))),
    ("hierarchy", q.hierarchy.map .text),
    ("hierarchyMaxDepth", some (.int q.maxDepth))]

/-- The compact text of a query. -/
def json (q : Query) : Except Failure String :=
  q.wire.map Json.write

end Query

end Criteria
