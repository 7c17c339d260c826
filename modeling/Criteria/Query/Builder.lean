import Criteria.Query.Update
import Criteria.Schema.Path
import Criteria.Value.Whole

/-!
# Building Queries Step by Step

A query may be built for a type of entity. The paths in it are then looked up as
they are added, so that no step adds a path that leads nowhere; a step that
fails leaves the query as it was.

The criteria about the elements of a collection are built in the same way, for
the type of the elements. A custom filter is built of its parameters and stands
in the query as often as it was finished; a parameter given after that counts
all the same.

## Main definitions

* `NodeDraft`: A node of a composite specification, before it is read.
* `BuildStep`: A step in building a query.
* `QueryBuilder`: A query under construction.
* `QueryBuilder.run`: The query after a step, and what went wrong.
* `QueryBuilder.runAll`: The query after steps none of which fails.
-/

namespace Criteria

/-- A node of a composite specification, before it is read. -/
inductive NodeDraft where
  | leaf (name : Value) (arguments : List Value)
  | group (logic : Value) (nodes : List NodeDraft)
  deriving Inhabited

namespace NodeDraft

mutual

/-- The node; the nodes of a group are read before its logic. -/
def read : NodeDraft → Except Fault SpecNode
  | leaf name arguments => do
    return .leaf (← ((fitText name).beneath "name").located) arguments
  | group logic nodes => do
    let nodes ← readAll nodes
    return .group (← passing (Logic.vocabulary.read logic)) nodes
termination_by structural d => d

/-- The nodes. -/
def readAll : List NodeDraft → Except Fault (List SpecNode)
  | [] => .ok []
  | d :: ds => do
    let node ← read d
    return node :: (← readAll ds)
termination_by structural ds => ds

end

end NodeDraft

/-- A step in building a custom filter. -/
inductive CustomStep where
  | parameter (key : String) (value : Value)
  /-- The filter becomes a part of the query. -/
  | finish
  deriving Inhabited

/-- A step in building a query. -/
inductive BuildStep where
  | paging (page : Value) (pageSize : Option Value)
  | filter (field : String) (op : Value) (operand : Operand Criterion) (logic : Value)
  /-- A quantifier about the elements of a collection. -/
  | collection (field : String) (op : Value) (steps : List BuildStep) (logic : Value)
  | custom (type logic : Value) (steps : List CustomStep)
  | named (name : Value) (arguments : List Value) (logic : Value)
  | composite (nodes : List NodeDraft) (logic : Value)
  | ordering (field : String) (direction : Value)
  | inclusion (path : String)
  | hierarchy (path : String) (maxDepth : Int)
  /-- A step that is not taken. -/
  | skipped (step : BuildStep)
  deriving Inhabited

/-- A query under construction. -/
structure QueryBuilder where
  /-- The type of entity that the query is about, if it is known. -/
  entity : Option TypeExpr := none
  query : Query := {}
  deriving Inhabited

/-- Parameters with one set: in its place if it is there, or else at the end. -/
def setParameter (key : String) (value : Value) : List (String × Value) → List (String × Value)
  | [] => [(key, value)]
  | e :: es => if e.1 = key then (key, value) :: es else e :: setParameter key value es

namespace QueryBuilder

/-- The path leads somewhere, if the type of entity is known. -/
def check (b : QueryBuilder) (s : Schema) (path : String) : Except Fault Unit :=
  match b.entity with
  | none => .ok ()
  | some entity => ((s.resolve entity path).map fun _ => ()).mapError Fault.filter

/-- The query after a change. -/
def changed (b : QueryBuilder) (q : Except Refusal Query) : Except Fault QueryBuilder := do
  return { b with query := ← passing q }

/-- The query with one more criterion. -/
def add (b : QueryBuilder) (c : Criterion) : QueryBuilder :=
  { b with query := b.query.addFilter c }

/-- A standard page size, which may stand alone for a page. -/
def isStandardSize : Value → Bool
  | .member m => m.type == PageSize.enumType.name
  | _ => false

/-- The page and the page size that are meant: without a page size, it stays as
    it is, or else the page does if only a standard page size is given. -/
def pages (q : Query) (page : Value) (pageSize : Option Value) : Except Failure (Int × Int) :=
  match pageSize with
  | some size => do
    let size ← size.whole
    return (← page.whole, size)
  | none => do
    let n ← page.whole
    -- A standard page size in the place of a page is a page size.
    return if isStandardSize page then (q.page, n) else (n, q.pageSize)

/-- The query for a page. -/
def setPages (b : QueryBuilder) (page : Value) (pageSize : Option Value) :
    Except Fault QueryBuilder := do
  let (page, pageSize) ← passing (unworded (pages b.query page pageSize))
  b.changed (b.query.setPaging page pageSize)

/-- The query with a simple criterion. -/
def addSimple (b : QueryBuilder) (s : Schema) (field : String) (op : Value)
    (operand : Operand Criterion) (logic : Value) : Except Fault QueryBuilder := do
  b.check s field
  let op ← passing (Operator.vocabulary.read op)
  let logic ← passing (Logic.vocabulary.read logic)
  return b.add (← Criterion.simple field op operand logic)

/-- The builder for the elements of a collection. -/
def inside (b : QueryBuilder) (s : Schema) (field : String) : Except Fault QueryBuilder :=
  match b.entity with
  | none => .ok {}
  | some entity => do
    let accessor ← (s.resolve entity field).mapError Fault.filter
    return { entity := accessor.element }

/-- The query with criteria about the elements of a collection, if there are
    any. -/
def addQuantified (b : QueryBuilder) (field : String) (op logic : Value)
    (filters : List Criterion) : Except Fault QueryBuilder := do
  if filters.isEmpty then return b
  else
    let op ← passing (Operator.vocabulary.read op)
    let logic ← passing (Logic.vocabulary.read logic)
    return b.add { field := some field, op := op, filters := filters, logic := logic }

/-- A custom filter without parameters. -/
def newCustom (type logic : Value) : Except Fault Criterion := do
  let type ← passing (CustomType.vocabulary.read type)
  let logic ← passing (Logic.vocabulary.read logic)
  return { type := type, logic := logic }

/-- The path that a custom filter names leads somewhere. -/
def checkTarget (b : QueryBuilder) (s : Schema) (c : Criterion) : Except Fault Unit :=
  match (c.parameters.lookup "field").bind Value.text? with
  | some path => b.check s path
  | none => .ok ()

/-- The query with a number of copies of a criterion. -/
def addCopies (b : QueryBuilder) (c : Criterion) (n : Nat) : QueryBuilder :=
  { b with query := { b.query with filters := b.query.filters ++ List.replicate n c } }

/-- The query after the steps of a custom filter, which has been finished a
    number of times, and what went wrong. -/
def runCustom (s : Schema) (b : QueryBuilder) (c : Criterion) (finished : Nat) :
    List CustomStep → QueryBuilder × Option Fault
  | [] => (b.addCopies c finished, none)
  | .parameter key value :: steps =>
    runCustom s b { c with parameters := setParameter key value c.parameters } finished steps
  | .finish :: steps =>
    match b.checkTarget s c with
    | .error f => (b.addCopies c finished, some f)
    | .ok _ => runCustom s b c (finished + 1) steps

/-- The query with a reference to a registered specification. -/
def addNamed (b : QueryBuilder) (name : Value) (arguments : List Value) (logic : Value) :
    Except Fault QueryBuilder := do
  let logic ← passing (Logic.vocabulary.read logic)
  let name ← ((fitText? name).beneath "specification_name").located
  return b.add
    { type := .named, specification := name, arguments := arguments, logic := logic }

/-- The query with a composite specification. -/
def addComposite (b : QueryBuilder) (nodes : List NodeDraft) (logic : Value) :
    Except Fault QueryBuilder := do
  let nodes ← NodeDraft.readAll nodes
  let logic ← passing (Logic.vocabulary.read logic)
  return b.add { type := .composite, composite := some nodes, logic := logic }

/-- The query with a direction set. -/
def addOrdering (b : QueryBuilder) (s : Schema) (field : String) (direction : Value) :
    Except Fault QueryBuilder := do
  b.check s field
  let direction ← passing (Direction.vocabulary.read direction)
  return { b with query := b.query.setOrdering field direction }

/-- The query with one more included path. -/
def addInclusion (b : QueryBuilder) (s : Schema) (path : String) : Except Fault QueryBuilder := do
  b.check s path
  return { b with query := b.query.addInclude path }

/-- The query with a hierarchy. -/
def addHierarchy (b : QueryBuilder) (s : Schema) (path : String) (maxDepth : Int) :
    Except Fault QueryBuilder := do
  b.check s path
  b.changed (b.query.setHierarchy (some path) maxDepth)

/-- A step that is not taken still reads the nodes it is made of, or the type and
    the logic of a custom filter. -/
def readSkipped : BuildStep → Except Fault Unit
  | .composite nodes _ => (NodeDraft.readAll nodes).map fun _ => ()
  | .custom type logic _ => (newCustom type logic).map fun _ => ()
  | _ => .ok ()

/-- The query after a step that fails as a whole or not at all. -/
def keeping (b : QueryBuilder) : Except Fault QueryBuilder → QueryBuilder × Option Fault
  | .ok b => (b, none)
  | .error f => (b, some f)

mutual

/-- The query after a step, and what went wrong. -/
def run (s : Schema) (b : QueryBuilder) : BuildStep → QueryBuilder × Option Fault
  | .paging page pageSize => b.keeping (b.setPages page pageSize)
  | .filter field op operand logic => b.keeping (b.addSimple s field op operand logic)
  -- The steps inside start a query of their own, of which only criteria are kept.
  | .collection field op steps logic => b.keeping do
    let inner ← runAll s (← b.inside s field) steps
    b.addQuantified field op logic inner.query.filters
  | .custom type logic steps =>
    match newCustom type logic with
    | .ok c => runCustom s b c 0 steps
    | .error f => (b, some f)
  | .named name arguments logic => b.keeping (b.addNamed name arguments logic)
  | .composite nodes logic => b.keeping (b.addComposite nodes logic)
  | .ordering field direction => b.keeping (b.addOrdering s field direction)
  | .inclusion path => b.keeping (b.addInclusion s path)
  | .hierarchy path maxDepth => b.keeping (b.addHierarchy s path maxDepth)
  | .skipped step => b.keeping ((readSkipped step).map fun _ => b)
termination_by structural step => step

/-- The query after steps none of which fails. -/
def runAll (s : Schema) (b : QueryBuilder) : List BuildStep → Except Fault QueryBuilder
  | [] => .ok b
  | step :: steps =>
    match run s b step with
    | (b, none) => runAll s b steps
    | (_, some f) => .error f
termination_by structural steps => steps

end

end QueryBuilder

end Criteria
