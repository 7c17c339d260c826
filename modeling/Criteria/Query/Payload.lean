import Criteria.Query.Basic
import Criteria.Query.Fitting
import Criteria.Wire.Reader

/-!
# Reading Queries

The query that a payload stands for. Members are named in camel case or with
underscores; unknown ones are ignored, and null stands for the default of most.

A table under a quantifier is a criterion if one of its keys is the word for a
field. A node of a composite specification that could be a leaf as well as a
group is what gives meaning to more of its members.

## Main definitions

* `fitOperator`, `fitCustomType`: Words with errors of their own.
* `fitNode`: A node of a composite specification.
* `Criterion.settle`: A criterion with its operand recognised.
* `Criterion.fit`: The criterion that a payload stands for.
* `Query.fit`: The query that a payload stands for.
* `Query.ofPayload`, `Query.ofText`, `Query.ofParameters`: The query in a table,
  in a text, or in one of several parameters.
* `Query.unknownKeys`: The keys of a payload that stand for nothing.
-/

namespace Criteria

open Fitted

/-- The word of a vocabulary that a value stands for; a value that is no text
    has to be its exact wire form. -/
def fitWord {α : Type} (words : Vocabulary α) (v : Value) : Fitted α :=
  ofOption <|
    match v.text? with
    | some s => words.find? s
    | none => (Lenient.text? v).bind words.ofWire?

/-- An operator. -/
def fitOperator (v : Value) : Fitted Operator :=
  match v, v.text? with
  | .null, _ => fits .equal
  | _, some s =>
    match Operator.vocabulary.find? s with
    | some op => fits op
    | none => misfitWith (.unknownOperator s Operator.vocabulary.wires)
  | v, none => fitWord Operator.vocabulary v

/-- The type of a criterion. -/
def fitCustomType (v : Value) : Fitted CustomType :=
  match v, v.text? with
  | .null, _ => fits .simple
  | _, some s =>
    match CustomType.vocabulary.find? s with
    | some t => fits t
    | none => misfitWith (.unsupportedType (.text s) none)
  | v, none => fitWord CustomType.vocabulary v

/-- How a key that is no text is named in a path. -/
def keyStep (k : Value) : String :=
  match k with
  | .text s => s
  | .bool b => toString b.toInt
  | k => k.literal

/-- A parameter, whose key has to be a text. -/
def fitParameter (e : Value × Value) : Fitted (String × Value) :=
  match Lenient.text? e.1 with
  | some s => fits (s, e.2)
  | none => (misfit.beneath "[key]").beneath (keyStep e.1)

/-- The parameters of a custom filter. -/
def fitParameters (v : Value) : Fitted (List (String × Value)) :=
  match v with
  | .null => fits []
  | .dict es => es.foldr (fun e ps => List.cons <$> fitParameter e <*> ps) (fits [])
  | _ => misfit

/-- A list of anything. -/
def fitArguments (v : Value) : Fitted (List Value) :=
  unlessNull [] (fun v => ofOption (Lenient.list? v)) v

/-- A result, and how many members gave meaning to it. -/
structure Weighed (α : Type) where
  result : α
  weight : Nat

namespace Members

/-- How many of the members are given. -/
def count (ms : Members) (names : List String) : Nat :=
  (names.filter fun n => (ms.lookup n).isSome).length

end Members

/-- A leaf that refers to a registered specification. -/
def fitLeaf (v : Value) : Fitted (Weighed SpecNode) :=
  (membersOf v).andThen fun ms =>
    (⟨·, ms.count ["name", "arguments"]⟩) <$> (SpecNode.leaf
      <$> ms.fit "name" "name" misfit fitText
      <*> ms.fit "arguments" "arguments" (fits []) fitArguments)

/-- The weightier of two results, the first unless the second weighs more; if
    neither fits, all that does not fit. -/
def weightier {α : Type} (a b : Fitted (Weighed α)) : Fitted (Weighed α) :=
  match a, b with
  | fits x, fits y => fits (if x.weight < y.weight then y else x)
  | fits x, misfits _ => fits x
  | misfits _, fits y => fits y
  | misfits es, misfits fs => misfits (es ++ fs)

/-- A group made of weighed nodes, beside a number of its own members. -/
def groupOf (own : Nat) (logic : Logic) (nodes : List (Weighed SpecNode)) : Weighed SpecNode :=
  ⟨.group logic (nodes.map (·.result)), nodes.foldl (fun n node => n + node.weight) own⟩

/-- A group of nodes. -/
def fitGroup (fitNode : Value → Fitted (Weighed SpecNode)) (v : Value) :
    Fitted (Weighed SpecNode) :=
  (membersOf v).andThen fun ms =>
    groupOf (ms.count ["logic", "nodes"])
      <$> ms.fit "logic" "logic" (fits .and) (fitWord Logic.vocabulary)
      <*> ms.fit "nodes" "nodes" misfit (fitAll fitNode)

/-- A node of a composite specification, to a given depth. -/
def fitNodeTo : Nat → Value → Fitted (Weighed SpecNode)
  | 0, _ => misfit
  | fuel + 1, v =>
    weightier ((fitLeaf v).beneath "SpecificationLeaf")
      ((fitGroup (fitNodeTo fuel) v).beneath "SpecificationGroup")

/-- A node of a composite specification. -/
def fitNode (v : Value) : Fitted SpecNode :=
  (·.result) <$> fitNodeTo (v.depth + 1) v

/-- The trees of a composite specification. -/
def fitComposite (v : Value) : Fitted (Option (List SpecNode)) :=
  unlessNull none (fun v => (membersOf v).andThen fun ms =>
    some <$> ms.fit "nodes" "nodes" (fits []) (fitAll fitNode)) v

namespace Criterion

/-- A table that stands for a criterion under a quantifier. -/
def isCriterionTable : Value → Bool
  | .dict es => es.any fun e => Text.lower e.1.display == "field"
  | _ => false

/-- A criterion whose operand is recognised as a criterion where it is one. -/
def settleWith (fit : Value → Fitted Criterion) (c : Criterion) : Fitted Criterion :=
  match c.operand with
  | .nested _ => fits c
  | .literal v =>
    -- Only under a quantifier does a table stand for a criterion.
    if c.op.isQuantifier && isCriterionTable v then
      (fun n => { c with operand := .nested n }) <$> fit v
    else fits c

/-- A criterion made of its members, before its operand is looked at. -/
def fitMembers (fit : Value → Fitted Criterion) (ms : Members) : Fitted Criterion :=
  Criterion.mk
    <$> ms.fit "field" "field" (fits none) fitText?
    <*> ms.fit "operator" "operator" (fits .equal) fitOperator
    <*> ms.fit "value" "value" (fits (.literal .null)) (fits <| .literal ·)
    <*> ms.fit "logic" "logic" (fits .and) (unlessNull .and (fitWord Logic.vocabulary))
    <*> ms.fit "filters" "filters" (fits []) (unlessNull [] (fitAll fit))
    <*> ms.fit "customType" "custom_type" (fits .simple) fitCustomType
    <*> ms.fit "customParameters" "custom_parameters" (fits []) fitParameters
    <*> ms.fit "specificationName" "specification_name" (fits none) fitText?
    <*> ms.fit "specificationArguments" "specification_arguments" (fits []) fitArguments
    <*> ms.fit "compositeSpecification" "composite_specification" (fits none) fitComposite

/-- The criterion that a value stands for, to a given depth. -/
def fitTo : Nat → Value → Fitted Criterion
  | 0, _ => misfit
  | fuel + 1, v =>
    ((membersOf v).andThen (fitMembers (fitTo fuel))).andThen (settleWith (fitTo fuel))

/-- The criterion that a payload stands for. -/
def fit (v : Value) : Fitted Criterion :=
  fitTo (v.depth + 1) v

/-- A criterion with its operand recognised. -/
def settle (c : Criterion) : Fitted Criterion :=
  settleWith fit c

end Criterion

/-- An ordering. -/
def OrderBy.fit (v : Value) : Fitted OrderBy :=
  (membersOf v).andThen fun ms =>
    OrderBy.mk <$> ms.fit "field" "field" misfit fitText
      <*> ms.fit "direction" "direction" (fits .ascending) (fitWord Direction.vocabulary)

namespace Query

/-- A whole number, or a given one for null. -/
def fitInt (default : Int) (v : Value) : Fitted Int :=
  unlessNull default (fun v => ofOption (Lenient.int? v)) v

/-- A list, which may be null. -/
def fitList {α : Type} (fit : Value → Fitted α) (v : Value) : Fitted (List α) :=
  unlessNull [] (fitAll fit) v

/-- A query from the members that are given. -/
def ofMembers (page pageSize : Int) (noTracking : Option Bool) (orderings : List OrderBy)
    (filters : List Criterion) (includes : List String) (hierarchy : Option String)
    (maxDepth : Int) : Query where
  page := page
  pageSize := pageSize
  noTracking := noTracking.getD true
  trackingGiven := noTracking.isSome
  orderings := orderings
  filters := filters
  includes := includes.foldl addText []
  hierarchy := hierarchy
  maxDepth := maxDepth

/-- The query that members stand for. -/
def fit (ms : Members) : Fitted Query :=
  ofMembers
    <$> ms.fit "page" "page" (fits firstPage) (fitInt firstPage)
    <*> ms.fit "pageSize" "page_size" (fits standardPageSize) (fitInt standardPageSize)
    <*> ms.fit "noTracking" "no_tracking" (fits none) (fun v => some <$> ofOption (Lenient.bool? v))
    <*> ms.fit "orderings" "orderings" (fits []) (fitList OrderBy.fit)
    <*> ms.fit "filters" "filters" (fits []) (fitList Criterion.fit)
    <*> ms.fit "includes" "includes" (fits []) (fitList fitText)
    <*> ms.fit "hierarchy" "hierarchy" (fits none) fitText?
    <*> ms.fit "hierarchyMaxDepth" "hierarchy_max_depth" (fits standardDepth)
      (fitInt standardDepth)

/-- The keys that stand for something. -/
def knownKeys : List String :=
  ["page", "pageSize", "page_size", "noTracking", "no_tracking", "orderings", "filters", "includes",
    "hierarchy", "hierarchyMaxDepth", "hierarchy_max_depth"]

/-- The keys of a payload that stand for nothing. -/
def unknownKeys (entries : List (Value × Value)) : List String :=
  ((Value.textEntries entries).map Prod.fst).filter fun k =>
    !knownKeys.contains (Text.lowerFirst k)

/-- The warning for keys that stand for nothing. -/
def warning (keys : List String) : String :=
  "Ignoring unknown filter model keys: " ++ (Value.list (keys.map .text)).literal

/-- A query that was read, or why it was not, and the warnings on the way. -/
structure Read where
  result : Except Fault Query
  warnings : List String

instance : Inhabited Read := ⟨⟨.ok {}, []⟩⟩

/-- The query in a table. -/
def ofPayload (v : Value) : Read :=
  match v with
  | .dict es =>
    let unknown := unknownKeys es
    ⟨(fit (.ofEntries es)).reported, if unknown.isEmpty then [] else [warning unknown]⟩
  | v => ⟨defective (.notAnObject v.typeName), []⟩

/-- The query in a text. -/
def ofText (text : String) : Read :=
  match Json.read text with
  | .ok v => ofPayload v
  | .error .malformed => ⟨defective .invalidJson, []⟩
  | .error .longNumber => ⟨passing (refuse .unreadable), []⟩

/-- The text that bytes stand for, without a mark of their order. -/
def textOfBytes (bs : List UInt8) : String :=
  let s := (String.fromUTF8? ⟨bs.toArray⟩).getD ""
  if s.startsWith "\uFEFF" then (s.drop 1).toString else s

/-- The query in a parameter that is not a list. -/
def ofParameter (key : String) (v : Value) : Read :=
  match v, v.text? with
  | _, some s => ofText s
  | .bytes bs, _ => ofText (textOfBytes bs)
  | .dict _, _ => ofPayload v
  | v, none => ⟨defective (.parameterType key v.typeName), []⟩

/-- The query in one of several parameters; without it everything is as in a new
    query. -/
def ofParameters (parameters : List (Value × Value)) (key : String) : Read :=
  match Value.lookup? parameters (.text key) with
  | none | some .null => ⟨.ok {}, []⟩
  | some (.list [v]) | some (.tuple [v]) => ofParameter key v
  | some (.list vs) | some (.tuple vs) => ⟨defective (.severalParameters key vs.length), []⟩
  | some v => ofParameter key v

/-- The query made of named members. -/
def ofNamed (entries : List (Value × Value)) : Except Fault Query :=
  (fit (.ofEntries entries)).located

end Query

end Criteria
