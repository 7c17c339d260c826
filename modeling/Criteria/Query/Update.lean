import Criteria.Query.Payload

/-!
# Updating Simple Criteria

Setting what a query asks of a field. The first simple criterion on the field
and operator is changed; where there is none, one is added at the end.

An existing criterion takes the operand as it is, before its logic is read; so
an update with an unknown logic fails and leaves the new operand behind.

## Main definitions

* `Criterion.simple`: A new simple criterion.
* `updateFirst`: A list with the first element of a kind changed.
* `Query.setFilter`: The query after an update, and what went wrong.
-/

namespace Criteria

/-- A new simple criterion, its operand recognised. -/
def Criterion.simple (field : String) (op : Operator) (operand : Operand Criterion)
    (logic : Logic) : Except Fault Criterion :=
  (Criterion.settle { field := some field, op := op, operand := operand, logic := logic }).located

/-- The list with the first element that passes a test changed. -/
def updateFirst {α : Type} (test : α → Bool) (f : α → α) : List α → List α
  | [] => []
  | a :: as => if test a then f a :: as else a :: updateFirst test f as

namespace Query

/-- The query with the first simple criterion on a field and operator changed. -/
def changeFilter (q : Query) (field : String) (op : Operator) (f : Criterion → Criterion) : Query :=
  { q with filters := updateFirst (·.isSimpleOn field op) f q.filters }

/-- The query with one more criterion at the end. -/
def addFilter (q : Query) (c : Criterion) : Query :=
  { q with filters := q.filters ++ [c] }

/-- The query after the operand and logic of a simple criterion are set, and what
    went wrong on the way. -/
def setFilter (q : Query) (field : String) (op : Value) (operand : Operand Criterion)
    (logic : Value) : Query × Option Fault :=
  match Operator.vocabulary.read op with
  | .error r => (q, some (.refused r))
  | .ok op =>
    if q.filters.any (·.isSimpleOn field op) then
      -- The operand is in place before the logic is read.
      let changed := q.changeFilter field op fun c => { c with operand := operand }
      match Logic.vocabulary.read logic with
      | .error r => (changed, some (.refused r))
      | .ok l => (changed.changeFilter field op fun c => { c with logic := l }, none)
    else
      match Logic.vocabulary.read logic with
      | .error r => (q, some (.refused r))
      | .ok l =>
        match Criterion.simple field op operand l with
        | .error f => (q, some f)
        | .ok c => (q.addFilter c, none)

end Query

end Criteria
