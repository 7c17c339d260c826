import Criteria.Proofs.Query.RoundTrip

/-!
# Queries Sent Once More

What arrives when a query that was read from a payload is written and the table is
read by somebody else.

Writing always succeeds, and so does reading what was written, but it need not
give the query back. The table of a criterion that is nested under a quantifier
shows by the name of its field that it is one. A nested criterion without a field,
as a custom filter or a named specification may well be, is written without that
name, and what arrives is its table, as an operand like any other.

`resent` says what arrives in terms of the criterion alone. It leaves the wire
form as it is, since a table is its own wire form, and it makes a settled
criterion of one that was read: the criteria that could not be told from tables
are tables now. So what is known of settled criteria carries over, and no table is
taken apart a second time.

## Main definitions

* `Criterion.resent`, `Query.resent`: What arrives.

## Theorems

* `Criterion.isCriterionTable_of_wire`: Written criteria without a field are not
  taken for criteria.
* `Criterion.IsRead.resent`: What arrives is settled and has the same wire form.
* `Query.ofPayload_resent`: What arrives is read from what is written.
-/

namespace Criteria

namespace Criterion

/-- The table that a criterion is written as. -/
def written (c : Criterion) : Value :=
  c.wire.toOption.getD .null

mutual

/-- The criterion that arrives where a criterion is sent. -/
def resent : Criterion → Criterion
  | ⟨field, op, operand, logic, filters, type, parameters, specification, arguments, composite⟩ =>
    ⟨field, op, resentOperand operand, logic, resentAll filters, type, parameters, specification,
      arguments, composite⟩
termination_by structural c => c

/-- The operand that arrives: a nested criterion without a field is a table. -/
def resentOperand : Operand Criterion → Operand Criterion
  | .literal v => .literal v
  | .nested n => if n.field.isSome then .nested (resent n) else .literal n.written
termination_by structural o => o

/-- The criteria that arrive. -/
def resentAll : List Criterion → List Criterion
  | [] => []
  | c :: cs => resent c :: resentAll cs
termination_by structural cs => cs

end

theorem resentAll_eq_map (cs : List Criterion) : resentAll cs = cs.map resent := by
  induction cs with
  | nil => rfl
  | cons c cs ih => rw [resentAll, ih, List.map_cons]

theorem resent_eq (c : Criterion) :
    c.resent = { c with operand := resentOperand c.operand, filters := c.filters.map resent } := by
  cases c with
  | mk => rw [resent, resentAll_eq_map]

theorem field_resent (c : Criterion) : c.resent.field = c.field := by
  rw [resent_eq]

section Wire

theorem isCriterionTable_present_eq_false {entries : List (String × Option Value)}
    (h : ∀ k v, (k, some v) ∈ entries → Text.lower k ≠ "field") :
    isCriterionTable (present entries) = false := by
  rw [present, Value.table, isCriterionTable, List.any_eq_false]
  intro e he
  rcases List.mem_map.mp he with ⟨⟨k, v⟩, hmem, rfl⟩
  rw [beq_iff_eq]
  exact h k v (mem_present_iff.mp hmem)

/-- A criterion is written as a table of its field and nine other members. -/
theorem exists_of_wire {c : Criterion} {w : Value} (hw : c.wire = .ok w) :
    ∃ others, w = present (("field", c.field.map .text) :: others) ∧
      others.map Prod.fst = ["operator", "value", "logic", "filters", "customType",
        "customParameters", "specificationName", "specificationArguments",
        "compositeSpecification"] := by
  cases c with
  | mk =>
      rw [wire] at hw
      rcases bind_eq_ok_iff.mp hw with ⟨operand, -, hw⟩
      rcases bind_eq_ok_iff.mp hw with ⟨filters, -, hw⟩
      rcases bind_eq_ok_iff.mp hw with ⟨parameters, -, hw⟩
      rcases bind_eq_ok_iff.mp hw with ⟨arguments, -, hw⟩
      rcases bind_eq_ok_iff.mp hw with ⟨composite, -, hw⟩
      exact ⟨_, (Except.ok.inj hw).symm, rfl⟩

theorem isNull_of_wire {c : Criterion} {w : Value} (hw : c.wire = .ok w) : w.isNull = false := by
  rcases exists_of_wire hw with ⟨others, rfl, -⟩
  rfl

-- Of the names that a criterion is written under only that of its field is the
-- word for one.
theorem isCriterionTable_of_wire {c : Criterion} {w : Value} (hw : c.wire = .ok w)
    (hfield : c.field = none) : isCriterionTable w = false := by
  rcases exists_of_wire hw with ⟨others, rfl, hnames⟩
  rw [hfield]
  refine isCriterionTable_present_eq_false fun k v hmem => ?_
  have hother : ∀ name ∈ others.map Prod.fst, Text.lower name ≠ "field" := by
    rw [hnames]
    decide +kernel
  -- The field has no value, so what is written stands among the others.
  have hrest := (List.mem_cons.mp hmem).resolve_left fun h =>
    Option.some_ne_none v (Prod.mk.inj h).2
  exact hother k (List.mem_map_of_mem (f := Prod.fst) hrest)

theorem wireAll_map_resent {cs : List Criterion} (h : ∀ c ∈ cs, c.resent.wire = c.wire) :
    wireAll (cs.map resent) = wireAll cs := by
  induction cs with
  | nil => rfl
  | cons c cs ih =>
      rw [List.map_cons, wireAll, wireAll, h c List.mem_cons_self,
        ih fun x hx => h x (List.mem_cons_of_mem c hx)]

theorem wire_resent_of_parts {c : Criterion}
    (hoperand : wireOperand (resentOperand c.operand) = wireOperand c.operand)
    (hfilters : ∀ f ∈ c.filters, f.resent.wire = f.wire) : c.resent.wire = c.wire := by
  cases c with
  | mk =>
      rw [resent, wire, wire, hoperand, resentAll_eq_map, wireAll_map_resent hfilters]

theorem HoldsPayloads.with_parts {c : Criterion} (hc : c.HoldsPayloads)
    (operand : Operand Criterion) (filters : List Criterion) :
    { c with operand := operand, filters := filters }.HoldsPayloads :=
  ⟨hc.keys, hc.parameters, hc.arguments, hc.composite⟩

-- The induction is on what was read. Only a nested criterion without a field
-- changes; its table is a payload that is not taken for a criterion, and it is
-- written as it is.
theorem IsRead.resent {c : Criterion} (h : c.IsRead) :
    c.resent.IsSettled ∧ c.resent.wire = c.wire := by
  -- On what has been read: a literal comes back as it was, and a nested
  -- criterion does so where it names a field.
  induction h with
  | @literal c v hoperand hv hplain hc _ ih =>
      have hresent : resentOperand c.operand = c.operand := by rw [hoperand]; rfl
      refine ⟨?_, wire_resent_of_parts (by rw [hresent]) fun f hf => (ih f hf).2⟩
      rw [resent_eq, hresent]
      exact .literal hoperand hv hplain (hc.with_parts _ _)
        (List.forall_mem_map.mpr fun f hf => (ih f hf).1)
  | @nested c n hoperand hop _ hc _ ihn ih =>
      have hfilters : ∀ f ∈ c.filters.map Criterion.resent, f.IsSettled :=
        List.forall_mem_map.mpr fun f hf => (ih f hf).1
      rcases ihn with ⟨hn, hwire⟩
      cases hfield : n.field with
      | some field =>
          have hresent : resentOperand c.operand = .nested n.resent := by
            rw [hoperand, resentOperand, hfield, Option.isSome_some, if_pos rfl]
          refine ⟨?_, wire_resent_of_parts ?_ fun f hf => (ih f hf).2⟩
          · rw [resent_eq, hresent]
            refine .nested rfl hop ?_ hn (hc.with_parts _ _) hfilters
            rw [field_resent, hfield]
            exact Option.some_ne_none field
          · rw [hresent, hoperand, wireOperand, wireOperand, hwire]
      -- A nested criterion without a field is written as a plain table, and a plain table it stays.
      | none =>
          rcases hn.exists_isWrittenAs with ⟨w, hw⟩
          have hwn : n.wire = .ok w := hwire ▸ hw.wire_eq
          have hresent : resentOperand c.operand = .literal w := by
            rw [hoperand, resentOperand, hfield, Option.isSome_none, if_neg Bool.false_ne_true,
              written, hwn]
            rfl
          have htable : isCriterionTable w = false := isCriterionTable_of_wire hwn hfield
          refine ⟨?_, wire_resent_of_parts ?_ fun f hf => (ih f hf).2⟩
          · rw [resent_eq, hresent]
            exact .literal rfl hw.isJson (fun _ => htable) (hc.with_parts _ _) hfilters
          · rw [hresent, hoperand, wireOperand, wireOperand, wireUnlessNull, isNull_of_wire hwn,
              if_neg Bool.false_ne_true, Value.wire_eq_ok hw.isJson, hwn]

end Wire

end Criterion

namespace Query

/-- The query that arrives where a query is sent. -/
def resent (q : Query) : Query :=
  { q with trackingGiven := true, filters := q.filters.map Criterion.resent }

theorem isRead_of_ofPayload {v : Value} {q : Query} (hv : v.IsJson)
    (h : (ofPayload v).result = .ok q) : ∀ f ∈ q.filters, f.IsRead := by
  rcases ofPayload_eq_ok_iff.mp h with ⟨ms, hms, hfit⟩
  intro f hf
  rcases exists_of_fit_filters (isJson_of_mem_members hv hms) hfit f hf with ⟨x, hx, hxf⟩
  exact Criterion.isRead_of_fitTo hx hxf

/-- A query that is read from a payload is written, and what is written is read as
    the query that arrives. -/
theorem ofPayload_resent {v : Value} {q : Query} (hv : v.IsJson)
    (h : (ofPayload v).result = .ok q) :
    ∃ w, q.wire = .ok w ∧ (ofPayload w).result = .ok q.resent := by
  rcases ofPayload_eq_ok_iff.mp h with ⟨ms, hms, hfit⟩
  have hjson := isJson_of_mem_members hv hms
  have hread : ∀ f ∈ q.filters, f.resent.IsSettled ∧ f.resent.wire = f.wire :=
    fun f hf => (isRead_of_ofPayload hv h f hf).resent
  have hsettled : { q with filters := q.filters.map Criterion.resent }.IsSettled :=
    isSettled_with_filters hjson hfit (List.forall_mem_map.mpr fun f hf => (hread f hf).1)
  rcases hsettled.exists_wire_eq_ok with ⟨w, hw, -, harrived⟩
  refine ⟨w, ?_, harrived⟩
  rw [← hw, wire, wire, Criterion.wireAll_map_resent fun f hf => (hread f hf).2]

end Query

end Criteria
