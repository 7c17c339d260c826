import Criteria.Proofs.Coercion.Written
import Criteria.Proofs.Compile.Partition
import Criteria.Proofs.Query.RoundTrip

/-!
# Operands Sent as Payloads

A query is written as a payload, read again and compiled. Where its only criterion
compares a field with a value of the field's type, the comparison that is compiled
has that very value as its operand.

Three functions that know nothing of each other have to agree for this. Writing gives
the value its form on the wire, reading keeps that form as it is, and compiling
coerces it to the type of the field. `Coercer.exists_wire_coerceTo` is what makes the
first and the last inverse to each other.

## Main definitions

* `Criterion.equals`: The criterion that a field has a value.

## Theorems

* `Query.exists_wire_equals`: The criterion is read with the wire form of the value.
* `Context.compile_singleton`: One criterion is compiled to one specification.
* `Context.exists_compile_sent`: The value that was sent is the value that is compared
  with.
-/

namespace Criteria

/-- The criterion that a field has a value. -/
def Criterion.equals (path : String) (v : Value) : Criterion :=
  { field := some path, operand := .literal v }

/-- A query with the criterion is read with the wire form of the value. -/
theorem Query.exists_wire_equals {q : Query} {path : String} {v w : Value}
    (hq : q.filters = [.equals path v]) (hnull : v.isNull = false) (hw : v.wire = .ok w) :
    ∃ payload r, q.wire = .ok payload ∧ (ofPayload payload).result = .ok r ∧
      r.filters = [.equals path w] := by
  have hholds : (Criterion.equals path v).HoldsPayloads :=
    ⟨List.nodup_nil, fun e he => absurd he List.not_mem_nil, fun e he => absurd he List.not_mem_nil,
      fun nodes hnodes => absurd hnodes (Option.not_mem_none nodes)⟩
  rcases Criterion.exists_wire_of_literal hholds .nil rfl rfl hnull hw with ⟨t, ht, hfit⟩
  refine ⟨present (q.wireMembers [t]), _, ?_, ofPayload_wireMembers q (.cons hfit .nil), rfl⟩
  rw [wire, hq, Criterion.wireAll, ht]
  rfl

namespace Context

variable {c : Context} {entity : TypeExpr} {a : Accessor} {t : NamedType} {path : String}
  {v : Value}

/-- One criterion is compiled to one specification. -/
theorem compile_singleton {x : Criterion} {spec : Spec}
    (h : c.compileCriterion entity x = .ok spec) : c.compile entity [x] [] = .ok [spec] := by
  have hone : [x].mapM (c.compileCriterion entity) = .ok [spec] := by
    rw [List.mapM_cons, h]
    rfl
  -- How a criterion joins the next one does not matter where there is none.
  have hruns : runs (([x].map (·.logic)).zip [spec]) = [[spec]] := by
    rw [List.map_cons, List.map_nil]
    cases x.logic <;> rfl
  rw [compile, compileRuns, hone]
  show (((runs (([x].map (·.logic)).zip [spec])).mapM fun run => passing (Spec.oneOf run)).map
    (· ++ [])) = _
  rw [hruns]
  rfl

/-- The value that was sent is the value that is compared with. Where a field is of the type
    of a portable value, no converter is registered for the type, and the only criterion of a
    query is that the field has the value, then the query is written, what is written is
    read, and what is read is compiled to the comparison of the field with the value
    itself. -/
theorem exists_compile_sent {q : Query} (hq : q.filters = [.equals path v])
    (ha : c.resolve entity path = .ok a) (hvalue : a.valueType = .named t)
    (hfind : c.coercer.find? c.schema t = none) (hv : v.IsPortable t) :
    ∃ payload r, q.wire = .ok payload ∧ (Query.ofPayload payload).result = .ok r ∧
      c.compile entity r.filters [] = .ok [c.test a .equal v none] := by
  have hnull : v.isNull = false := by cases hv <;> rfl
  -- The value as it is written coerces to the value, and the comparison is built from that.
  rcases Coercer.exists_wire_coerceTo hfind hv with ⟨w, hw, hcoerceTo⟩
  have hcoerce : c.coercer.coerce c.schema a.valueType w = .ok v := by
    rw [hvalue]
    exact hcoerceTo
  have hcompiled : c.compileCriterion entity (.equals path w) = .ok (c.test a .equal v none) := by
    refine (compileCriterion_eq_ok_iff rfl).mpr ⟨path, a, rfl, ne_empty_of_resolve ha, ha, ?_⟩
    exact compileComparison_equal (.inl rfl) hcoerce
  rcases Query.exists_wire_equals hq hnull hw with ⟨payload, r, hwire, hread, hfilters⟩
  refine ⟨payload, r, hwire, hread, ?_⟩
  rw [hfilters]
  exact compile_singleton hcompiled

/-- Five and a half hours ahead of universal time, a quarter of a millisecond past six. -/
def eveningAhead : Moment :=
  ⟨⟨2024, 2, 29, by decide⟩, .ofMicros (18 * 3600 * secondMicros + 250),
    some ⟨330 * 60 * secondMicros⟩⟩

/-- A shift that starts on a clock ahead of universal time. -/
theorem exists_compile_sent_eveningAhead : ∃ payload r a,
    ({ filters := [.equals "starts_at" (.moment eveningAhead)] } : Query).wire = .ok payload ∧
    (Query.ofPayload payload).result = .ok r ∧
    ofShifts.compile (Catalog.entityNamed "Shift") r.filters [] =
      .ok [ofShifts.test a .equal (.moment eveningAhead) none] := by
  have hresolve : ∃ a, ofShifts.resolve (Catalog.entityNamed "Shift") "starts_at" = .ok a ∧
      a.valueType = .named .moment := ⟨_, rfl, rfl⟩
  -- An offset of five and a half hours is one of whole minutes, so its text says it.
  have hminutes : (⟨330 * 60 * secondMicros⟩ : Offset).IsWholeMinutes := ⟨by decide, by decide⟩
  have hportable : (Value.moment eveningAhead).IsPortable .moment :=
    .moment _ fun o ho => Option.some.inj ho ▸ hminutes
  rcases hresolve with ⟨a, ha, hvalue⟩
  have hfilters : ({ filters := [.equals "starts_at" (.moment eveningAhead)] } : Query).filters =
      [.equals "starts_at" (.moment eveningAhead)] := rfl
  rcases exists_compile_sent hfilters ha hvalue (Coercer.find?_nil _ _) hportable with
    ⟨payload, r, hwire, hread, hcompiled⟩
  exact ⟨payload, r, a, hwire, hread, hcompiled⟩

end Context

end Criteria
