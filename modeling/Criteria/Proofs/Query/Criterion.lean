import Criteria.Proofs.Query.Nodes

/-!
# Writing and Reading Criteria

A criterion, written and read again.

What is read from a payload has a certain shape: parameters, arguments and
operands are payloads, and under a quantifier a table that could be a criterion is
one. This holds for all criteria in it, in its operand and beside it. It is almost
what is needed on the way back. The operand of a quantifier is written as a table
without saying what it is, and it is recognised again by the name of its field; so
a criterion is settled when its nested criteria have fields as well, which nothing
else about a payload ensures.

The reader counts down at every level of nesting, and the depth of the written
table is always enough.

## Main definitions

* `Criterion.HoldsPayloads`: Parameters and arguments are payloads.
* `Criterion.IsSettled`: Operands are payloads or criteria, as a reader would
  take them.
* `Criterion.IsRead`: The same, but operands that are criteria need no fields.
* `Criterion.NestedHaveFields`: Operands that are criteria have fields.
* `Criterion.MembersFit`: Every member of a criterion fits.
* `Criterion.wireMembers`: The members that a criterion is written with.
* `Criterion.IsWrittenAs`: A criterion, and a payload that it is written as and
  read from.

## Theorems

* `Operator.find?_wire`, `CustomType.find?_wire`: Words are read from their wire
  forms.
* `Criterion.fitMembers_eq_fits_iff`: A criterion fits when its members do.
* `Criterion.isRead_of_fitTo`, `Criterion.isSettled_of_fitTo`: What is read from a
  payload.
* `Criterion.membersFit_of_wireMembers`: Written members fit.
* `Criterion.exists_wire_of_literal`: A criterion is read with the wire form of its
  operand.
* `Criterion.IsSettled.exists_isWrittenAs`: A settled criterion is written and
  read again.
-/

namespace Criteria

open Fitted

section Scalars

/-- An operator is read from its wire form. -/
theorem Operator.find?_wire (op : Operator) : Operator.vocabulary.find? op.wire = some op := by
  cases op <;> decide +kernel

/-- The type of a criterion is read from its wire form. -/
theorem CustomType.find?_wire (t : CustomType) : CustomType.vocabulary.find? t.wire = some t := by
  cases t <;> decide +kernel

theorem fitOperator_text {s : String} {op : Operator} (h : Operator.vocabulary.find? s = some op) :
    fitOperator (.text s) = fits op := by
  unfold fitOperator
  -- Which words there are does not matter once the word is found.
  generalize Operator.vocabulary = words at h ⊢
  simp only [Value.text?, h]

theorem fitCustomType_text {s : String} {t : CustomType}
    (h : CustomType.vocabulary.find? s = some t) : fitCustomType (.text s) = fits t := by
  unfold fitCustomType
  generalize CustomType.vocabulary = words at h ⊢
  simp only [Value.text?, h]

/-- Parameters are read from a table with text keys as they are. -/
theorem fitParameters_table (es : List (String × Value)) :
    fitParameters (.table es) = fits es := by
  rw [Value.table, fitParameters]
  induction es with
  | nil => rfl
  | cons e es ih =>
      rw [List.map_cons, List.foldr_cons, ih]
      rfl

/-- What is read as parameters of a payload has distinct keys and payloads. -/
theorem holdsPayloads_of_fitParameters {v : Value} {ps : List (String × Value)} (hv : v.IsJson)
    (h : fitParameters v = fits ps) :
    (ps.map Prod.fst).Nodup ∧ ∀ e ∈ ps, e.2.IsJson := by
  cases hv with
  | null =>
      rw [fitParameters, fits.injEq] at h
      rw [← h]
      exact ⟨List.nodup_nil, fun e he => absurd he List.not_mem_nil⟩
  | table es hkeys hes =>
      rw [fitParameters_table, fits.injEq] at h
      rw [← h]
      exact ⟨hkeys, hes⟩
  | _ => simp only [fitParameters, misfit, reduceCtorEq] at h

/-- Parameters that are payloads are their own wire form. -/
theorem wireTable_eq_ok {ps : List (String × Value)} (h : ∀ e ∈ ps, e.2.IsJson) :
    wireTable ps = .ok (.table ps) := by
  rw [wireTable, Value.wireFields_eq_ok fun e he => Value.wire_eq_ok (h e he)]
  rfl

end Scalars

namespace Criterion

/-- Parameters and arguments are payloads. -/
structure HoldsPayloads (c : Criterion) : Prop where
  keys : (c.parameters.map Prod.fst).Nodup
  parameters : ∀ e ∈ c.parameters, e.2.IsJson
  arguments : ∀ a ∈ c.arguments, a.IsJson
  composite : ∀ nodes ∈ c.composite, ∀ n ∈ nodes, n.IsJson

/-- Operands are payloads or criteria, as a reader would take them. -/
inductive IsSettled : Criterion → Prop
  | literal {c : Criterion} {v : Value} (hoperand : c.operand = .literal v) (hv : v.IsJson)
      (hplain : c.op.isQuantifier = true → isCriterionTable v = false) (hc : c.HoldsPayloads)
      (hfilters : ∀ f ∈ c.filters, IsSettled f) : IsSettled c
  | nested {c n : Criterion} (hoperand : c.operand = .nested n) (hop : c.op.isQuantifier = true)
      (hfield : n.field ≠ none) (hn : IsSettled n) (hc : c.HoldsPayloads)
      (hfilters : ∀ f ∈ c.filters, IsSettled f) : IsSettled c

/-- Operands are payloads, or criteria under quantifiers, whether or not these have
    fields. -/
inductive IsRead : Criterion → Prop
  | literal {c : Criterion} {v : Value} (hoperand : c.operand = .literal v) (hv : v.IsJson)
      (hplain : c.op.isQuantifier = true → isCriterionTable v = false) (hc : c.HoldsPayloads)
      (hfilters : ∀ f ∈ c.filters, IsRead f) : IsRead c
  | nested {c n : Criterion} (hoperand : c.operand = .nested n) (hop : c.op.isQuantifier = true)
      (hn : IsRead n) (hc : c.HoldsPayloads) (hfilters : ∀ f ∈ c.filters, IsRead f) : IsRead c

/-- Operands of quantifiers that are criteria have fields, at any depth. -/
def NestedHaveFields (c : Criterion) : Prop :=
  ∀ d ∈ c.walk, d.op.isQuantifier = true → ∀ n, d.operand = .nested n → n.field ≠ none

section Walk

theorem mem_walk_self (c : Criterion) : c ∈ c.walk := by
  cases c with
  | mk => exact List.mem_cons_self

/-- The criteria in an operand are among those in the criterion. -/
theorem mem_walk_of_nested {c n d : Criterion} (h : c.operand = .nested n) (hd : d ∈ n.walk) :
    d ∈ c.walk := by
  cases c with
  | mk =>
      cases h
      exact List.mem_cons_of_mem _ (List.mem_append_left _ hd)

theorem mem_walkAll {cs : List Criterion} {f d : Criterion} (hf : f ∈ cs) (hd : d ∈ f.walk) :
    d ∈ walkAll cs := by
  induction cs with
  | nil => exact absurd hf List.not_mem_nil
  | cons c cs ih =>
      rw [walkAll, List.mem_append]
      rcases List.mem_cons.mp hf with rfl | hf
      · exact .inl hd
      · exact .inr (ih hf)

/-- The criteria in a further criterion are among those in the criterion. -/
theorem mem_walk_of_filter {c f d : Criterion} (hf : f ∈ c.filters) (hd : d ∈ f.walk) :
    d ∈ c.walk := by
  cases c with
  | mk => exact List.mem_cons_of_mem _ (List.mem_append_right _ (mem_walkAll hf hd))

/-- What is read is settled where nested criteria have fields. -/
theorem IsRead.isSettled {c : Criterion} (h : c.IsRead) (hnested : c.NestedHaveFields) :
    c.IsSettled := by
  induction h with
  | literal hoperand hv hplain hc _ ih =>
      exact .literal hoperand hv hplain hc fun f hf =>
        ih f hf fun e he => hnested e (mem_walk_of_filter hf he)
  | @nested c n hoperand hop _ hc _ ihn ih =>
      refine .nested hoperand hop (hnested c (mem_walk_self c) hop n hoperand) (ihn ?_) hc ?_
      · exact fun e he => hnested e (mem_walk_of_nested hoperand he)
      · exact fun f hf => ih f hf fun e he => hnested e (mem_walk_of_filter hf he)

end Walk

section Reading

/-- Every member of a criterion fits, its operand as it is. -/
structure MembersFit (fit : Value → Fitted Criterion) (ms : Members) (c : Criterion) : Prop where
  field : ms.fit "field" "field" (fits none) fitText? = fits c.field
  op : ms.fit "operator" "operator" (fits .equal) fitOperator = fits c.op
  operand : ms.fit "value" "value" (fits (.literal .null)) (fits <| .literal ·) = fits c.operand
  logic : ms.fit "logic" "logic" (fits .and) (unlessNull .and (fitWord Logic.vocabulary)) =
    fits c.logic
  filters : ms.fit "filters" "filters" (fits []) (unlessNull [] (fitAll fit)) = fits c.filters
  type : ms.fit "customType" "custom_type" (fits .simple) fitCustomType = fits c.type
  parameters : ms.fit "customParameters" "custom_parameters" (fits []) fitParameters =
    fits c.parameters
  specification : ms.fit "specificationName" "specification_name" (fits none) fitText? =
    fits c.specification
  arguments : ms.fit "specificationArguments" "specification_arguments" (fits []) fitArguments =
    fits c.arguments
  composite : ms.fit "compositeSpecification" "composite_specification" (fits none) fitComposite =
    fits c.composite

/-- A criterion fits when its members do. -/
theorem fitMembers_eq_fits_iff {fit : Value → Fitted Criterion} {ms : Members} {c : Criterion} :
    fitMembers fit ms = fits c ↔ MembersFit fit ms c := by
  simp only [fitMembers, seq_eq_fits_iff, map_eq_fits_iff]
  constructor
  · rintro ⟨_, _, ⟨_, _, ⟨_, _, ⟨_, _, ⟨_, _, ⟨_, _, ⟨_, _, ⟨_, _, ⟨_, _, ⟨field, hfield, rfl⟩,
      hop, rfl⟩, hoperand, rfl⟩, hlogic, rfl⟩, hfilters, rfl⟩, htype, rfl⟩, hparameters, rfl⟩,
      hspecification, rfl⟩, harguments, rfl⟩, hcomposite, rfl⟩
    exact ⟨hfield, hop, hoperand, hlogic, hfilters, htype, hparameters, hspecification, harguments,
      hcomposite⟩
  · intro h
    cases c
    exact ⟨_, _, ⟨_, _, ⟨_, _, ⟨_, _, ⟨_, _, ⟨_, _, ⟨_, _, ⟨_, _, ⟨_, _, ⟨_, h.field, rfl⟩,
      h.op, rfl⟩, h.operand, rfl⟩, h.logic, rfl⟩, h.filters, rfl⟩, h.type, rfl⟩, h.parameters,
      rfl⟩, h.specification, rfl⟩, h.arguments, rfl⟩, h.composite, rfl⟩

/-- Members of payloads that fit hold payloads. -/
theorem MembersFit.holdsPayloads {fit : Value → Fitted Criterion} {ms : Members} {c : Criterion}
    (hms : ∀ e ∈ ms, e.2.IsJson) (h : MembersFit fit ms c) : c.HoldsPayloads := by
  -- Parameters, arguments and the nodes below are read from parts of
  -- the value, so they are JSON again.
  have hparameters : (c.parameters.map Prod.fst).Nodup ∧ ∀ e ∈ c.parameters, e.2.IsJson := by
    refine Members.property_of_fit
      (P := fun ps => (ps.map Prod.fst).Nodup ∧ ∀ e ∈ ps, e.2.IsJson) hms ?_ ?_ h.parameters
    · intro ps hps
      rw [← fits.inj hps]
      exact ⟨List.nodup_nil, fun e he => absurd he List.not_mem_nil⟩
    · exact fun v hv ps hps => holdsPayloads_of_fitParameters hv hps
  have hcomposite : ∀ nodes ∈ c.composite, ∀ n ∈ nodes, n.IsJson := by
    refine Members.property_of_fit (P := fun o => ∀ nodes ∈ o, ∀ n ∈ nodes, n.IsJson) hms ?_ ?_
      h.composite
    · intro o ho
      rw [← fits.inj ho]
      exact fun nodes hnodes => absurd hnodes (by simp only [Option.mem_def, reduceCtorEq,
        not_false_eq_true])
    · exact fun v hv o ho => isJson_of_fitComposite hv ho
  exact ⟨hparameters.1, hparameters.2, isJson_of_fit_arguments hms h.arguments, hcomposite⟩

/-- The operand of a criterion is at first what was given, or null. -/
theorem MembersFit.exists_literal {fit : Value → Fitted Criterion} {ms : Members} {c : Criterion}
    (hms : ∀ e ∈ ms, e.2.IsJson) (h : MembersFit fit ms c) :
    ∃ v, c.operand = .literal v ∧ v.IsJson := by
  refine Members.property_of_fit (P := fun o => ∃ v, o = .literal v ∧ v.IsJson) hms ?_ ?_ h.operand
  · exact fun o ho => ⟨.null, (fits.inj ho).symm, .null⟩
  · exact fun v hv o ho => ⟨v, (fits.inj ho).symm, hv⟩

/-- The induction is on how far the reader counts down; nested and further criteria
    are read one level down. -/
theorem isRead_of_fitTo {fuel : Nat} {v : Value} {c : Criterion} (hv : v.IsJson)
    (h : fitTo fuel v = fits c) : c.IsRead := by
  induction fuel generalizing v c with
  | zero => simp only [fitTo, misfit, reduceCtorEq] at h
  | succ fuel ih =>
      -- A criterion is read in two steps: its members, with the operand
      -- as a literal, and then the operand.
      rcases andThen_eq_fits_iff.mp h with ⟨d, hd, hsettle⟩
      rcases andThen_eq_fits_iff.mp hd with ⟨ms, hms, hd⟩
      have hfit := fitMembers_eq_fits_iff.mp hd
      have hjson := isJson_of_mem_members hv hms
      have hholds := hfit.holdsPayloads hjson
      rcases hfit.exists_literal hjson with ⟨x, hx, hxjson⟩
      rw [settleWith, hx] at hsettle
      dsimp only at hsettle
      -- The further criteria are the same before and after the operand is looked at.
      have hfilters : ∀ f ∈ d.filters, f.IsRead := by
        intro f hf
        rcases Members.exists_of_fit_list hjson hfit.filters f hf with ⟨w, hw, hwf⟩
        exact ih hw hwf
      split at hsettle
      · rename_i htable
        rw [Bool.and_eq_true] at htable
        rcases map_eq_fits_iff.mp hsettle with ⟨n, hn, rfl⟩
        -- The operand has become the criterion that the table stands for.
        exact .nested rfl htable.1 (ih hxjson hn)
          ⟨hholds.keys, hholds.parameters, hholds.arguments, hholds.composite⟩ hfilters
      · rename_i hliteral
        rw [← fits.inj hsettle]
        refine .literal hx hxjson ?_ hholds hfilters
        intro hop
        rw [hop, Bool.true_and, Bool.not_eq_true] at hliteral
        exact hliteral

/-- What is read from a payload is settled where nested criteria have fields. -/
theorem isSettled_of_fitTo {fuel : Nat} {v : Value} {c : Criterion} (hv : v.IsJson)
    (h : fitTo fuel v = fits c) (hnested : c.NestedHaveFields) : c.IsSettled :=
  (isRead_of_fitTo hv h).isSettled hnested

end Reading

section Writing

/-- The members that a criterion is written with, given the wire forms of its
    operand, its further criteria and its trees. -/
def wireMembers (c : Criterion) (operand : Option Value) (filters : List Value)
    (composite : Option Value) : List (String × Option Value) := [
  ("field", c.field.map .text),
  ("operator", some (.text c.op.wire)),
  ("value", operand),
  ("logic", some (.text c.logic.wire)),
  ("filters", some (.list filters)),
  ("customType", some (.text c.type.wire)),
  ("customParameters", some (.table c.parameters)),
  ("specificationName", c.specification.map .text),
  ("specificationArguments", some (.list c.arguments)),
  ("compositeSpecification", composite)]

/-- A criterion, and a payload that it is written as and read from. -/
structure IsWrittenAs (c : Criterion) (w : Value) : Prop where
  wire_eq : c.wire = .ok w
  isJson : w.IsJson
  isCriterionTable_of_field : c.field ≠ none → isCriterionTable w = true
  fits_of_depth_lt : ∀ fuel, w.depth < fuel → fitTo fuel w = fits c

/-- The wire forms of criteria, criterion by criterion. -/
theorem wireAll_eq_ok {cs : List Criterion} {ws : List Value}
    (h : List.Forall₂ IsWrittenAs cs ws) : wireAll cs = .ok ws := by
  induction h with
  | nil => rfl
  | cons hc _ ih =>
      rw [wireAll, hc.wire_eq, ih]
      rfl

variable {c : Criterion} {operand composite : Option Value} {ws : List Value}

/-- A criterion is written as the table of its members. -/
theorem wire_eq_ok (hc : c.HoldsPayloads) (hoperand : wireOperand c.operand = .ok operand)
    (hfilters : wireAll c.filters = .ok ws)
    (hcomposite : wireComposite c.composite = .ok composite) :
    c.wire = .ok (present (c.wireMembers operand ws composite)) := by
  cases c with
  | mk =>
      rw [wire, hoperand, hfilters, hcomposite, wireTable_eq_ok hc.parameters,
        wireList_eq_ok hc.arguments]
      rfl

/-- The members that a criterion is written with are payloads. -/
theorem isJson_of_mem_wireMembers (hc : c.HoldsPayloads) (hoperand : ∀ v ∈ operand, v.IsJson)
    (hfilters : ∀ w ∈ ws, w.IsJson) (hcomposite : ∀ v ∈ composite, v.IsJson) (k : String)
    (v : Value) (h : (k, some v) ∈ c.wireMembers operand ws composite) : v.IsJson := by
  have htext {o : Option String} (ho : some v = o.map .text) : v.IsJson := by
    rcases Option.map_eq_some_iff.mp ho.symm with ⟨s, -, rfl⟩
    exact .text s
  simp only [wireMembers, List.mem_cons, Prod.mk.injEq, Option.some.injEq, List.not_mem_nil,
    or_false] at h
  -- One case for each of the ten members that are written.
  rcases h with ⟨-, h⟩ | ⟨-, h⟩ | ⟨-, h⟩ | ⟨-, h⟩ | ⟨-, h⟩ | ⟨-, h⟩ | ⟨-, h⟩ | ⟨-, h⟩ | ⟨-, h⟩ |
    ⟨-, h⟩
  · exact htext h
  · exact h ▸ .text c.op.wire
  · exact hoperand v h.symm
  · exact h ▸ .text c.logic.wire
  · exact h ▸ .list ws hfilters
  · exact h ▸ .text c.type.wire
  · exact h ▸ .table c.parameters hc.keys hc.parameters
  · exact htext h
  · exact h ▸ .list c.arguments hc.arguments
  · exact hcomposite v h.symm

theorem nodup_wireMembers : ((c.wireMembers operand ws composite).map Prod.fst).Nodup := by
  show ["field", "operator", "value", "logic", "filters", "customType", "customParameters",
    "specificationName", "specificationArguments", "compositeSpecification"].Nodup
  decide

theorem lowerFirst_wireMembers :
    ∀ k ∈ (c.wireMembers operand ws composite).map Prod.fst, Text.lowerFirst k = k := by
  show ∀ k ∈ ["field", "operator", "value", "logic", "filters", "customType", "customParameters",
    "specificationName", "specificationArguments", "compositeSpecification"], Text.lowerFirst k = k
  decide

/-- Written members fit; the operand fits as what was written for it. -/
theorem membersFit_of_wireMembers {fit : Value → Fitted Criterion} {ms : Members}
    (hlookup : ∀ k, ms.lookup k = ((c.wireMembers operand ws composite).lookup k).join)
    (hfilters : List.Forall₂ (fun w f => fit w = fits f) ws c.filters)
    (hnone : composite = none → c.composite = none)
    (hcomposite : ∀ w ∈ composite, fitComposite w = fits c.composite) :
    MembersFit fit ms { c with operand := .literal (operand.getD .null) } := by
  have htext {name other : String} {o : Option String} (h : ms.lookup name = o.map .text)
      (hother : o = none → ms.lookup other = none) :
      ms.fit name other (fits none) fitText? = fits o := by
    refine Members.fit_eq_of_lookup h (fun ho => hother (Option.map_eq_none_iff.mp ho)) ?_ ?_
    · intro v hv
      rcases Option.map_eq_some_iff.mp hv with ⟨s, rfl, rfl⟩
      rfl
    · intro hv
      rw [Option.map_eq_none_iff.mp hv]
  have hfield : ms.lookup "field" = c.field.map .text := hlookup "field"
  have hoperand : ms.lookup "value" = operand := hlookup "value"
  -- The members are found by the names that they are written under, and read one after the other.
  refine ⟨?_, ?_, ?_, ?_, ?_, ?_, ?_, ?_, ?_, ?_⟩
  · exact htext hfield fun ho => by rw [hfield, ho, Option.map_none]
  · rw [Members.fit_of_lookup (hlookup "operator"), beneath_eq_fits_iff]
    exact fitOperator_text c.op.find?_wire
  · refine Members.fit_eq_of_lookup hoperand hoperand.trans ?_ ?_
    · intro v hv
      rw [hv, Option.getD_some]
    · intro hv
      rw [hv, Option.getD_none]
  · rw [Members.fit_of_lookup (hlookup "logic"), beneath_eq_fits_iff, unlessNull_of_isNull rfl]
    exact fitLogic_wire c.logic
  · rw [Members.fit_of_lookup (hlookup "filters"), beneath_eq_fits_iff, unlessNull_of_isNull rfl]
    exact fitAll_eq_fits_iff.mpr ⟨ws, rfl, hfilters⟩
  · rw [Members.fit_of_lookup (hlookup "customType"), beneath_eq_fits_iff]
    exact fitCustomType_text c.type.find?_wire
  · rw [Members.fit_of_lookup (hlookup "customParameters"), beneath_eq_fits_iff]
    exact fitParameters_table c.parameters
  · exact htext (hlookup "specificationName") fun _ => hlookup "specification_name"
  · rw [Members.fit_of_lookup (hlookup "specificationArguments"), beneath_eq_fits_iff]
    exact fitArguments_list c.arguments
  · refine Members.fit_eq_of_lookup (hlookup "compositeSpecification")
      (fun _ => hlookup "composite_specification") hcomposite ?_
    intro ho
    rw [hnone ho]

/-- A table with a field is taken for a criterion. -/
theorem isCriterionTable_present {entries : List (String × Option Value)} {v : Value}
    (h : ("field", some v) ∈ entries) : isCriterionTable (present entries) = true := by
  rw [present, Value.table, isCriterionTable, List.any_eq_true]
  refine ⟨(.text "field", v), List.mem_map.mpr ⟨("field", v), mem_present_iff.mpr h, rfl⟩, ?_⟩
  show (Text.lower "field" == "field") = true
  decide +kernel

/-- What is written for a criterion is read as what is settled of it, its operand as it
    was written. -/
theorem fitTo_wireMembers {fuel : Nat} {d : Criterion}
    (hfilters : List.Forall₂ IsWrittenAs c.filters ws)
    (hnone : composite = none → c.composite = none)
    (hcomposite : ∀ w ∈ composite, fitComposite w = fits c.composite)
    (hfuel : (present (c.wireMembers operand ws composite)).depth ≤ fuel)
    (hsettle : settleWith (fitTo fuel) { c with operand := .literal (operand.getD .null) } =
      fits d) :
    fitTo (fuel + 1) (present (c.wireMembers operand ws composite)) = fits d := by
  -- The keys that are written are distinct and in their normal form.
  rcases membersOf_present (c.wireMembers operand ws composite) nodup_wireMembers
    lowerFirst_wireMembers with ⟨ms, hms, hlookup⟩
  refine andThen_eq_fits_iff.mpr ⟨_, andThen_eq_fits_iff.mpr ⟨ms, hms,
    fitMembers_eq_fits_iff.mpr (membersFit_of_wireMembers hlookup ?_ hnone hcomposite)⟩, hsettle⟩
  -- The list of the further criteria lies between them and the criterion.
  have hlist : (Value.list ws).depth < fuel := by
    have hlt := depth_lt_present (c.wireMembers operand ws composite)
      (k := "filters") (v := .list ws) (by simp [wireMembers])
    omega
  exact forall₂_imp_of_mem hfilters.flip fun w hw f _ hf =>
    hf.fits_of_depth_lt fuel (Nat.lt_trans (Value.depth_lt_list hw) hlist)

/-- A criterion is written and read again if its operand is, its further criteria
    and its trees. -/
theorem isWrittenAs_present (operand : Option Value) (hc : c.HoldsPayloads)
    (hwire : wireOperand c.operand = .ok operand)
    (hoperand : ∀ v ∈ operand, v.IsJson) (hfilters : List.Forall₂ IsWrittenAs c.filters ws)
    (hsettle : ∀ fuel, (∀ v ∈ operand, v.depth < fuel) →
      settleWith (fitTo fuel) { c with operand := .literal (operand.getD .null) } = fits c) :
    ∃ w, c.IsWrittenAs w := by
  rcases exists_wireComposite hc.composite with ⟨composite, hcomposite, hnone, hread⟩
  have hws : ∀ w ∈ ws, w.IsJson := by
    intro w hw
    rcases forall₂_exists_left hfilters hw with ⟨f, -, hf⟩
    exact hf.isJson
  refine ⟨present (c.wireMembers operand ws composite), ?_, ?_, ?_, ?_⟩
  · exact wire_eq_ok hc hwire (wireAll_eq_ok hfilters) hcomposite
  · exact isJson_present nodup_wireMembers
      (isJson_of_mem_wireMembers hc hoperand hws fun w hw => (hread w hw).1)
  -- A criterion with a field can be told from any other table.
  · intro hfield
    rcases Option.ne_none_iff_exists'.mp hfield with ⟨field, hfield⟩
    exact isCriterionTable_present (v := .text field) (by simp [wireMembers, hfield])
  -- The operand lies one level deeper, so it is read with less fuel.
  · intro fuel hfuel
    cases fuel with
    | zero => omega
    | succ fuel =>
        refine fitTo_wireMembers hfilters hnone (fun w hw => (hread w hw).2) (by omega)
          (hsettle fuel fun v hv => ?_)
        have hlt := depth_lt_present (c.wireMembers operand ws composite)
          (k := "value") (v := v) (by simp [wireMembers, Option.mem_def.mp hv])
        omega

/-- A criterion that compares a field with a value is read with the wire form of the
    value. -/
theorem exists_wire_of_literal {v w : Value} (hc : c.HoldsPayloads)
    (hfilters : List.Forall₂ IsWrittenAs c.filters ws) (hop : c.op.isQuantifier = false)
    (hoperand : c.operand = .literal v) (hnull : v.isNull = false) (hw : v.wire = .ok w) :
    ∃ t, c.wire = .ok t ∧ fit t = fits { c with operand := .literal w } := by
  rcases exists_wireComposite hc.composite with ⟨composite, hcomposite, hnone, hread⟩
  refine ⟨present (c.wireMembers (some w) ws composite), ?_, ?_⟩
  · refine wire_eq_ok hc ?_ (wireAll_eq_ok hfilters) hcomposite
    rw [hoperand, wireOperand, wireUnlessNull, hnull, if_neg Bool.false_ne_true, hw]
    rfl
  · refine fitTo_wireMembers hfilters hnone (fun w hw => (hread w hw).2) (Nat.le_refl _) ?_
    rw [settleWith, Option.getD_some]
    dsimp only
    rw [hop, Bool.false_and, if_neg Bool.false_ne_true]

theorem with_operand {o : Operand Criterion} (h : c.operand = o) : { c with operand := o } = c := by
  subst h
  cases c with
  | mk => rfl

/-- A settled criterion is written and read again. -/
theorem IsSettled.exists_isWrittenAs {c : Criterion} (h : c.IsSettled) : ∃ w, c.IsWrittenAs w := by
  -- Induction on the criterion. The operand is a literal or another criterion.
  induction h with
  | @literal c v hoperand hv hplain hc hfilters ih =>
      rcases exists_forall₂ ih with ⟨ws, hws⟩
      -- A literal is kept by the second step: by assumption it is no table of a criterion.
      have hsettle (fuel : Nat) : settleWith (fitTo fuel) c = fits c := by
        rw [settleWith, hoperand]
        dsimp only
        rw [if_neg]
        intro htable
        rw [Bool.and_eq_true] at htable
        exact absurd htable.2 (by rw [hplain htable.1]; exact Bool.false_ne_true)
      by_cases hnull : v.isNull = true
      · -- A null is left out, and null is what is read in its place.
        refine isWrittenAs_present none hc ?_ ?_ hws ?_
        · rw [hoperand, wireOperand, wireUnlessNull, if_pos hnull]
        · exact fun w hw => absurd hw (by simp only [Option.mem_def, reduceCtorEq,
            not_false_eq_true])
        · intro fuel _
          cases v with
          | null =>
              rw [Option.getD_none, with_operand hoperand]
              exact hsettle fuel
          | _ => simp only [Value.isNull, Bool.false_eq_true] at hnull
      · refine isWrittenAs_present (some v) hc ?_ ?_ hws ?_
        · rw [hoperand, wireOperand, wireUnlessNull, if_neg hnull, Value.wire_eq_ok hv]
          rfl
        · exact fun w hw => Option.some.inj hw ▸ hv
        · intro fuel _
          rw [Option.getD_some, with_operand hoperand]
          exact hsettle fuel
  | @nested c n hoperand hop hfield hn hc hfilters ihn ih =>
      rcases exists_forall₂ ih with ⟨ws, hws⟩
      rcases ihn with ⟨w, hw⟩
      -- The field of the nested criterion is what its table is recognised by.
      refine isWrittenAs_present (some w) hc ?_ ?_ hws ?_
      · rw [hoperand, wireOperand, hw.wire_eq]
        rfl
      · exact fun v hv => Option.some.inj hv ▸ hw.isJson
      · intro fuel hfuel
        rw [Option.getD_some, settleWith]
        dsimp only
        rw [hop, hw.isCriterionTable_of_field hfield, Bool.and_self, if_pos rfl,
          hw.fits_of_depth_lt fuel (hfuel w rfl)]
        exact congrArg fits (with_operand hoperand)

end Writing

end Criterion

end Criteria
