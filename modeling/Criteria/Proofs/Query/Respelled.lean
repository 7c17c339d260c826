import Criteria.Proofs.Query.RoundTrip
import Criteria.Proofs.Query.Spelling

/-!
# Queries in Other Spellings

A payload stands for the same query in every spelling of its keys.

Reading a payload looks for members by their names and reads each of them as what it
should be, so it is enough that a member is found alike in both spellings and that
what is read from it agrees. The second is the statement itself, one level down, and
the induction is on how far the reader counts down.

The operand of a criterion takes more care. It is kept as it is when the members are
put together and looked at after that, so under a quantifier two criteria with
respelled operands are not yet equal. They become equal when both operands are read as
criteria, which happens for both or for neither.

## Main definitions

* `Fitted.Agrees`: Two readings give the same result, or both give none.
* `Criterion.MembersAgree`: The members of two criteria agree, operands apart.

## Theorems

* `MemberPlace.Found.agrees`: A member is read alike.
* `agrees_fitNodeTo`: Nodes of composite specifications.
* `Criterion.agrees_fitTo`: Criteria.
* `Query.ofPayload_respelled`: Queries.
-/

namespace Criteria

open Fitted

variable {α β : Type}

/-- Two readings give the same result, or both give none. -/
def Fitted.Agrees (a b : Fitted α) : Prop :=
  ∀ x, a = fits x ↔ b = fits x

namespace Fitted.Agrees

variable {a b : Fitted α}

theorem refl (a : Fitted α) : a.Agrees a :=
  fun _ => Iff.rfl

theorem symm (h : a.Agrees b) : b.Agrees a :=
  fun x => (h x).symm

theorem eq_or_misfits (h : a.Agrees b) :
    (∃ x, a = fits x ∧ b = fits x) ∨ ∃ es fs, a = misfits es ∧ b = misfits fs := by
  cases a with
  | fits x => exact .inl ⟨x, rfl, (h x).mp rfl⟩
  | misfits es =>
      cases b with
      | fits y => exact absurd ((h y).mpr rfl) nofun
      | misfits fs => exact .inr ⟨es, fs, rfl, rfl⟩

theorem map (h : a.Agrees b) (f : α → β) : (f <$> a).Agrees (f <$> b) := by
  intro y
  rw [map_eq_fits_iff, map_eq_fits_iff]
  exact exists_congr fun x => and_congr_left fun _ => h x

theorem beneath (h : a.Agrees b) (step other : String) :
    (a.beneath step).Agrees (b.beneath other) := by
  intro x
  rw [beneath_eq_fits_iff, beneath_eq_fits_iff]
  exact h x

theorem weightier {a b c d : Fitted (Weighed α)} (hac : a.Agrees c) (hbd : b.Agrees d) :
    (weightier a b).Agrees (weightier c d) := by
  rcases hac.eq_or_misfits with ⟨x, rfl, rfl⟩ | ⟨es, es', rfl, rfl⟩ <;>
    rcases hbd.eq_or_misfits with ⟨y, rfl, rfl⟩ | ⟨fs, fs', rfl, rfl⟩
  · exact refl _
  · exact refl _
  · exact refl _
  · exact fun x => iff_of_false nofun nofun

end Fitted.Agrees

section Values

variable {v v' : Value} {place : Place}

theorem Respelled.isNull_eq (h : Respelled place v v') : v'.isNull = v.isNull := by
  induction place generalizing v v' with
  | operand =>
      cases h with
      | same => rfl
      | object => rfl
      | operand _ h =>
          cases h with
          | same => rfl
          | object => rfl
  | _ => cases h <;> rfl

theorem agrees_unlessNull {default : α} {fit : Value → Fitted α}
    (hfit : ∀ v v', Respelled place v v' → (fit v).Agrees (fit v')) (h : Respelled place v v') :
    (unlessNull default fit v).Agrees (unlessNull default fit v') := by
  rw [unlessNull, unlessNull, h.isNull_eq]
  split
  · exact .refl _
  · exact hfit v v' h

/-- Elements that are read alike make lists that are read alike. -/
theorem forall₂_agrees {fit : Value → Fitted β} {xs xs' : List Value} {bs : List β}
    (h : List.Forall₂ (fun x x' => (fit x).Agrees (fit x')) xs xs') :
    List.Forall₂ (fun x b => fit x = fits b) xs bs ↔
      List.Forall₂ (fun x b => fit x = fits b) xs' bs := by
  induction h generalizing bs with
  | nil => rfl
  | cons hx _ ih =>
      cases bs with
      | nil => simp
      | cons b bs => rw [List.forall₂_cons, List.forall₂_cons, hx b, ih]

theorem agrees_fitAll {fit : Value → Fitted β}
    (hfit : ∀ v v', Respelled place v v' → (fit v).Agrees (fit v'))
    (h : Respelled (.list place) v v') : (fitAll fit v).Agrees (fitAll fit v') := by
  intro bs
  rw [fitAll_eq_fits_iff, fitAll_eq_fits_iff]
  have helements {xs xs' : List Value} (h : RespelledAll place xs xs') :
      List.Forall₂ (fun x x' => (fit x).Agrees (fit x')) xs xs' :=
    (Respelled.forall₂_elements h).imp hfit
  -- A value that is no list is the same on both sides; lists are respelled item by item.
  cases h with
  | same => rfl
  | object => rfl
  | list h =>
      simp only [Value.elements?, Option.some.injEq, exists_eq_left']
      exact forall₂_agrees (helements h)
  | tuple h =>
      simp only [Value.elements?, Option.some.injEq, exists_eq_left']
      exact forall₂_agrees (helements h)

theorem agrees_fitList {fit : Value → Fitted β}
    (hfit : ∀ v v', Respelled place v v' → (fit v).Agrees (fit v'))
    (h : Respelled (.list place) v v') :
    (Query.fitList fit v).Agrees (Query.fitList fit v') :=
  agrees_unlessNull (fun _ _ h => agrees_fitAll hfit h) h

end Values

section Found

variable {ms ms' : Members} {m : MemberPlace} {default : Fitted α} {read : Value → Fitted α}

theorem Members.fit_of_find {name other : String} {v : Value}
    (h : (ms.find name other).2 = some v) :
    (ms.fit name other default read).Agrees (read v) := by
  intro a
  rw [fit]
  split
  · rename_i found w hfind
    rw [hfind] at h
    rw [beneath_eq_fits_iff, Option.some.inj h]
  · rename_i found hfind
    rw [hfind] at h
    cases h

theorem Members.fit_of_find_eq_none {name other : String} (h : (ms.find name other).2 = none) :
    (ms.fit name other default read).Agrees default := by
  intro a
  rw [fit]
  split
  · rename_i found w hfind
    rw [hfind] at h
    cases h
  · exact beneath_eq_fits_iff

/-- A member that is found alike is read alike. -/
theorem MemberPlace.Found.agrees (h : m.Found ms ms') (default : Fitted α)
    {read : Value → Fitted α}
    (hread : ∀ v v', Respelled m.place v v' → (read v).Agrees (read v')) :
    (ms.fit m.name m.other default read).Agrees (ms'.fit m.name m.other default read) := by
  intro a
  rcases h with ⟨hnone, hnone'⟩ | ⟨v, v', hv, hv', hrespelled⟩
  · rw [Members.fit_of_find_eq_none hnone a, Members.fit_of_find_eq_none hnone' a]
  · rw [Members.fit_of_find hv a, Members.fit_of_find hv' a]
    exact hread v v' hrespelled a

/-- A member of no particular form is the same in both spellings. -/
theorem MemberPlace.Found.agrees_untyped (h : m.Found ms ms') (hplace : m.place = .untyped)
    (default : Fitted α) (read : Value → Fitted α) :
    (ms.fit m.name m.other default read).Agrees (ms'.fit m.name m.other default read) := by
  refine h.agrees default fun v v' hv => ?_
  rw [hplace] at hv
  rw [hv.eq_of_untyped]
  exact .refl _

/-- A member of one name is given in both spellings or in neither. -/
theorem MemberPlace.Found.isSome_lookup (h : m.Found ms ms') (hname : m.other = m.name) :
    (ms'.lookup m.name).isSome = (ms.lookup m.name).isSome := by
  have hfind (ms : Members) : (ms.find m.name m.name).2 = ms.lookup m.name := by
    rw [Members.find]
    cases ms.lookup m.name with
    | some v => rfl
    | none => rfl
  rw [MemberPlace.Found, hname, hfind, hfind] at h
  rcases h with ⟨hnone, hnone'⟩ | ⟨v, v', hv, hv', -⟩
  · rw [hnone, hnone']
  · rw [hv, hv']
    rfl

/-- As many members are given in both spellings. -/
theorem Members.count_eq {names : List String}
    (h : ∀ n ∈ names, (ms'.lookup n).isSome = (ms.lookup n).isSome) :
    ms'.count names = ms.count names := by
  rw [Members.count, Members.count, List.filter_congr h]

end Found

section Objects

variable {v v' : Value}

/-- Objects are read alike if their members are. -/
theorem agrees_membersOf {place : Place} {read : Members → Fitted α} (h : Respelled place v v')
    (hplace : ∀ p, place ≠ .list p) (hoperand : place ≠ .operand)
    (hread : ∀ es es', (∀ m ∈ place.members es, m.Found (.ofEntries es) (.ofEntries es')) →
      (read (.ofEntries es)).Agrees (read (.ofEntries es'))) :
    ((membersOf v).andThen read).Agrees ((membersOf v').andThen read) := by
  cases h with
  | same => exact .refl _
  | object h honce honce' => exact hread _ _ fun m hm => Respelled.found h honce' hm
  | list => exact absurd rfl (hplace _)
  | tuple => exact absurd rfl (hplace _)
  | operand => exact absurd rfl hoperand

theorem OrderBy.agrees_fit (h : Respelled .ordering v v') :
    (OrderBy.fit v).Agrees (OrderBy.fit v') := by
  refine agrees_membersOf h nofun nofun fun es es'
    (hfound : ∀ m ∈ orderingMembers, m.Found (.ofEntries es) (.ofEntries es')) => ?_
  have hfield := (hfound (plainMember "field") (by decide)).agrees_untyped
    rfl misfit fitText
  have hdirection := (hfound (plainMember "direction") (by decide)).agrees_untyped
    rfl (fits .ascending) (fitWord Direction.vocabulary)
  intro o
  simp only [seq_eq_fits_iff, map_eq_fits_iff]
  exact exists_congr fun g => exists_congr fun d => and_congr
    (exists_congr fun f => and_congr_left fun _ => hfield f) (and_congr_left fun _ => hdirection d)

theorem agrees_fitLeaf (h : Respelled .node v v') : (fitLeaf v).Agrees (fitLeaf v') := by
  refine agrees_membersOf h nofun nofun fun es es'
    (hfound : ∀ m ∈ nodeMembers, m.Found (.ofEntries es) (.ofEntries es')) => ?_
  have hname := (hfound (plainMember "name") (by decide)).agrees_untyped
    rfl misfit fitText
  have harguments := (hfound (plainMember "arguments") (by decide)).agrees_untyped
    rfl (fits []) fitArguments
  -- The names that are known are counted too, since unknown keys are refused.
  have hcount : (Members.ofEntries es').count ["name", "arguments"] =
      (Members.ofEntries es).count ["name", "arguments"] := by
    refine Members.count_eq (List.forall_mem_cons.mpr ⟨?_, List.forall_mem_singleton.mpr ?_⟩)
    · exact (hfound (plainMember "name") (by decide)).isSome_lookup rfl
    · exact (hfound (plainMember "arguments") (by decide)).isSome_lookup rfl
  rw [hcount]
  refine Fitted.Agrees.map ?_ _
  -- The two results are compared piece by piece: a node fits when all its pieces do.
  intro n
  simp only [seq_eq_fits_iff, map_eq_fits_iff]
  exact exists_congr fun g => exists_congr fun d => and_congr
    (exists_congr fun f => and_congr_left fun _ => hname f) (and_congr_left fun _ => harguments d)

theorem agrees_fitGroup {fit : Value → Fitted (Weighed SpecNode)}
    (hfit : ∀ v v', Respelled .node v v' → (fit v).Agrees (fit v')) (h : Respelled .node v v') :
    (fitGroup fit v).Agrees (fitGroup fit v') := by
  refine agrees_membersOf h nofun nofun fun es es'
    (hfound : ∀ m ∈ nodeMembers, m.Found (.ofEntries es) (.ofEntries es')) => ?_
  have hlogic := (hfound (plainMember "logic") (by decide)).agrees_untyped
    rfl (fits .and) (fitWord Logic.vocabulary)
  -- The nodes below agree by assumption, each at its own place.
  have hnodes := (hfound ⟨"nodes", "nodes", .list .node⟩ (by decide)).agrees
    misfit fun v v' hv => agrees_fitAll hfit hv
  have hcount : (Members.ofEntries es').count ["logic", "nodes"] =
      (Members.ofEntries es).count ["logic", "nodes"] := by
    refine Members.count_eq (List.forall_mem_cons.mpr ⟨?_, List.forall_mem_singleton.mpr ?_⟩)
    · exact (hfound (plainMember "logic") (by decide)).isSome_lookup rfl
    · exact (hfound ⟨"nodes", "nodes", .list .node⟩ (by decide)).isSome_lookup rfl
  intro n
  simp only [hcount, seq_eq_fits_iff, map_eq_fits_iff]
  exact exists_congr fun g => exists_congr fun d => and_congr
    (exists_congr fun f => and_congr_left fun _ => hlogic f) (and_congr_left fun _ => hnodes d)

/-- A node is as heavy in every spelling, so it is the same alternative that counts. -/
theorem agrees_fitNodeTo (fuel : Nat) :
    ∀ v v', Respelled .node v v' → (fitNodeTo fuel v).Agrees (fitNodeTo fuel v') := by
  induction fuel with
  | zero => exact fun v v' _ => .refl _
  | succ fuel ih =>
      intro v v' h
      exact ((agrees_fitLeaf h).beneath _ _).weightier ((agrees_fitGroup ih h).beneath _ _)

theorem agrees_fitNode (v v' : Value) (h : Respelled .node v v') :
    (fitNode v).Agrees (fitNode v') := by
  rw [fitNode, fitNode, h.depth_eq]
  exact (agrees_fitNodeTo _ v v' h).map _

theorem agrees_fitComposite (h : Respelled .composite v v') :
    (fitComposite v).Agrees (fitComposite v') := by
  refine agrees_unlessNull (fun v v' h => ?_) h
  refine agrees_membersOf h nofun nofun fun es es'
    (hfound : ∀ m ∈ compositeMembers, m.Found (.ofEntries es) (.ofEntries es')) => ?_
  refine Fitted.Agrees.map ?_ _
  exact (hfound ⟨"nodes", "nodes", .list .node⟩ (by decide)).agrees _ fun v v' hv =>
    agrees_fitAll agrees_fitNode hv

end Objects

namespace Criterion

/-- The members of two criteria agree, but for their operands. -/
structure MembersAgree (fit : Value → Fitted Criterion) (ms ms' : Members) : Prop where
  field : (ms.fit "field" "field" (fits none) fitText?).Agrees
    (ms'.fit "field" "field" (fits none) fitText?)
  op : (ms.fit "operator" "operator" (fits .equal) fitOperator).Agrees
    (ms'.fit "operator" "operator" (fits .equal) fitOperator)
  logic : (ms.fit "logic" "logic" (fits .and) (unlessNull .and (fitWord Logic.vocabulary))).Agrees
    (ms'.fit "logic" "logic" (fits .and) (unlessNull .and (fitWord Logic.vocabulary)))
  filters : (ms.fit "filters" "filters" (fits []) (unlessNull [] (fitAll fit))).Agrees
    (ms'.fit "filters" "filters" (fits []) (unlessNull [] (fitAll fit)))
  type : (ms.fit "customType" "custom_type" (fits .simple) fitCustomType).Agrees
    (ms'.fit "customType" "custom_type" (fits .simple) fitCustomType)
  parameters : (ms.fit "customParameters" "custom_parameters" (fits []) fitParameters).Agrees
    (ms'.fit "customParameters" "custom_parameters" (fits []) fitParameters)
  specification :
    (ms.fit "specificationName" "specification_name" (fits none) fitText?).Agrees
      (ms'.fit "specificationName" "specification_name" (fits none) fitText?)
  arguments :
    (ms.fit "specificationArguments" "specification_arguments" (fits []) fitArguments).Agrees
      (ms'.fit "specificationArguments" "specification_arguments" (fits []) fitArguments)
  composite :
    (ms.fit "compositeSpecification" "composite_specification" (fits none) fitComposite).Agrees
      (ms'.fit "compositeSpecification" "composite_specification" (fits none) fitComposite)

theorem MembersAgree.symm {fit : Value → Fitted Criterion} {ms ms' : Members}
    (h : MembersAgree fit ms ms') : MembersAgree fit ms' ms :=
  ⟨h.field.symm, h.op.symm, h.logic.symm, h.filters.symm, h.type.symm, h.parameters.symm,
    h.specification.symm, h.arguments.symm, h.composite.symm⟩

/-- The operands are one value, or both are tables that stand for criteria which are
    read alike, under a quantifier. -/
def OperandsAgree (fit : Value → Fitted Criterion) (quantified : Bool) (w w' : Value) : Prop :=
  w = w' ∨ quantified = true ∧ isCriterionTable w = true ∧ isCriterionTable w' = true ∧
    (fit w).Agrees (fit w')

theorem OperandsAgree.symm {fit : Value → Fitted Criterion} {ms ms' : Members} {w w' : Value}
    (h : OperandsAgree fit ms.isQuantified w w')
    (hop : (ms.fit "operator" "operator" (fits .equal) fitOperator).Agrees
      (ms'.fit "operator" "operator" (fits .equal) fitOperator)) :
    OperandsAgree fit ms'.isQuantified w' w := by
  have hquantified : ms'.isQuantified = ms.isQuantified := by
    rw [Members.isQuantified, Members.isQuantified]
    rcases hop.eq_or_misfits with ⟨op, hop, hop'⟩ | ⟨es, es', hop, hop'⟩ <;> rw [hop, hop']
  rcases h with hsame | ⟨hq, htable, htable', hagree⟩
  · exact .inl hsame.symm
  · exact .inr ⟨hquantified.trans hq, htable', htable, hagree.symm⟩

/-- What is read of the operand, which always fits. -/
def givenOperand (ms : Members) : Value :=
  (ms.find "value" "value").2.getD .null

theorem fit_operand_eq_fits_iff {ms : Members} {o : Operand Criterion} :
    ms.fit "value" "value" (fits (.literal .null)) (fits <| .literal ·) = fits o ↔
      o = .literal (givenOperand ms) := by
  rw [givenOperand]
  cases hfind : (ms.find "value" "value").2 with
  | none =>
      rw [Members.fit_of_find_eq_none hfind o, fits.injEq]
      exact eq_comm
  | some w =>
      rw [Members.fit_of_find hfind o, fits.injEq]
      exact eq_comm

-- One direction is enough, since all that is asked of the two is symmetric.
theorem settled_of_agree {fit : Value → Fitted Criterion} {ms ms' : Members} {x : Criterion}
    (hmembers : MembersAgree fit ms ms')
    (hoperands : OperandsAgree fit ms.isQuantified (givenOperand ms) (givenOperand ms'))
    (h : (fitMembers fit ms).andThen (settleWith fit) = fits x) :
    (fitMembers fit ms').andThen (settleWith fit) = fits x := by
  rcases andThen_eq_fits_iff.mp h with ⟨c, hc, hsettle⟩
  have hfit := fitMembers_eq_fits_iff.mp hc
  have hoperand := fit_operand_eq_fits_iff.mp hfit.operand
  -- The criterion in the other spelling, its operand not yet looked at.
  let c' : Criterion := { c with operand := .literal (givenOperand ms') }
  have hfit' : MembersFit fit ms' c' :=
    ⟨(hmembers.field _).mp hfit.field, (hmembers.op _).mp hfit.op,
      fit_operand_eq_fits_iff.mpr rfl, (hmembers.logic _).mp hfit.logic,
      (hmembers.filters _).mp hfit.filters, (hmembers.type _).mp hfit.type,
      (hmembers.parameters _).mp hfit.parameters, (hmembers.specification _).mp hfit.specification,
      (hmembers.arguments _).mp hfit.arguments, (hmembers.composite _).mp hfit.composite⟩
  refine andThen_eq_fits_iff.mpr ⟨c', fitMembers_eq_fits_iff.mpr hfit', ?_⟩
  rcases hoperands with hsame | ⟨hquantified, htable, htable', hagree⟩
  · -- Without a criterion for an operand nothing has been respelled.
    have hc' : c' = c := by
      show { c with operand := .literal (givenOperand ms') } = c
      rw [← hsame]
      exact with_operand hoperand
    rw [hc']
    exact hsettle
  · -- Both operands are read as criteria, and what was there before is forgotten.
    have hop : c.op.isQuantifier = true := by
      rw [Members.isQuantified, hfit.op] at hquantified
      exact hquantified
    have hstep (d : Criterion) (w : Value) (hd : d.operand = .literal w)
        (hw : isCriterionTable w = true) (hop : d.op.isQuantifier = true) :
        settleWith fit d = (fun n => { d with operand := .nested n }) <$> fit w := by
      rw [settleWith, hd]
      dsimp only
      rw [hop, hw]
      rfl
    rw [hstep c _ hoperand htable hop] at hsettle
    rw [hstep c' _ rfl htable' hop]
    exact ((hagree.map _) x).mp hsettle

section Found

variable {fit : Value → Fitted Criterion} {ms ms' : Members} {quantified : Bool}

theorem membersAgree_of_found
    (hfound : ∀ m ∈ criterionMembers quantified, m.Found ms ms')
    (hfit : ∀ v v', Respelled .criterion v v' → (fit v).Agrees (fit v')) :
    MembersAgree fit ms ms' := by
  -- Most members are looked up by one name and read as they stand.
  have hplain {α : Type} {default : Fitted α} {read : Value → Fitted α} {name other : String}
      (hm : ⟨name, other, .untyped⟩ ∈ criterionMembers quantified) :
      (ms.fit name other default read).Agrees (ms'.fit name other default read) :=
    (hfound _ hm).agrees_untyped rfl _ _
  refine ⟨hplain ?_, hplain ?_, hplain ?_, ?_, hplain ?_, hplain ?_, hplain ?_, hplain ?_, ?_⟩
  -- The nested criteria and the composite have places of their own.
  case refine_4 =>
    refine (hfound ⟨"filters", "filters", .list .criterion⟩
      (by cases quantified <;> decide)).agrees _ ?_
    exact fun _ _ => agrees_fitList hfit
  case refine_9 =>
    refine (hfound ⟨"compositeSpecification", "composite_specification", .composite⟩
      (by cases quantified <;> decide)).agrees _ ?_
    exact fun v v' hv => agrees_fitComposite hv
  all_goals cases quantified <;> decide

theorem operandsAgree_of_found
    (hfound : ∀ m ∈ criterionMembers quantified, m.Found ms ms')
    (hfit : ∀ v v', Respelled .criterion v v' → (fit v).Agrees (fit v')) :
    OperandsAgree fit quantified (givenOperand ms) (givenOperand ms') := by
  have hvalue := hfound ⟨"value", "value", if quantified then .operand else .untyped⟩
    (by cases quantified <;> decide)
  rw [givenOperand, givenOperand]
  -- A missing operand is missing in both spellings.
  rcases hvalue with ⟨hnone, hnone'⟩ | ⟨v, v', hv, hv', hrespelled⟩
  · rw [hnone, hnone']
    exact .inl rfl
  · rw [hv, hv']
    -- Only under a quantifier may the operand be a criterion, which is respelled in turn.
    cases quantified with
    | false => exact .inl (Respelled.eq_of_untyped hrespelled).symm
    | true =>
        cases hrespelled with
        | same => exact .inl rfl
        | object h honce honce' =>
            -- No key of a table is a name unless the table is a criterion.
            exact .inl (congrArg _ (Respelled.eq_of_other h)).symm
        | operand htable h =>
            exact .inr ⟨rfl, htable, (isCriterionTable_of_respelled h).trans htable, hfit v v' h⟩

end Found

/-- A criterion is read alike in every spelling. -/
theorem agrees_fitTo (fuel : Nat) :
    ∀ v v', Respelled .criterion v v' → (fitTo fuel v).Agrees (fitTo fuel v') := by
  -- Induction on the depth to which criteria are read; at depth
  -- nothing is read, in either spelling.
  induction fuel with
  | zero => exact fun v v' _ => .refl _
  | succ fuel ih =>
      intro v v' h
      cases h with
      | same => exact .refl _
      | object h honce honce' =>
          rename_i es es'
          have hfound (m : MemberPlace)
              (hm : m ∈ criterionMembers (Members.ofEntries es).isQuantified) :
              m.Found (.ofEntries es) (.ofEntries es') := Respelled.found h honce' hm
          have hmembers := membersAgree_of_found hfound ih
          have hoperands := operandsAgree_of_found hfound ih
          intro x
          -- Agreement is symmetric, so it is enough to go from one spelling to the other.
          refine ⟨settled_of_agree hmembers hoperands, settled_of_agree hmembers.symm ?_⟩
          exact hoperands.symm hmembers.op

theorem agrees_fit (v v' : Value) (h : Respelled .criterion v v') : (fit v).Agrees (fit v') := by
  rw [fit, fit, h.depth_eq]
  exact agrees_fitTo _ v v' h

end Criterion

namespace Query

/-- A payload stands for a query if and only if it does so in another spelling of its
    keys, and then it stands for the same one. -/
theorem ofPayload_respelled {p p' : Value} (h : Respelled .query p p') (q : Query) :
    (ofPayload p).result = .ok q ↔ (ofPayload p').result = .ok q := by
  cases h with
  | same => rfl
  | object h honce honce' =>
      rename_i es es'
      have hfound (m : MemberPlace) (hm : m ∈ queryMembers) :
          m.Found (.ofEntries es) (.ofEntries es') := Respelled.found h honce' hm
      have hplain {α : Type} {default : Fitted α} {read : Value → Fitted α} {name other : String}
          (hm : ⟨name, other, .untyped⟩ ∈ queryMembers) (a : α) :
          (Members.ofEntries es).fit name other default read = fits a ↔
            (Members.ofEntries es').fit name other default read = fits a :=
        (hfound _ hm).agrees_untyped rfl _ _ a
      have horderings := (hfound ⟨"orderings", "orderings", .list .ordering⟩ (by decide)).agrees
        (fits []) fun _ _ => agrees_fitList fun _ _ => OrderBy.agrees_fit
      have hfilters := (hfound ⟨"filters", "filters", .list .criterion⟩ (by decide)).agrees
        (fits []) fun _ _ => agrees_fitList Criterion.agrees_fit
      -- A query fits when all its members do, and each member agrees with its respelling.
      rw [ofPayload_eq_ok_iff, ofPayload_eq_ok_iff]
      simp only [membersOf, fits.injEq, exists_eq_left', fit_eq_fits_iff]
      refine exists_congr fun tracking => exists_congr fun paths => ?_
      constructor
      · intro h
        exact ⟨(hplain (by decide) _).mp h.page, (hplain (by decide) _).mp h.pageSize,
          (hplain (by decide) _).mp h.noTracking, (horderings _).mp h.orderings,
          (hfilters _).mp h.filters, (hplain (by decide) _).mp h.includes,
          (hplain (by decide) _).mp h.hierarchy, (hplain (by decide) _).mp h.maxDepth,
          h.noTracking_eq, h.trackingGiven_eq, h.includes_eq⟩
      · intro h
        exact ⟨(hplain (by decide) _).mpr h.page, (hplain (by decide) _).mpr h.pageSize,
          (hplain (by decide) _).mpr h.noTracking, (horderings _).mpr h.orderings,
          (hfilters _).mpr h.filters, (hplain (by decide) _).mpr h.includes,
          (hplain (by decide) _).mpr h.hierarchy, (hplain (by decide) _).mpr h.maxDepth,
          h.noTracking_eq, h.trackingGiven_eq, h.includes_eq⟩

/-- People with an address in Berlin, with the keys in some spelling. -/
def berlinPayload (pageSize filters field operator value : String) : Value := .dict [
  (.text pageSize, .int 5),
  (.text filters, .list [.dict [
    (.text field, .text "addresses"),
    (.text operator, .text "any"),
    (.text value, .dict [(.text field, .text "city"), (.text value, .text "Berlin")])]])]

/-- The operand is a criterion, so its keys may be spelled differently as well. -/
theorem respelled_berlinPayload :
    Respelled .query (berlinPayload "pageSize" "filters" "field" "operator" "value")
      (berlinPayload "page_size" "Filters" "Field" "Operator" "Value") := by
  -- The nested criterion is respelled first, then the criterion and the payload around it.
  have hcity : Respelled .criterion
      (.dict [(.text "field", .text "city"), (.text "value", .text "Berlin")])
      (.dict [(.text "Field", .text "city"), (.text "Value", .text "Berlin")]) := by
    refine .object ?_ (by decide +kernel) (by decide +kernel)
    refine .member (m := plainMember "field") (by decide +kernel)
      (MemberPlace.namesBoth_texts (by decide) (by decide)) (.same ..) ?_
    exact .member (m := plainMember "value") (by decide +kernel)
      (MemberPlace.namesBoth_texts (by decide) (by decide)) (.same ..) .nil
  refine .object ?_ (by decide +kernel) (by decide +kernel)
  refine .member (m := ⟨"pageSize", "page_size", .untyped⟩) (by decide)
    (MemberPlace.namesBoth_texts (by decide) (by decide)) (.same ..) ?_
  refine .member (m := ⟨"filters", "filters", .list .criterion⟩) (by decide)
    (MemberPlace.namesBoth_texts (by decide) (by decide)) (.list (.cons ?_ .nil)) .nil
  refine .object ?_ (by decide +kernel) (by decide +kernel)
  refine .member (m := plainMember "field") (by decide +kernel)
    (MemberPlace.namesBoth_texts (by decide) (by decide)) (.same ..) ?_
  refine .member (m := plainMember "operator") (by decide +kernel)
    (MemberPlace.namesBoth_texts (by decide) (by decide)) (.same ..) ?_
  exact .member (m := ⟨"value", "value", .operand⟩) (by decide +kernel)
    (MemberPlace.namesBoth_texts (by decide) (by decide)) (.operand (by decide +kernel) hcity) .nil

/-- Both payloads ask for the elements that a nested criterion is about. -/
theorem ofPayload_respelled_berlin : ∃ q,
    (ofPayload (berlinPayload "pageSize" "filters" "field" "operator" "value")).result = .ok q ∧
      (ofPayload (berlinPayload "page_size" "Filters" "Field" "Operator" "Value")).result = .ok q ∧
      q.criteriaOn "city" ≠ [] :=
  ⟨_, rfl, (ofPayload_respelled respelled_berlinPayload _).mp rfl, by decide +kernel⟩

end Query

end Criteria
