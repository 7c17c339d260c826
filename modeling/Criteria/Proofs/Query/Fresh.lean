import Criteria.Proofs.Query.Criterion
import Criteria.Query.Update

/-!
# New Simple Criteria

What a criterion is that is made of a field, an operator, an operand and a logic.

There are two ways to such a criterion. A payload may have these four as its members
and nothing else, and is read like any other one; or a query is updated, where the
operator and the logic have been read before and the operand is looked at last. Both
give the same criterion (`Criterion.fresh_eq_fits_iff`). The argument is about how
deep the reader goes: it counts down from the depth of what it is given, so a table
is read with another count as an operand than alone, but either count is enough
(`Criterion.fitTo_eq_fitTo`). Words are a little different. A text stands for the same
word everywhere, but in a payload the default is also meant by null, and other values
may stand for words as well.

All that a new criterion does not take as it is from what it is made of is its
operand, and this only where a table under a quantifier stands for a criterion.

## Main definitions

* `Criterion.payloadOf`: The payload of a simple criterion.
* `Criterion.fresh`: The criterion that is made of a field, an operator, an operand
  and a logic.

## Theorems

* `Criterion.fitTo_eq_fitTo`: How far the reader counts down does not matter beyond the
  depth of what it reads.
* `Criterion.eq_of_settleWith`, `Criterion.operand_of_settleWith`: What recognising the
  operand of a criterion changes.
* `Criterion.fresh_eq_fits_iff`: Both ways give the same criterion.
* `Vocabulary.read_eq_ok_iff_of_find?`: Words that are read alone and in a payload.
-/

namespace Criteria

open Fitted

variable {α β : Type}

section Congruence

theorem fitAllFrom_congr {f g : α → Fitted β} {n : Nat} {as : List α} (h : ∀ a ∈ as, f a = g a) :
    fitAllFrom f n as = fitAllFrom g n as := by
  induction as generalizing n with
  | nil => rfl
  | cons a as ih =>
      rw [fitAllFrom, fitAllFrom, h a List.mem_cons_self,
        ih fun x hx => h x (List.mem_cons_of_mem a hx)]

theorem fitAll_congr {f g : Value → Fitted β} {v : Value}
    (h : ∀ xs, v.elements? = some xs → ∀ x ∈ xs, f x = g x) : fitAll f v = fitAll g v := by
  rw [fitAll, fitAll, Lenient.list?]
  cases helements : v.elements? with
  | none => rfl
  | some xs => exact fitAllFrom_congr (h xs helements)

theorem Members.fit_congr {ms : Members} {name other : String} {default : Fitted α}
    {read read' : Value → Fitted α} (h : ∀ e ∈ ms, read e.2 = read' e.2) :
    ms.fit name other default read = ms.fit name other default read' := by
  rw [fit, fit]
  split
  · rename_i found v hfind
    rw [h (found, v) (mem_of_find hfind)]
  · rfl

end Congruence

/-- The logic that a payload stands for. -/
def Logic.fit (v : Value) : Fitted Logic :=
  unlessNull .and (fitWord vocabulary) v

namespace Criterion

section Depth

variable {f g : Value → Fitted Criterion}

/-- Readers that agree on the elements of lists read the same members. -/
theorem fitMembers_congr {ms : Members}
    (h : ∀ e ∈ ms, ∀ xs, e.2.elements? = some xs → ∀ x ∈ xs, f x = g x) :
    fitMembers f ms = fitMembers g ms := by
  have hfilters : ms.fit "filters" "filters" (fits []) (unlessNull [] (fitAll f)) =
      ms.fit "filters" "filters" (fits []) (unlessNull [] (fitAll g)) := by
    refine Members.fit_congr fun e he => ?_
    rw [unlessNull, unlessNull, fitAll_congr (h e he)]
  rw [fitMembers, fitMembers, hfilters]

/-- Readers that agree on an operand recognise the same criterion in it. -/
theorem settleWith_congr {c : Criterion} (h : ∀ v, c.operand = .literal v → f v = g v) :
    settleWith f c = settleWith g c := by
  rw [settleWith, settleWith]
  cases hoperand : c.operand with
  | nested n => rfl
  | literal v =>
      dsimp only
      rw [h v hoperand]

/-- Operands are less deep than the criterion they are read for. -/
theorem depth_lt_of_operand {ms : Members} {v w : Value} {c : Criterion}
    (hms : membersOf v = fits ms) (hc : MembersFit f ms c) (hw : c.operand = .literal w) :
    w.depth < v.depth ∨ w = .null := by
  rcases Members.exists_of_fit hc.operand with ⟨k, x, hmem, hx⟩ | hnull
  · rw [hw, fits.injEq] at hx
    rw [← Operand.literal.inj hx]
    exact .inl (depth_lt_of_membersOf hms hmem)
  · rw [hw, fits.injEq] at hnull
    exact .inr (Operand.literal.inj hnull).symm

/-- It does not matter how far the reader counts down, beyond the depth of what it
    reads. The induction is on the one count, for all values and other counts: what
    is inside is less deep and read with one less. -/
theorem fitTo_eq_fitTo {m n : Nat} {v : Value} (hm : v.depth < m) (hn : v.depth < n) :
    fitTo m v = fitTo n v := by
  -- Induction on the fuel of one side; either side has enough to go below the value.
  induction m generalizing n v with
  | zero => omega
  | succ m ih =>
      cases n with
      | zero => omega
      | succ n =>
          have hinner {x : Value} (hx : x.depth < v.depth) : fitTo m x = fitTo n x :=
            ih (by omega) (by omega)
          rw [fitTo, fitTo]
          cases hms : membersOf v with
          | misfits es => rfl
          | fits ms =>
              -- What the members hold lies deeper than the value.
              have hmembers : fitMembers (fitTo m) ms = fitMembers (fitTo n) ms := by
                refine fitMembers_congr fun e he xs hxs x hx => hinner ?_
                exact Nat.lt_trans (Value.depth_lt_of_elements? hxs hx)
                  (depth_lt_of_membersOf hms he)
              rw [andThen, andThen, hmembers]
              cases hc : fitMembers (fitTo n) ms with
              | misfits es => rfl
              | fits c =>
                  refine settleWith_congr fun w hw => ?_
                  rcases depth_lt_of_operand hms (fitMembers_eq_fits_iff.mp hc) hw with hlt | rfl
                  · exact hinner hlt
                  · -- Null is no table, at whatever depth it is looked at.
                    cases m <;> cases n <;> rfl

end Depth

section Operand

variable {read : Value → Fitted Criterion} {c d : Criterion}

/-- Recognising the operand changes nothing else. -/
theorem eq_of_settleWith (h : settleWith read c = fits d) :
    d = { c with operand := d.operand } := by
  rw [settleWith] at h
  split at h
  · rw [← fits.inj h, with_operand rfl]
  · split at h
    · rcases map_eq_fits_iff.mp h with ⟨n, -, rfl⟩
      rfl
    · rw [← fits.inj h, with_operand rfl]

/-- An operand stays as it is unless it is a table that stands for a criterion. -/
theorem operand_of_settleWith (h : settleWith read c = fits d) :
    d.operand = c.operand ↔
      ∀ v, c.operand = .literal v → (c.op.isQuantifier && isCriterionTable v) = false := by
  rw [settleWith] at h
  -- A criterion in the operand is there to stay.
  cases hoperand : c.operand with
  | nested n =>
      rw [hoperand] at h
      rw [← fits.inj h, hoperand]
      refine ⟨fun _ v hv => ?_, fun _ => rfl⟩
      cases hv
  | literal v =>
      rw [hoperand] at h
      dsimp only at h
      -- Under a quantifier a table becomes a criterion, and any other value stays as it is.
      split at h
      · rename_i htable
        rcases map_eq_fits_iff.mp h with ⟨n, -, rfl⟩
        constructor
        · intro hsame
          cases hsame
        · intro hplain
          exact absurd htable (by rw [hplain v rfl]; exact Bool.false_ne_true)
      · rename_i htable
        rw [← fits.inj h, hoperand]
        refine ⟨fun _ w hw => ?_, fun _ => rfl⟩
        rw [← Operand.literal.inj hw]
        exact Bool.eq_false_of_not_eq_true htable

end Operand

section Simple

variable {field : String} {o : Operator} {l : Logic} {operand : Operand Criterion} {c : Criterion}

theorem simple_eq_ok_iff :
    simple field o operand l = .ok c ↔
      settle { field := some field, op := o, operand := operand, logic := l } = fits c :=
  located_eq_ok_iff

/-- A new criterion is what it is made of, but for the operand. -/
theorem eq_of_simple (h : simple field o operand l = .ok c) :
    c = { field := some field, op := o, operand := c.operand, logic := l } :=
  eq_of_settleWith (simple_eq_ok_iff.mp h)

theorem simple_of_plain {v : Value} (h : (o.isQuantifier && isCriterionTable v) = false) :
    simple field o (.literal v) l =
      .ok { field := some field, op := o, operand := .literal v, logic := l } := by
  rw [simple_eq_ok_iff, settle, settleWith]
  dsimp only
  rw [h, if_neg Bool.false_ne_true]

end Simple

section Payload

/-- The members of a simple criterion. -/
def membersGiven (field : String) (op v logic : Value) : List (String × Option Value) :=
  [("field", some (.text field)), ("operator", some op), ("value", some v), ("logic", some logic)]

/-- The payload of a simple criterion. -/
def payloadOf (field : String) (op v logic : Value) : Value :=
  present (membersGiven field op v logic)

/-- The criterion that is made of a field, an operator, an operand and a logic. -/
def fresh (field : String) (op : Value) (operand : Operand Criterion) (logic : Value) :
    Fitted Criterion :=
  match operand with
  | .literal v => fit (payloadOf field op v logic)
  | .nested n => (fun c => { c with operand := .nested n }) <$> fit (payloadOf field op .null logic)

variable {field : String} {v op logic : Value} {operand : Operand Criterion} {c d : Criterion}
  {read : Value → Fitted Criterion} {ms : Members} {o : Operator} {l : Logic}

/-- Members fit as one criterion only. -/
theorem MembersFit.eq (hc : MembersFit read ms c) (hd : MembersFit read ms d) : c = d :=
  fits.inj ((fitMembers_eq_fits_iff.mpr hc).symm.trans (fitMembers_eq_fits_iff.mpr hd))

theorem membersOf_payloadOf (field : String) (op v logic : Value) :
    ∃ ms, membersOf (payloadOf field op v logic) = fits ms ∧
      ∀ k, ms.lookup k = ((membersGiven field op v logic).lookup k).join := by
  refine membersOf_present (membersGiven field op v logic) ?_ ?_
  · show ["field", "operator", "value", "logic"].Nodup
    decide
  · show ∀ k ∈ ["field", "operator", "value", "logic"], Text.lowerFirst k = k
    decide

/-- The four members fit if the two words do, and the others are left out. -/
theorem membersFit_payloadOf
    (hlookup : ∀ k, ms.lookup k = ((membersGiven field op v logic).lookup k).join)
    (ho : fitOperator op = fits o) (hl : Logic.fit logic = fits l) :
    MembersFit read ms { field := some field, op := o, operand := .literal v, logic := l } := by
  -- Four members are given, and all others are absent and take their defaults.
  have hgiven {α : Type} {name other : String} {x : Value} {default : Fitted α}
      {f : Value → Fitted α} {a : α} (h : ms.lookup name = some x) (hx : f x = fits a) :
      ms.fit name other default f = fits a := by
    rw [Members.fit_of_lookup h, beneath_eq_fits_iff, hx]
  have habsent {α : Type} {name other : String} {a : α} {f : Value → Fitted α}
      (h : ms.lookup name = none) (hother : ms.lookup other = none) :
      ms.fit name other (fits a) f = fits a := by
    rw [Members.fit_of_lookup_eq_none h hother, beneath_eq_fits_iff]
  exact {
    field := hgiven (hlookup "field") rfl
    op := hgiven (hlookup "operator") ho
    operand := hgiven (hlookup "value") rfl
    logic := hgiven (hlookup "logic") hl
    filters := habsent (hlookup "filters") (hlookup "filters")
    type := habsent (hlookup "customType") (hlookup "custom_type")
    parameters := habsent (hlookup "customParameters") (hlookup "custom_parameters")
    specification := habsent (hlookup "specificationName") (hlookup "specification_name")
    arguments := habsent (hlookup "specificationArguments") (hlookup "specification_arguments")
    composite := habsent (hlookup "compositeSpecification") (hlookup "composite_specification") }

/-- A payload of a field, an operator, an operand and a logic fits as the criterion
    that is made of them. -/
theorem fit_payloadOf_eq_fits_iff :
    fit (payloadOf field op v logic) = fits c ↔ ∃ o l, fitOperator op = fits o ∧
      Logic.fit logic = fits l ∧ simple field o (.literal v) l = .ok c := by
  rcases membersOf_payloadOf field op v logic with ⟨ms, hms, hlookup⟩
  have hv : v.depth < (payloadOf field op v logic).depth :=
    depth_lt_present (k := "value") _ (by simp [membersGiven])
  -- The table in the operand is read from where the reader has got to, or by itself.
  have hsettle (o : Operator) (l : Logic) :
      settleWith (fitTo (payloadOf field op v logic).depth)
        { field := some field, op := o, operand := .literal v, logic := l } =
      settle { field := some field, op := o, operand := .literal v, logic := l } := by
    refine settleWith_congr fun w hw => ?_
    rw [← Operand.literal.inj hw]
    exact fitTo_eq_fitTo hv (Nat.lt_succ_self _)
  rw [fit, fitTo, andThen_eq_fits_iff]
  constructor
  · -- The words are those of the criterion as it is before its operand is looked at.
    rintro ⟨d, hd, hc⟩
    rcases andThen_eq_fits_iff.mp hd with ⟨_, hms', hd⟩
    cases fits.inj (hms.symm.trans hms')
    have hd := fitMembers_eq_fits_iff.mp hd
    have ho : fitOperator op = fits d.op := by
      rw [← beneath_eq_fits_iff, ← Members.fit_of_lookup (hlookup "operator"), hd.op]
    have hl : Logic.fit logic = fits d.logic := by
      rw [← beneath_eq_fits_iff, Logic.fit, ← Members.fit_of_lookup (hlookup "logic"), hd.logic]
    rw [hd.eq (membersFit_payloadOf hlookup ho hl), hsettle] at hc
    exact ⟨d.op, d.logic, ho, hl, simple_eq_ok_iff.mpr hc⟩
  · rintro ⟨o, l, ho, hl, hc⟩
    refine ⟨_, andThen_eq_fits_iff.mpr ⟨ms, hms, fitMembers_eq_fits_iff.mpr
      (membersFit_payloadOf hlookup ho hl)⟩, ?_⟩
    rw [hsettle]
    exact simple_eq_ok_iff.mp hc

/-- Both ways to a new criterion give the same one: what is made of its members, and
    what is made of the words that are read from them. -/
theorem fresh_eq_fits_iff :
    fresh field op operand logic = fits c ↔ ∃ o l, fitOperator op = fits o ∧
      Logic.fit logic = fits l ∧ simple field o operand l = .ok c := by
  -- A literal makes the payload; a criterion is put in after the rest has been read.
  cases operand with
  | literal v => exact fit_payloadOf_eq_fits_iff
  | nested n =>
      rw [fresh, map_eq_fits_iff]
      constructor
      · rintro ⟨d, hd, rfl⟩
        rcases fit_payloadOf_eq_fits_iff.mp hd with ⟨o, l, ho, hl, hd⟩
        rw [eq_of_simple hd]
        exact ⟨o, l, ho, hl, rfl⟩
      · rintro ⟨o, l, ho, hl, hc⟩
        -- Null is written in its place, and null stands for no criterion.
        have hnull : (o.isQuantifier && isCriterionTable .null) = false := Bool.and_false _
        exact ⟨_, fit_payloadOf_eq_fits_iff.mpr ⟨o, l, ho, hl, simple_of_plain hnull⟩,
          Except.ok.inj hc⟩

end Payload

end Criterion

section Words

variable {v : Value} {o : Operator} {l : Logic}

/-- A word is read from a text that stands for it. -/
theorem Vocabulary.read_eq_ok_iff {α : Type} {words : Vocabulary α} {a : α} :
    words.read v = .ok a ↔ ∃ s, v.text? = some s ∧ words.find? s = some a := by
  rw [read, expected_eq_ok_iff, ofValue?, Option.bind_eq_some_iff]

/-- A text is read as an operator in a payload only if it stands for one. -/
theorem find?_of_fitOperator {s : String} (hs : v.text? = some s) (h : fitOperator v = fits o) :
    Operator.vocabulary.find? s = some o := by
  unfold fitOperator at h
  generalize Operator.vocabulary = words at h ⊢
  split at h
  · cases hs
  · rename_i t ht
    cases hs.symm.trans ht
    split at h
    · rename_i op hop
      rw [hop, fits.inj h]
    · cases h
  · rename_i hnone
    cases hs.symm.trans hnone

theorem find?_of_fitLogic {s : String} (hs : v.text? = some s) (h : Logic.fit v = fits l) :
    Logic.vocabulary.find? s = some l := by
  have hnull : v.isNull = false := by
    cases v with
    | null => cases hs
    | _ => rfl
  rw [Logic.fit, unlessNull_of_isNull hnull, fitWord, hs] at h
  exact ofOption_eq_fits_iff.mp h

/-- What stands for a word if it is a text is read as this word exactly if it is one. -/
theorem Vocabulary.read_eq_ok_iff_of_find? {α : Type} {words : Vocabulary α} {a b : α}
    (h : ∀ s, v.text? = some s → words.find? s = some a) :
    words.read v = .ok b ↔ v.text?.isSome ∧ b = a := by
  rw [read_eq_ok_iff]
  constructor
  · rintro ⟨s, hs, hb⟩
    exact ⟨Option.isSome_of_eq_some hs, Option.some.inj (hb.symm.trans (h s hs))⟩
  · rintro ⟨hs, rfl⟩
    rcases Option.isSome_iff_exists.mp hs with ⟨s, hs⟩
    exact ⟨s, hs, h s hs⟩

end Words

end Criteria
