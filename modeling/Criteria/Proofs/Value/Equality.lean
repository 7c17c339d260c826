import Criteria.Value.Equality
import Mathlib.Data.List.Nodup
import Mathlib.Data.List.Perm.Subperm

/-!
# Equality of Documents

Equality of documents does not depend on which of them comes first.

A document is what the reader of texts gives. It is a payload but for its numbers,
which may be too large for a double or undefined: the reader has words for these
and takes numerals of any size.

Equality is written from the point of view of its first argument. Numbers are
compared by the order of their exact values, lists place by place, and of tables
it is asked that they are equally long and that every entry of the first one has
an equal one in the second. The last is the case with something to show: nothing
is asked of the entries of the second table. But the keys of a document's tables are
distinct, so as many keys as the second table has are found in it, and these are
all of its keys.

It is not a matter of course. A table in which a key occurs twice, or a set with an
element twice, can be found in another one that has something else instead; no
document is of that kind.

## Main definitions

* `Value.IsDocument`: What a text can stand for.

## Theorems

* `Decimal.compare?_swap`: The order of two numbers, seen from the other one.
* `Value.subset_of_length_eq`: Distinct elements that are all found in a list of the
  same length are all there are.
* `Value.equal_comm`: Equality of documents is symmetric.
* `Value.equal_text_iff`, `Value.equal_of_text?`: Values that stand for texts.
* `EnumValue.equal?_toValue`: What members stand for can be compared.
-/

namespace Criteria

namespace Decimal

theorem compareMagnitude_swap (c : Nat) (e : Int) (d : Nat) (f : Int) :
    compareMagnitude d f c e = (compareMagnitude c e d f).swap := by
  rw [compareMagnitude, compareMagnitude]
  by_cases h : c = 0 ∨ d = 0
  · rw [if_pos h, if_pos h.symm, Nat.compare_swap]
  · rw [if_neg h, if_neg fun hc => h hc.symm]
    -- The places of the leading digits are turned around first.
    have hplaces : compare (digitCount d + f) (digitCount c + e) =
        (compare (digitCount c + e) (digitCount d + f)).swap := (Std.OrientedCmp.eq_swap)
    rw [hplaces]
    cases compare (digitCount c + e) (digitCount d + f) with
    | eq => exact (Nat.compare_swap ..).symm
    | _ => rfl

/-- The order of two numbers, seen from the other one. -/
theorem compare?_swap (x y : Decimal) : compare? y x = (compare? x y).map Ordering.swap := by
  -- Finite numbers are compared by their signs and then by their magnitudes.
  cases x with
  | undefined => cases y <;> rfl
  | infinite n =>
      cases y with
      | finite => cases n <;> rfl
      | infinite m => cases n <;> cases m <;> rfl
      | undefined => rfl
  | finite n c e =>
      cases y with
      | finite m d f =>
          rw [compare?, compare?]
          by_cases h : c = 0 ∧ d = 0
          · rw [if_pos h, if_pos h.symm]
            rfl
          · rw [if_neg h, if_neg fun hc => h hc.symm]
            cases n && c != 0 <;> cases m && d != 0
            · exact congrArg some (compareMagnitude_swap ..)
            · rfl
            · rfl
            · exact congrArg some (compareMagnitude_swap ..)
      | infinite m => cases m <;> rfl
      | undefined => rfl

theorem compare?_eq_comm {x y : Decimal} (h : (compare? x y == some .eq) = true) :
    (compare? y x == some .eq) = true := by
  rw [beq_iff_eq] at h ⊢
  rw [compare?_swap, h]
  rfl

end Decimal

namespace Value

/-- What a text can stand for: tables have distinct keys, and numbers are of any
    size, or undefined. -/
inductive IsDocument : Value → Prop
  | null : IsDocument .null
  | bool (b : Bool) : IsDocument (.bool b)
  | int (n : Int) : IsDocument (.int n)
  | float (x : Binary64) : IsDocument (.float x)
  | text (s : String) : IsDocument (.text s)
  | list (xs : List Value) (h : ∀ x ∈ xs, IsDocument x) : IsDocument (.list xs)
  | table (entries : List (String × Value)) (hkeys : (entries.map Prod.fst).Nodup)
      (h : ∀ e ∈ entries, IsDocument e.2) : IsDocument (table entries)

/-- Distinct elements that are all found in a list of the same length are all there
    are. -/
theorem subset_of_length_eq {α : Type} {xs ys : List α} (hxs : xs.Nodup) (hsub : xs ⊆ ys)
    (hlength : xs.length = ys.length) : ys ⊆ xs := by
  have hperm : xs.Perm ys :=
    (List.subperm_of_subset hxs hsub).perm_of_length_le (Nat.le_of_eq hlength.symm)
  exact hperm.symm.subset

theorem equalAll_symm {xs ys : List Value}
    (hsymm : ∀ x ∈ xs, ∀ y ∈ ys, equal x y = true → equal y x = true)
    (h : equalAll xs ys = true) : equalAll ys xs = true := by
  -- Induction on both lists together.
  induction xs generalizing ys with
  | nil =>
      cases ys with
      | nil => rfl
      | cons y ys => exact absurd h Bool.false_ne_true
  | cons x xs ih =>
      cases ys with
      | nil => exact absurd h Bool.false_ne_true
      | cons y ys =>
          rw [equalAll, Bool.and_eq_true] at h ⊢
          refine ⟨hsymm x List.mem_cons_self y List.mem_cons_self h.1, ih ?_ h.2⟩
          intro x' hx' y' hy'
          exact hsymm x' (List.mem_cons_of_mem x hx') y' (List.mem_cons_of_mem y hy')

/-- Entries of tables with text keys, found one by one. -/
theorem entriesWithin_iff {es fs : List (String × Value)} :
    entriesWithin (es.map fun (k, v) => (text k, v)) (fs.map fun (k, v) => (text k, v)) = true ↔
      ∀ e ∈ es, ∃ f ∈ fs, e.1 = f.1 ∧ equal e.2 f.2 = true := by
  induction es with
  | nil => simp only [List.map_nil, entriesWithin, List.not_mem_nil, false_implies, implies_true]
  | cons e es ih =>
      rw [List.map_cons, entriesWithin, Bool.and_eq_true, ih, List.forall_mem_cons, List.any_map,
        List.any_eq_true]
      refine and_congr_left fun _ => exists_congr fun f => and_congr_right fun _ => ?_
      -- Texts are equal as keys when they are the same.
      show (equal (text e.1) (text f.1) && equal e.2 f.2) = true ↔ _
      rw [Bool.and_eq_true]
      exact and_congr_left fun _ => beq_iff_eq

theorem equal_table_symm {es fs : List (String × Value)} (hes : (es.map Prod.fst).Nodup)
    (hfs : (fs.map Prod.fst).Nodup)
    (hsymm : ∀ e ∈ es, ∀ f ∈ fs, equal e.2 f.2 = true → equal f.2 e.2 = true)
    (h : equal (table es) (table fs) = true) : equal (table fs) (table es) = true := by
  rw [table, table, equal, Bool.and_eq_true, entriesWithin_iff, beq_iff_eq, List.length_map,
    List.length_map] at h
  rw [table, table, equal, Bool.and_eq_true, entriesWithin_iff, beq_iff_eq, List.length_map,
    List.length_map]
  rcases h with ⟨hlength, hfound⟩
  -- Every key on the left is one on the right, and there are as many of them.
  have hkeys : es.map Prod.fst ⊆ fs.map Prod.fst := by
    intro k hk
    rcases List.mem_map.mp hk with ⟨e, he, rfl⟩
    rcases hfound e he with ⟨f, hf, hkey, -⟩
    rw [hkey]
    exact List.mem_map_of_mem hf
  have hall := subset_of_length_eq hes hkeys (by rw [List.length_map, List.length_map, hlength])
  refine ⟨hlength.symm, fun f hf => ?_⟩
  rcases List.mem_map.mp (hall (List.mem_map_of_mem hf)) with ⟨e, he, hef⟩
  rcases hfound e he with ⟨g, hg, hkey, hvalue⟩
  -- The entry that `e` is equal to has the key of `f`, so it is `f`.
  have hsame : g = f := List.inj_on_of_nodup_map hfs hg hf (hkey.symm.trans hef)
  rw [hsame] at hvalue
  exact ⟨e, he, hef.symm, hsymm e he f hf hvalue⟩

theorem equal_symm {a b : Value} (ha : a.IsDocument) (hb : b.IsDocument)
    (h : equal a b = true) : equal b a = true := by
  -- Documents of different shapes are not equal, numbers of all kinds being one shape.
  induction ha generalizing b with
  | null =>
      cases hb with
      | null => rfl
      | _ => exact absurd h (by simp [equal, equalScalar, number?, text?, table])
  | bool x =>
      cases hb with
      | bool | int | float => exact Decimal.compare?_eq_comm h
      | _ => exact absurd h (by simp [equal, equalScalar, number?, text?, table])
  | int n =>
      cases hb with
      | bool | int | float => exact Decimal.compare?_eq_comm h
      | _ => exact absurd h (by simp [equal, equalScalar, number?, text?, table])
  | float x =>
      cases hb with
      | bool | int | float => exact Decimal.compare?_eq_comm h
      | _ => exact absurd h (by simp [equal, equalScalar, number?, text?, table])
  | text s =>
      cases hb with
      | text t => exact beq_iff_eq.mpr (beq_iff_eq.mp h).symm
      | _ => exact absurd h (by simp [equal, equalScalar, number?, text?, table])
  | list xs hxs ih =>
      cases hb with
      | list ys hys => exact equalAll_symm (fun x hx y hy hxy => ih x hx (hys y hy) hxy) h
      | _ => exact absurd h (by simp [equal, equalScalar, number?, text?, table])
  | table es hkeys hes ih =>
      cases hb with
      | table fs hkeys' hfs =>
          exact equal_table_symm hkeys hkeys' (fun e he f hf hef => ih e he (hfs f hf) hef) h
      | _ => exact absurd h (by simp [equal, equalScalar, number?, text?, table])

/-- Equality of documents is symmetric. -/
theorem equal_comm {a b : Value} (ha : a.IsDocument) (hb : b.IsDocument) :
    equal a b = equal b a :=
  Bool.eq_iff_iff.mpr ⟨equal_symm ha hb, equal_symm hb ha⟩

/-- A document that is equal to null is null. -/
theorem isNull_of_equal {a b : Value} (ha : a.IsDocument) (hb : b.IsDocument)
    (h : equal a b = true) : a.isNull = b.isNull := by
  cases ha <;> cases hb <;> first
    | rfl
    | exact absurd h (by simp [equal, equalScalar, number?, text?, table])

section Texts

variable {a b : Value} {s : String}

theorem number?_of_text? (h : a.text? = some s) : a.number? = none := by
  unfold text? at h
  split at h
  · rfl
  · rfl
  · rfl
  · cases h

/-- Values that stand for one text are equal. -/
theorem equal_of_text? (ha : a.text? = some s) (hb : b.text? = some s) : equal a b = true := by
  have hscalar : equal a b = equalScalar a b := by
    unfold text? at ha
    split at ha
    · rfl
    · rfl
    · rfl
    · cases ha
  unfold equalScalar at hscalar
  rw [hscalar, number?_of_text? ha, ha, hb]
  exact beq_self_eq_true s

/-- A text is equal to what stands for it only. -/
theorem equal_text_iff : equal (.text s) b = true ↔ b.text? = some s := by
  refine ⟨fun h => ?_, fun h => equal_of_text? rfl h⟩
  have hscalar : equalScalar (.text s) b = true := h
  unfold equalScalar at hscalar
  cases hb : b.text? with
  | some t =>
      rw [hb] at hscalar
      rw [beq_iff_eq.mp hscalar]
  | none =>
      rw [hb] at hscalar
      cases hscalar

end Texts

end Value

/-- What a member stands for can be held against any value that does not signal. -/
theorem EnumValue.equal?_toValue (v : EnumValue) {x : Value} (h : x.signals = false) :
    Value.equal? v.toValue x = .ok (Value.equal v.toValue x) := by
  have hvalue : v.toValue.signals = false := by
    cases v <;> rfl
  have hmeets : v.toValue.meets x = true := by
    cases v <;> rfl
  rw [Value.equal?, h, hvalue, Bool.false_and, Bool.false_and, Bool.false_or,
    if_neg Bool.false_ne_true, if_pos hmeets]

end Criteria
