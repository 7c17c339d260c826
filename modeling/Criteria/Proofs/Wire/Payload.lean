import Criteria.Proofs.Number.Rounding
import Criteria.Wire.Form

/-!
# Payloads

The values that a text of the wire format can stand for.

A payload is made of nulls, truths, whole numbers, finite doubles, texts, lists
and tables whose keys are texts, each given once. Whole numbers have no more
digits than the reader takes; no text stands for a longer one, and
`Json.isJson_iff_exists_text` shows that the rest is no restriction either.

Payloads are their own wire form.

## Main definitions

* `Value.IsJson`: A payload.

## Theorems

* `wire_eq_ok`: A payload is its own wire form.
* `wireAll_eq_ok`, `wireFields_eq_ok`: The same for lists and for tables.
* `depth_lt_list`, `depth_lt_of_elements?`, `depth_lt_dict`, `depth_lt_table`: Elements
  are less deep than what they are in.
-/

namespace Criteria

namespace Value

/-- A payload. -/
inductive IsJson : Value → Prop
  | null : IsJson .null
  | bool (b : Bool) : IsJson (.bool b)
  | int (n : Int) (h : n.natAbs < 10 ^ maxDigits) : IsJson (.int n)
  | float (x : Binary64) (h : x.IsCanonical) : IsJson (.float x)
  | text (s : String) : IsJson (.text s)
  | list (xs : List Value) (h : ∀ x ∈ xs, IsJson x) : IsJson (.list xs)
  | table (entries : List (String × Value)) (hkeys : (entries.map Prod.fst).Nodup)
      (h : ∀ e ∈ entries, IsJson e.2) : IsJson (table entries)

-- The two rules for literals: what is in them is given one by one.
theorem IsJson.list_of_forall {xs : List Value} (h : List.Forall IsJson xs) :
    (Value.list xs).IsJson :=
  IsJson.list xs (List.forall_iff_forall_mem.mp h)

theorem IsJson.table_of_forall {entries : List (String × Value)}
    (hkeys : (entries.map Prod.fst).Nodup) (h : List.Forall (fun e => e.2.IsJson) entries) :
    (Value.table entries).IsJson :=
  IsJson.table entries hkeys (List.forall_iff_forall_mem.mp h)

section Forms

theorem wireAll_eq_ok {xs : List Value} (h : ∀ x ∈ xs, wire x = .ok x) : wireAll xs = .ok xs := by
  induction xs with
  | nil => rfl
  | cons x xs ih =>
      rw [wireAll, h x List.mem_cons_self, ih fun y hy => h y (List.mem_cons_of_mem x hy)]
      rfl

theorem wireEntries_eq_ok {entries : List (String × Value)}
    (h : ∀ e ∈ entries, wire e.2 = .ok e.2) :
    wireEntries (entries.map fun (k, v) => (text k, v)) = .ok entries := by
  induction entries with
  | nil => rfl
  | cons e es ih =>
      have he : wireEntry (text e.1, e.2) = .ok e := by
        rw [wireEntry, h e List.mem_cons_self]
        rfl
      rw [List.map_cons, wireEntries, ih fun y hy => h y (List.mem_cons_of_mem e hy)]
      show (wireEntry (text e.1, e.2) >>= _) = _
      rw [he]
      rfl

theorem wireFields_eq_ok {entries : List (String × Value)}
    (h : ∀ e ∈ entries, wire e.2 = .ok e.2) : wireFields true entries = .ok entries := by
  induction entries with
  | nil => rfl
  | cons e es ih =>
      have he : wireField true e = .ok [e] := by
        rw [wireField, Bool.not_true, Bool.and_false, if_neg Bool.false_ne_true,
          h e List.mem_cons_self]
        rfl
      rw [wireFields, he, ih fun y hy => h y (List.mem_cons_of_mem e hy)]
      rfl

/-- A payload is its own wire form. -/
theorem wire_eq_ok {v : Value} (h : v.IsJson) : wire v = .ok v := by
  induction h with
  | null => rfl
  | bool b => rfl
  | int n h => rfl
  | float x h =>
      -- The wire has no infinite or undefined numbers, and the premise excludes them.
      cases x with
      | finite negative m e => rfl
      | infinite negative => exact absurd h id
      | undefined => exact absurd h id
  | text s => rfl
  | list xs h ih =>
      rw [wire, wireAll_eq_ok ih]
      rfl
  | table entries hkeys h ih =>
      rw [Value.table, wire, wireEntries_eq_ok ih]
      rfl

end Forms

section Depths

/-- Elements are less deep than the list they are in. -/
theorem depth_lt_list {x : Value} {xs : List Value} (h : x ∈ xs) : x.depth < (list xs).depth := by
  have hle : x.depth ≤ depthAll xs := by
    induction xs with
    | nil => exact absurd h List.not_mem_nil
    | cons y ys ih =>
        rw [depthAll]
        rcases List.mem_cons.mp h with rfl | h
        · exact Nat.le_max_left _ _
        · exact Nat.le_trans (ih h) (Nat.le_max_right _ _)
  rw [depth]
  exact Nat.lt_succ_of_le hle

/-- The same for collections of all sorts. -/
theorem depth_lt_of_elements? {v x : Value} {xs : List Value} (h : v.elements? = some xs)
    (hx : x ∈ xs) : x.depth < v.depth := by
  have hlt := depth_lt_list hx
  cases v with
  | list ys => exact Option.some.inj h ▸ hlt
  | tuple ys => exact Option.some.inj h ▸ hlt
  | set frozen ys => exact Option.some.inj h ▸ hlt
  | _ => cases h

/-- Entries are less deep than the object they are in. -/
theorem depth_lt_dict {e : Value × Value} {es : List (Value × Value)} (h : e ∈ es) :
    e.2.depth < (dict es).depth := by
  have hle : e.2.depth ≤ depthEntries es := by
    induction es with
    | nil => exact absurd h List.not_mem_nil
    | cons y ys ih =>
        rw [depthEntries]
        rcases List.mem_cons.mp h with rfl | h
        · rw [depthEntry.eq_def]
          exact Nat.le_trans (Nat.le_max_right _ _) (Nat.le_max_left _ _)
        · exact Nat.le_trans (ih h) (Nat.le_max_right _ _)
  rw [depth]
  exact Nat.lt_succ_of_le hle

/-- Members are less deep than the table they are in. -/
theorem depth_lt_table {e : String × Value} {entries : List (String × Value)} (h : e ∈ entries) :
    e.2.depth < (table entries).depth :=
  depth_lt_dict (e := (.text e.1, e.2)) (List.mem_map.mpr ⟨e, h, rfl⟩)

end Depths

end Value

end Criteria
