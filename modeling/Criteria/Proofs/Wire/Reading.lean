import Criteria.Proofs.Outcome
import Criteria.Proofs.Value.Equality
import Criteria.Proofs.Wire.Text

/-!
# Values of Texts

Which values a text can stand for.

The reader takes more than the standard has: words for infinity and the
undefined number, numbers beyond the largest double, and several members of one
name. What it gives is a payload all the same, as long as the numbers in it are
finite. A whole number has no more digits than the reader takes, a fraction is
rounded to a double, and a member keeps one place however often it is given.

So the payloads are exactly the values with finite numbers that a text stands
for: `read_write` is the other half. The reader goes through a text in one way
whatever is asked of the values in it, and `IsKeptByReading` is what a property has
to do for that.

## Main definitions

* `Value.HasFiniteNumbers`: No number in a value is infinite or undefined.
* `Json.IsKeptByReading`: What holds of all that is read because it holds of its
  parts.
* `Json.ReadsValues`, `Json.ReadsItems`, `Json.ReadsMembers`: It holds of what a
  reader gives, for values, lists and tables.

## Theorems

* `holds_of_readNumber`, `holds_of_readWord?`: Numbers and words.
* `mem_setMember`, `nodup_setMember`: A member that is set, and its name.
* `reads`: What stands at the front of a text.
* `isDocument_of_read`: A text stands for a document.
* `isJson_of_read`: A text stands for a payload, if its numbers are finite.
* `isJson_iff_exists_text`: Payloads are the values that texts stand for.
-/

namespace Criteria

/-- No number in a value that is made of scalars, lists and tables is infinite or
    undefined. -/
inductive Value.HasFiniteNumbers : Value → Prop
  | null : HasFiniteNumbers .null
  | bool (b : Bool) : HasFiniteNumbers (.bool b)
  | int (n : Int) : HasFiniteNumbers (.int n)
  | float (negative : Bool) (m : Nat) (e : Int) : HasFiniteNumbers (.float (.finite negative m e))
  | text (s : String) : HasFiniteNumbers (.text s)
  | list (xs : List Value) (h : ∀ x ∈ xs, HasFiniteNumbers x) : HasFiniteNumbers (.list xs)
  | dict (es : List (Value × Value)) (h : ∀ e ∈ es, HasFiniteNumbers e.2) :
      HasFiniteNumbers (.dict es)

/-- Payloads have finite numbers. -/
theorem Value.IsJson.hasFiniteNumbers {v : Value} (h : v.IsJson) : v.HasFiniteNumbers := by
  -- Induction on the value; a float of JSON is finite by definition.
  induction h with
  | null => exact .null
  | bool b => exact .bool b
  | int n _ => exact .int n
  | float x hx =>
      cases x with
      | finite negative m e => exact .float negative m e
      | infinite negative => exact absurd hx id
      | undefined => exact absurd hx id
  | text s => exact .text s
  | list xs _ ih => exact .list xs ih
  | table entries _ _ ih =>
      refine .dict _ fun e he => ?_
      rcases List.mem_map.mp he with ⟨d, hd, rfl⟩
      exact ih d hd

namespace Json

section Scalars

/-- A double that a text stands for is one, if it is finite. -/
theorem fits_of_readBinary64? {s : String} {negative : Bool} {m : Nat} {e : Int}
    (h : readBinary64? s = some (.finite negative m e)) : Binary64.Fits m e := by
  rw [readBinary64?] at h
  dsimp only at h
  split at h
  · exact absurd h (by simp only [Option.some.injEq, reduceCtorEq, not_false_eq_true])
  · exact absurd h (by simp only [Option.some.injEq, reduceCtorEq, not_false_eq_true])
  · exact absurd h (by simp only [Option.some.injEq, reduceCtorEq, not_false_eq_true])
  · rcases Option.map_eq_some_iff.mp h with ⟨⟨c, k⟩, -, hx⟩
    exact Binary64.fits_of_ofScientific hx

/-- What holds of scalars that are read, and of lists and tables if it holds of what
    is in them, keys being distinct. -/
structure IsKeptByReading (J : Value → Prop) : Prop where
  word : ∀ e ∈ words, J e.2
  int : ∀ n : Int, n.natAbs < 10 ^ maxDigits → J (.int n)
  float : ∀ s x, readBinary64? s = some x → J (.float x)
  text : ∀ s, J (.text s)
  list : ∀ xs, (∀ x ∈ xs, J x) → J (.list xs)
  table : ∀ es : List (String × Value), (es.map Prod.fst).Nodup → (∀ e ∈ es, J e.2) → J (.table es)

variable {J : Value → Prop} {cs rest : List Char} {v : Value}

theorem holds_of_readNumber (hJ : IsKeptByReading J) (h : readNumber cs = .ok (v, rest)) : J v := by
  rw [readNumber] at h
  dsimp only at h
  split at h
  · exact absurd h (by simp only [reduceCtorEq, not_false_eq_true])
  -- A whole number or a float, by whether a fraction or an exponent was written.
  split at h
  · split at h
    · rename_i n hn
      rw [← (Prod.mk.inj (Except.ok.inj h)).1]
      exact hJ.int n (natAbs_lt_of_readIntChars? hn)
    · exact absurd h (by simp only [reduceCtorEq, not_false_eq_true])
  · split at h
    · rename_i x hx
      rw [← (Prod.mk.inj (Except.ok.inj h)).1]
      exact hJ.float _ x hx
    · exact absurd h (by simp only [reduceCtorEq, not_false_eq_true])

theorem holds_of_readWord? (hJ : IsKeptByReading J) (h : readWord? cs = some (v, rest)) : J v := by
  rcases List.exists_of_findSome?_eq_some h with ⟨e, he, hword⟩
  rcases Option.map_eq_some_iff.mp hword with ⟨_, -, hv⟩
  rw [← (Prod.mk.inj hv).1]
  exact hJ.word e he

/-- Everything that is read is a document. -/
theorem isKeptByReading_isDocument : IsKeptByReading Value.IsDocument where
  word := by
    intro e he
    simp only [words, List.mem_cons, List.not_mem_nil, or_false] at he
    rcases he with rfl | rfl | rfl | rfl | rfl | rfl
    · exact .null
    · exact .bool true
    · exact .bool false
    · exact .float .undefined
    · exact .float (.infinite false)
    · exact .float (.infinite true)
  int n _ := .int n
  float _ x _ := .float x
  text := .text
  list := .list
  table := .table

/-- Everything that is read is a payload if its numbers are finite. -/
theorem isKeptByReading_isJson : IsKeptByReading fun v => v.HasFiniteNumbers → v.IsJson where
  word := by
    intro e he hv
    simp only [words, List.mem_cons, List.not_mem_nil, or_false] at he
    rcases he with rfl | rfl | rfl | rfl | rfl | rfl
    · exact .null
    · exact .bool true
    · exact .bool false
    -- The other three words are for numbers that are not finite.
    · cases hv
    · cases hv
    · cases hv
  int n hn _ := .int n hn
  float s x hx hv := by
    cases hv with
    | float negative m e => exact .float _ (fits_of_readBinary64? hx)
  text s _ := .text s
  list xs hxs hv := by
    cases hv with
    | list _ hfinite => exact .list xs fun x hx => hxs x hx (hfinite x hx)
  table es hkeys hes hv := by
    cases hv with
    | dict _ hfinite =>
        refine .table es hkeys fun e he => hes e he ?_
        exact hfinite (.text e.1, e.2) (List.mem_map.mpr ⟨e, he, rfl⟩)

end Scalars

section Members

variable {es : List (String × Value)} {k : String} {v : Value}

/-- A member is one of those before or the one that is set. -/
theorem mem_setMember {e : String × Value} (h : e ∈ setMember es k v) : e = (k, v) ∨ e ∈ es := by
  induction es with
  | nil =>
      rw [setMember, List.mem_singleton] at h
      exact .inl h
  | cons d ds ih =>
      rw [setMember] at h
      split at h
      · rcases List.mem_cons.mp h with he | he
        · exact .inl he
        · exact .inr (List.mem_cons_of_mem d he)
      · rcases List.mem_cons.mp h with he | he
        · exact .inr (he ▸ List.mem_cons_self)
        · exact (ih he).imp id (List.mem_cons_of_mem d)

/-- Names stay distinct when a member is set. -/
theorem nodup_setMember (h : (es.map Prod.fst).Nodup) :
    ((setMember es k v).map Prod.fst).Nodup := by
  -- Induction on the members, along the search for the key.
  induction es with
  | nil => exact List.nodup_singleton k
  | cons d ds ih =>
      rw [List.map_cons, List.nodup_cons] at h
      rw [setMember]
      split
      · rename_i hd
        rw [List.map_cons, List.nodup_cons, ← hd]
        exact h
      · rename_i hd
        rw [List.map_cons, List.nodup_cons]
        refine ⟨fun hmem => ?_, ih h.2⟩
        rcases List.mem_map.mp hmem with ⟨e, he, hed⟩
        rcases mem_setMember he with rfl | he
        · exact hd hed.symm
        · exact h.1 (List.mem_map.mpr ⟨e, he, hed⟩)

end Members

section Documents

variable {J : Value → Prop}

/-- It holds of values at the front of a text. -/
def ReadsValues (J : Value → Prop) (fuel : Nat) : Prop :=
  ∀ cs v rest, readValue fuel cs = .ok (v, rest) → J v

/-- It holds of lists that are read in part, if it holds of the elements before. -/
def ReadsItems (J : Value → Prop) (fuel : Nat) : Prop :=
  ∀ done cs v rest, (∀ x ∈ done, J x) → readItems fuel done cs = .ok (v, rest) → J v

/-- It holds of tables that are read in part, if it holds of the members before. -/
def ReadsMembers (J : Value → Prop) (fuel : Nat) : Prop :=
  ∀ done cs v rest, (done.map Prod.fst).Nodup → (∀ e ∈ done, J e.2) →
    readMembers fuel done cs = .ok (v, rest) → J v

variable {fuel : Nat}

theorem ReadsValues.succ (hJ : IsKeptByReading J) (hitems : ReadsItems J fuel)
    (hmembers : ReadsMembers J fuel) : ReadsValues J (fuel + 1) := by
  intro cs v rest h
  rw [readValue.eq_def] at h
  dsimp only at h
  split at h
  -- A text between quotes, whatever it is.
  · rcases bind_eq_ok_iff.mp h with ⟨⟨s, rest'⟩, -, h⟩
    rw [← (Prod.mk.inj (Except.ok.inj h)).1]
    exact hJ.text s
  -- A list begins with nothing read before.
  · split at h
    · rw [← (Prod.mk.inj (Except.ok.inj h)).1]
      exact hJ.list [] fun x hx => absurd hx List.not_mem_nil
    · exact hitems [] _ v rest (fun x hx => absurd hx List.not_mem_nil) h
  -- So does a table.
  · split at h
    · rw [← (Prod.mk.inj (Except.ok.inj h)).1]
      exact hJ.table [] List.nodup_nil fun e he => absurd he List.not_mem_nil
    · exact hmembers [] _ v rest List.nodup_nil (fun e he => absurd he List.not_mem_nil) h
  -- Everything else is a word or a number.
  · split at h
    · rename_i r hr
      rw [Except.ok.inj h] at hr
      exact holds_of_readWord? hJ hr
    · exact holds_of_readNumber hJ h

theorem ReadsItems.succ (hJ : IsKeptByReading J) (hvalue : ReadsValues J fuel)
    (hitems : ReadsItems J fuel) : ReadsItems J (fuel + 1) := by
  intro done cs v rest hdone h
  rw [readItems] at h
  rcases bind_eq_ok_iff.mp h with ⟨⟨x, rest'⟩, hx, h⟩
  -- The item that was just read is added to those before it.
  have hnext : ∀ y ∈ x :: done, J y := by
    intro y hy
    rcases List.mem_cons.mp hy with rfl | hy
    · exact hvalue cs y rest' hx
    · exact hdone y hy
  dsimp only at h
  split at h
  · exact hitems (x :: done) _ v rest hnext h
  -- The list ends here, and its elements were collected in reverse.
  · rw [← (Prod.mk.inj (Except.ok.inj h)).1]
    exact hJ.list _ fun y hy => hnext y (List.mem_reverse.mp hy)
  · exact absurd h (by simp only [reduceCtorEq, not_false_eq_true])

theorem ReadsMembers.succ (hJ : IsKeptByReading J) (hvalue : ReadsValues J fuel)
    (hmembers : ReadsMembers J fuel) : ReadsMembers J (fuel + 1) := by
  intro done cs v rest hkeys hdone h
  rw [readMembers.eq_def] at h
  dsimp only at h
  split at h
  · rcases bind_eq_ok_iff.mp h with ⟨⟨k, rest₁⟩, -, h⟩
    dsimp only at h
    split at h
    · rcases bind_eq_ok_iff.mp h with ⟨⟨x, rest₂⟩, hx, h⟩
      -- A member with the same key is replaced, so the members stay distinct.
      have hnext : ∀ e ∈ setMember done k x, J e.2 := by
        intro e he
        rcases mem_setMember he with rfl | he
        · exact hvalue _ x rest₂ hx
        · exact hdone e he
      dsimp only at h
      split at h
      · exact hmembers _ _ v rest (nodup_setMember hkeys) hnext h
      -- The table ends here.
      · rw [← (Prod.mk.inj (Except.ok.inj h)).1]
        exact hJ.table _ (nodup_setMember hkeys) hnext
      · exact absurd h (by simp only [reduceCtorEq, not_false_eq_true])
    · exact absurd h (by simp only [reduceCtorEq, not_false_eq_true])
  · exact absurd h (by simp only [reduceCtorEq, not_false_eq_true])

/-- Values, lists and tables at once, since they are read one in the other. -/
theorem reads (hJ : IsKeptByReading J) (fuel : Nat) :
    ReadsValues J fuel ∧ ReadsItems J fuel ∧ ReadsMembers J fuel := by
  induction fuel with
  | zero =>
      refine ⟨?_, ?_, ?_⟩
      · intro cs v rest h
        simp only [readValue, reduceCtorEq] at h
      · intro done cs v rest _ h
        simp only [readItems, reduceCtorEq] at h
      · intro done cs v rest _ _ h
        simp only [readMembers, reduceCtorEq] at h
  | succ fuel ih =>
      rcases ih with ⟨hvalue, hitems, hmembers⟩
      exact ⟨.succ hJ hitems hmembers, .succ hJ hvalue hitems, .succ hJ hvalue hmembers⟩

/-- What is kept by reading holds of what a whole text stands for. -/
theorem holds_of_read (hJ : IsKeptByReading J) {text : String} {v : Value}
    (h : read text = .ok v) : J v := by
  rw [read] at h
  split at h
  · exact absurd h (by simp only [reduceCtorEq, not_false_eq_true])
  · rename_i x rest hx
    split at h
    · rw [Except.ok.inj h] at hx
      exact (reads hJ _).1 _ v rest hx
    · exact absurd h (by simp only [reduceCtorEq, not_false_eq_true])

/-- A text stands for a document. -/
theorem isDocument_of_read {text : String} {v : Value} (h : read text = .ok v) : v.IsDocument :=
  holds_of_read isKeptByReading_isDocument h

/-- Payloads are documents, since every payload can be written. -/
theorem isDocument_of_isJson {v : Value} (h : v.IsJson) : v.IsDocument :=
  isDocument_of_read (read_write h)

/-- A text stands for a payload, if its numbers are finite. -/
theorem isJson_of_read {text : String} {v : Value} (h : read text = .ok v)
    (hv : v.HasFiniteNumbers) : v.IsJson :=
  holds_of_read isKeptByReading_isJson h hv

/-- The payloads are the values with finite numbers that texts stand for. -/
theorem isJson_iff_exists_text {v : Value} :
    v.IsJson ↔ v.HasFiniteNumbers ∧ ∃ text, read text = .ok v :=
  ⟨fun h => ⟨h.hasFiniteNumbers, write v, read_write h⟩, fun ⟨hv, _, h⟩ => isJson_of_read h hv⟩

end Documents

end Json

end Criteria
