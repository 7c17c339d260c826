import Criteria.Proofs.Number.Numeral
import Criteria.Proofs.Wire.Payload
import Criteria.Wire.Writer
import Mathlib.Tactic.IntervalCases

/-!
# Texts of Payloads

The text that is written for a payload is read as the payload.

The reader takes a value from the front of a text and leaves the rest, so the
statement about a value speaks of any rest in front of which a number ends:
within lists and tables the rest begins with a comma or a bracket. Elements and
members are read into what has been read before, and the lemmas about them speak
of any such beginning.

The reader counts down at every value, list and member. Twice the length of the
text is always enough, since each of them takes at least one character; this is
what the text of a whole document is read with.

## Theorems

* `readString_escape`: An escaped character is read as the character.
* `readString_string`: A text between quotes is read as the text.
* `readWord?_eq_none`: A number is none of the words.
* `readItems_write`, `readMembers_write`: Elements and members.
* `readValue_write`: A payload is read from the front of a text.
* `read_write`: A payload is read from its text.
-/

namespace Criteria

namespace Json

section Strings

/-- An escaped character is read as the character. -/
theorem readString_escape (fuel : Nat) (done : List Char) (c : Char) (cs : List Char) :
    readString (fuel + 1) done ((escape c).toList ++ cs) = readString fuel (c :: done) cs := by
  have hofNat {n : Nat} (h : c.toNat = n) : c = Char.ofNat n := by rw [← h, Char.ofNat_toNat]
  -- The cases follow the order in which `escape` tests: the named escapes, then the codes below a
  -- blank, then the characters that stand for themselves.
  rw [escape]
  split
  · rename_i h
    rw [h]
    rfl
  split
  · rename_i h
    rw [h]
    rfl
  split
  · rename_i h
    rw [h]
    rfl
  split
  · rename_i h
    rw [h]
    rfl
  split
  · rename_i h
    rw [h]
    rfl
  split
  · rename_i h
    rw [hofNat h]
    rfl
  split
  · rename_i h
    rw [hofNat h]
    rfl
  split
  · -- The remaining control characters are few.
    rename_i h
    obtain ⟨n, hn⟩ : ∃ n, c.toNat = n := ⟨_, rfl⟩
    rw [hn] at h ⊢
    rw [hofNat hn]
    interval_cases n <;> rfl
  -- Any other character is written as it is, and read as it is because it is no
  -- quote, backslash or control character.
  · rename_i hquote hbackslash _ _ _ _ _ hcontrol
    rw [Char.toString_eq_singleton, String.toList_singleton, List.singleton_append, readString,
      if_neg hquote, if_neg hcontrol, if_neg hbackslash]

/-- The characters of a text between quotes. -/
theorem toList_string (s : String) :
    (string s).toList = '"' :: (s.toList.flatMap (fun c => (escape c).toList) ++ ['"']) := by
  rw [string, String.toList_append, String.toList_append, String.toList_join, List.flatMap_map]
  rfl

theorem escape_ne_nil (c : Char) : (escape c).toList ≠ [] := by
  rw [escape]
  split_ifs <;> simp [String.toList_append]

theorem length_le_flatMap_escape (cs : List Char) :
    cs.length ≤ (cs.flatMap fun c => (escape c).toList).length := by
  induction cs with
  | nil => exact Nat.le_refl 0
  | cons c cs ih =>
      have hpos := List.length_pos_iff.mpr (escape_ne_nil c)
      rw [List.flatMap_cons, List.length_append, List.length_cons]
      omega

/-- The characters of a text between quotes are read up to the closing one. -/
theorem readString_flatMap_escape {fuel : Nat} (done cs rest : List Char) (h : cs.length < fuel) :
    readString fuel done (cs.flatMap (fun c => (escape c).toList) ++ '"' :: rest) =
      .ok (String.ofList (done.reverse ++ cs), rest) := by
  induction cs generalizing fuel done with
  | nil =>
      obtain ⟨fuel, rfl⟩ := Nat.exists_eq_add_of_lt h
      rw [List.append_nil]
      rfl
  | cons c cs ih =>
      rw [List.length_cons] at h
      obtain ⟨fuel, rfl⟩ : ∃ f, fuel = f + 1 := ⟨fuel - 1, by omega⟩
      rw [List.flatMap_cons, List.append_assoc, readString_escape, ih _ (by omega),
        List.reverse_cons, List.append_assoc]
      rfl

/-- A text between quotes is read as the text. -/
theorem readString_string (s : String) (rest : List Char) :
    readString ((string s).toList.tail ++ rest).length [] ((string s).toList.tail ++ rest) =
      .ok (s, rest) := by
  have hlength := length_le_flatMap_escape s.toList
  rw [toList_string, List.tail_cons, List.append_assoc, List.singleton_append,
    readString_flatMap_escape _ _ _ (by rw [List.length_append, List.length_cons]; omega)]
  rw [List.reverse_nil, List.nil_append, String.ofList_toList]

end Strings

section Words

variable {c : Char} {cs : List Char} {fuel : Nat}

theorem skipBlanks_cons (hc : isBlank c = false) : skipBlanks (c :: cs) = c :: cs := by
  rw [skipBlanks, List.dropWhile_cons_of_neg (by rw [hc]; decide)]

/-- What does not begin with a quote or a bracket is a word. -/
theorem readValue_word {r : Value × List Char} (hquote : c ≠ '"') (hlist : c ≠ '[')
    (htable : c ≠ '\x7b') (h : readWord? (c :: cs) = some r) :
    readValue (fuel + 1) (c :: cs) = .ok r := by
  rw [readValue.eq_def]
  simp only
  split
  · rename_i heq
    exact absurd (List.cons.inj heq).1 hquote
  · rename_i heq
    exact absurd (List.cons.inj heq).1 hlist
  · rename_i heq
    exact absurd (List.cons.inj heq).1 htable
  · rw [h]

/-- What is not a word either is a number. -/
theorem readValue_number (hquote : c ≠ '"') (hlist : c ≠ '[') (htable : c ≠ '\x7b')
    (h : readWord? (c :: cs) = none) : readValue (fuel + 1) (c :: cs) = readNumber (c :: cs) := by
  rw [readValue.eq_def]
  simp only
  split
  · rename_i heq
    exact absurd (List.cons.inj heq).1 hquote
  · rename_i heq
    exact absurd (List.cons.inj heq).1 hlist
  · rename_i heq
    exact absurd (List.cons.inj heq).1 htable
  · rw [h]

/-- A number is none of the words. -/
theorem readWord?_eq_none {t : Numeral} (ht : t.IsWritten) (rest : List Char) :
    readWord? (t.chars ++ rest) = none := by
  obtain ⟨d, cs, hbody, hd⟩ := ht.exists_head
  have hne {w : Char} (hw : w.isDigit = false) : w ≠ d := (ne_of_isDigit hd hw).symm
  rw [readWord?, List.findSome?_eq_none_iff, Numeral.chars, hbody]
  cases t.negative <;>
    simp [words, afterWord?, Numeral.signChars, hne (w := 'n') (by decide),
      hne (w := 't') (by decide), hne (w := 'f') (by decide), hne (w := 'N') (by decide),
      hne (w := 'I') (by decide), hne (w := '-') (by decide)]

end Words

section Values

/-- The value is read from the front of its text. -/
def Reads (v : Value) : Prop :=
  ∀ (fuel : Nat) (rest : List Char), Ends rest → 2 * (write v).toList.length ≤ fuel →
    readValue fuel ((write v).toList ++ rest) = .ok (v, rest)

theorem ends_cons {c : Char} (cs : List Char)
    (h : isDigit c = false ∧ c ≠ '.' ∧ c ≠ 'e' ∧ c ≠ 'E') : Ends (c :: cs) := by
  intro d hd
  rw [← Option.some.inj hd]
  exact h

/-- The text of a payload begins with no blank and no closing bracket. -/
theorem exists_head_write {v : Value} (h : v.IsJson) :
    ∃ c cs, (write v).toList = c :: cs ∧ isBlank c = false ∧ c ≠ ']' := by
  -- Both kinds of numbers begin with a sign or a digit.
  have hnumeral {t : Numeral} {s : String} (ht : t.IsWritten) (hs : t.chars = s.toList) :
      ∃ c cs, s.toList = c :: cs ∧ isBlank c = false ∧ c ≠ ']' := by
    obtain ⟨d, cs, hbody, hd⟩ := ht.exists_head
    rw [← hs, Numeral.chars, hbody]
    cases t.negative with
    | true => exact ⟨'-', d :: cs, rfl, by decide, by decide⟩
    | false =>
        exact ⟨d, cs, rfl, forall_digit (P := fun c => isBlank c = false) (by decide) hd,
          ne_of_isDigit hd (by decide)⟩
  -- Only the closing bracket matters of the first character:
  -- `readItems` takes it for the end of a list.
  cases h with
  | null => exact ⟨'n', _, rfl, by decide, by decide⟩
  | bool b =>
      cases b with
      | true => exact ⟨'t', _, rfl, by decide, by decide⟩
      | false => exact ⟨'f', _, rfl, by decide, by decide⟩
  | int n h =>
      rcases exists_numeral_toString n with ⟨t, ht, hchars, -⟩
      exact hnumeral ht hchars
  | float x h =>
      rcases exists_numeral_write h with ⟨t, ht, -, hchars, -⟩
      exact hnumeral ht hchars
  | text s => exact ⟨'"', _, toList_string s, by decide, by decide⟩
  | list xs h =>
      rw [write, String.toList_append, String.toList_append]
      exact ⟨'[', _, rfl, by decide, by decide⟩
  | table entries hkeys h =>
      rw [Value.table, write, String.toList_append, String.toList_append]
      exact ⟨'\x7b', _, rfl, by decide, by decide⟩

theorem writeAll_eq_map (xs : List Value) : writeAll xs = xs.map write := by
  induction xs with
  | nil => rfl
  | cons x xs ih => rw [writeAll, ih, List.map_cons]

theorem writeEntries_eq_map (es : List (Value × Value)) : writeEntries es = es.map writeEntry := by
  induction es with
  | nil => rfl
  | cons e es ih => rw [writeEntries, ih, List.map_cons]

/-- Texts with commas between them: the first one, and each further one behind a
    comma. -/
theorem toList_intercalate_cons (s : String) (ss : List String) :
    (",".intercalate (s :: ss)).toList = s.toList ++ ss.flatMap fun t => ',' :: t.toList := by
  induction ss generalizing s with
  | nil => rw [String.intercalate_singleton, List.flatMap_nil, List.append_nil]
  | cons t ss ih =>
      rw [String.intercalate_cons_cons, String.toList_append, String.toList_append, ih,
        List.flatMap_cons, List.append_assoc]
      rfl

/-- The text of a list that is not empty. -/
theorem toList_write_list (x : Value) (xs : List Value) : (write (.list (x :: xs))).toList =
    '[' :: ((write x).toList ++ (xs.flatMap fun y => ',' :: (write y).toList) ++ [']']) := by
  rw [write, writeAll_eq_map, String.toList_append, String.toList_append, List.map_cons,
    toList_intercalate_cons, List.flatMap_map]
  rfl

/-- The elements of a list are read behind those that have been read. -/
theorem readItems_write (fuel : Nat) (x : Value) (xs done : List Value) (rest : List Char)
    (hread : ∀ y ∈ x :: xs, Reads y) (hjson : ∀ y ∈ x :: xs, y.IsJson)
    (hfuel : 2 * ((write x).toList ++ (xs.flatMap fun y => ',' :: (write y).toList) ++
      [']']).length ≤ fuel) :
    readItems fuel done ((write x).toList ++
      ((xs.flatMap fun y => ',' :: (write y).toList) ++ ']' :: rest)) =
        .ok (.list (done.reverse ++ x :: xs), rest) := by
  -- Induction on the items that are still to be read, for any fuel and any items done.
  induction xs generalizing fuel x done with
  | nil =>
      rw [List.flatMap_nil, List.append_nil, List.length_append, List.length_singleton] at hfuel
      obtain ⟨fuel, rfl⟩ : ∃ f, fuel = f + 1 := ⟨fuel - 1, by omega⟩
      -- The item in front is read up to the bracket or the comma behind it.
      have hx := hread x List.mem_cons_self fuel (']' :: rest)
        (ends_cons rest (by decide)) (by omega)
      rw [List.flatMap_nil, List.nil_append, readItems, hx]
      show Except.ok (Value.list (x :: done).reverse, rest) = _
      rw [List.reverse_cons]
  | cons y ys ih =>
      rw [List.flatMap_cons, List.append_assoc, List.cons_append, List.length_append,
        List.cons_append, List.length_cons] at hfuel
      obtain ⟨fuel, rfl⟩ : ∃ f, fuel = f + 1 := ⟨fuel - 1, by omega⟩
      have hx := hread x List.mem_cons_self fuel
        (',' :: ((write y).toList ++
          ((ys.flatMap fun y => ',' :: (write y).toList) ++ ']' :: rest)))
        (ends_cons _ (by decide)) (by omega)
      -- Every item takes fuel in proportion to its length, so what is left is enough for the rest.
      have hrest : 2 * ((write y).toList ++ (ys.flatMap fun y => ',' :: (write y).toList) ++
          [']']).length ≤ fuel := by omega
      have hys := ih fuel y (x :: done) (fun z hz => hread z (List.mem_cons_of_mem x hz))
        (fun z hz => hjson z (List.mem_cons_of_mem x hz)) hrest
      -- The next item begins without a blank, so the blanks skipped behind the comma are none.
      obtain ⟨c, cs, hhead, hblank, -⟩ := exists_head_write (hjson y (by simp))
      rw [List.flatMap_cons, List.append_assoc, List.cons_append, readItems, hx]
      show readItems fuel (x :: done) (skipBlanks _) = _
      rw [hhead, List.cons_append, skipBlanks_cons hblank, ← List.cons_append, ← hhead, hys,
        List.reverse_cons, List.append_assoc]
      rfl

/-- The characters of a member. -/
def memberChars (e : String × Value) : List Char :=
  (string e.1).toList ++ ':' :: (write e.2).toList

theorem toList_writeEntry (e : String × Value) :
    (writeEntry (.text e.1, e.2)).toList = memberChars e := by
  rw [writeEntry, String.toList_append, String.toList_append, List.append_assoc]
  rfl

/-- The text of a table that is not empty. -/
theorem toList_write_table (e : String × Value) (es : List (String × Value)) :
    (write (Value.table (e :: es))).toList =
      '\x7b' :: (memberChars e ++ (es.flatMap fun m => ',' :: memberChars m) ++ ['\x7d']) := by
  rw [Value.table, write, writeEntries_eq_map, String.toList_append, String.toList_append,
    List.map_cons, List.map_cons, toList_intercalate_cons, List.flatMap_map, List.flatMap_map,
    toList_writeEntry]
  simp only [toList_writeEntry]
  rfl

/-- A member of a new name is set behind the others. -/
theorem setMember_eq_append {entries : List (String × Value)} {k : String} (v : Value)
    (h : k ∉ entries.map Prod.fst) : setMember entries k v = entries ++ [(k, v)] := by
  induction entries with
  | nil => rfl
  | cons e es ih =>
      rw [List.map_cons, List.mem_cons, not_or] at h
      rw [setMember, if_neg (Ne.symm h.1), ih h.2]
      rfl

/-- The name of a member and the colon are read before its value. -/
theorem readMembers_memberChars {fuel : Nat} {e : String × Value} {done : List (String × Value)}
    {after : List Char} (hread : Reads e.2) (hjson : e.2.IsJson) (hafter : Ends after)
    (hfuel : 2 * (write e.2).toList.length ≤ fuel) :
    readMembers (fuel + 1) done (memberChars e ++ after) =
      match skipBlanks after with
      | ',' :: rest => readMembers fuel (setMember done e.1 e.2) (skipBlanks rest)
      | '\x7d' :: rest => .ok (Value.table (setMember done e.1 e.2), rest)
      | _ => .error .malformed := by
  obtain ⟨c, cs, hhead, hblank, -⟩ := exists_head_write hjson
  -- The name, the colon and the value are read one after the other; what
  -- stands behind decides how to go on.
  have hvalue := hread fuel after hafter hfuel
  have hname := readString_string e.1 (':' :: ((write e.2).toList ++ after))
  have hquote : (string e.1).toList = '"' :: (string e.1).toList.tail := by
    rw [toList_string, List.tail_cons]
  rw [memberChars, List.append_assoc, hquote, List.cons_append, readMembers]
  show (readString _ [] _ >>= _) = _
  rw [List.cons_append, hname]
  show (readValue fuel (skipBlanks ((write e.2).toList ++ after)) >>= _) = _
  rw [hhead, List.cons_append, skipBlanks_cons hblank, ← List.cons_append, ← hhead, hvalue]
  rfl

/-- The members of a table are read behind those that have been read. -/
theorem readMembers_write (fuel : Nat) (e : String × Value) (es done : List (String × Value))
    (rest : List Char) (hread : ∀ m ∈ e :: es, Reads m.2) (hjson : ∀ m ∈ e :: es, m.2.IsJson)
    (hkeys : ((done ++ e :: es).map Prod.fst).Nodup)
    (hfuel : 2 * (memberChars e ++ (es.flatMap fun m => ',' :: memberChars m) ++
      ['\x7d']).length ≤ fuel) :
    readMembers fuel done (memberChars e ++
      ((es.flatMap fun m => ',' :: memberChars m) ++ '\x7d' :: rest)) =
        .ok (Value.table (done ++ e :: es), rest) := by
  -- The fuel is counted in characters of the whole member, of which the value is a part.
  have hshort (m : String × Value) : (write m.2).toList.length < (memberChars m).length := by
    rw [memberChars, List.length_append, List.length_cons]
    omega
  induction es generalizing fuel e done with
  | nil =>
      have hlength := hshort e
      rw [List.flatMap_nil, List.append_nil, List.length_append, List.length_singleton] at hfuel
      obtain ⟨fuel, rfl⟩ : ∃ f, fuel = f + 1 := ⟨fuel - 1, by omega⟩
      -- The key is new, so the member is added at the end and replaces nothing.
      have hnew : e.1 ∉ done.map Prod.fst := by
        rw [List.map_append, List.nodup_append] at hkeys
        exact fun hmem => hkeys.2.2 _ hmem _ List.mem_cons_self rfl
      rw [List.flatMap_nil, List.nil_append, readMembers_memberChars (hread e List.mem_cons_self)
        (hjson e List.mem_cons_self) (ends_cons rest (by decide)) (by omega)]
      show Except.ok (Value.table (setMember done e.1 e.2), rest) = _
      rw [setMember_eq_append _ hnew]
  | cons m ms ih =>
      have hlength := hshort e
      rw [List.flatMap_cons, List.append_assoc, List.cons_append, List.length_append,
        List.cons_append, List.length_cons] at hfuel
      obtain ⟨fuel, rfl⟩ : ∃ f, fuel = f + 1 := ⟨fuel - 1, by omega⟩
      have hrest : 2 * (memberChars m ++ (ms.flatMap fun m => ',' :: memberChars m) ++
          ['\x7d']).length ≤ fuel := by omega
      have hnew : e.1 ∉ done.map Prod.fst := by
        rw [List.map_append, List.nodup_append] at hkeys
        exact fun hmem => hkeys.2.2 _ hmem _ List.mem_cons_self rfl
      have hms := ih fuel m (done ++ [e]) (fun z hz => hread z (List.mem_cons_of_mem e hz))
        (fun z hz => hjson z (List.mem_cons_of_mem e hz))
        (by rw [List.append_assoc]; exact hkeys) hrest
      have hquote : memberChars m = '"' :: (memberChars m).tail := by
        rw [memberChars, toList_string]
        rfl
      rw [List.flatMap_cons, List.append_assoc, List.cons_append,
        readMembers_memberChars (hread e List.mem_cons_self) (hjson e List.mem_cons_self)
          (ends_cons _ (by decide)) (by omega)]
      show readMembers fuel (setMember done e.1 e.2) (skipBlanks _) = _
      rw [setMember_eq_append _ hnew, hquote, List.cons_append, skipBlanks_cons (by decide),
        ← List.cons_append, ← hquote, hms, List.append_assoc]
      rfl

/-- A list that is not closed at once has elements. -/
theorem readValue_items {fuel : Nat} {c : Char} {cs : List Char} (hblank : isBlank c = false)
    (hne : c ≠ ']') : readValue (fuel + 1) ('[' :: c :: cs) = readItems fuel [] (c :: cs) := by
  rw [readValue, skipBlanks_cons hblank]
  split
  · rename_i heq
    exact absurd (List.cons.inj heq).1 hne
  · rfl

/-- A table whose first character is a quote has members. -/
theorem readValue_members {fuel : Nat} {cs : List Char} :
    readValue (fuel + 1) ('\x7b' :: '"' :: cs) = readMembers fuel [] ('"' :: cs) := by
  rw [readValue]
  rfl

theorem readValue_numeral {t : Numeral} (ht : t.IsWritten) (fuel : Nat) (rest : List Char) :
    readValue (fuel + 1) (t.chars ++ rest) = readNumber (t.chars ++ rest) := by
  have hword := readWord?_eq_none ht rest
  obtain ⟨d, cs, hbody, hd⟩ := ht.exists_head
  rw [Numeral.chars, hbody] at hword ⊢
  revert hword
  cases t.negative with
  | true => exact readValue_number (by decide) (by decide) (by decide)
  | false =>
      exact readValue_number (ne_of_isDigit hd (by decide)) (ne_of_isDigit hd (by decide))
        (ne_of_isDigit hd (by decide))

/-- Every payload takes a step to read. -/
theorem reads_of_succ {v : Value} (h : v.IsJson)
    (hread : ∀ (fuel : Nat) (rest : List Char), Ends rest →
      2 * (write v).toList.length ≤ fuel + 1 →
        readValue (fuel + 1) ((write v).toList ++ rest) = .ok (v, rest)) : Reads v := by
  intro fuel rest hrest hfuel
  obtain ⟨c, cs, hhead, -⟩ := exists_head_write h
  have hpos : (write v).toList.length = cs.length + 1 := by rw [hhead, List.length_cons]
  obtain ⟨fuel, rfl⟩ : ∃ f, fuel = f + 1 := ⟨fuel - 1, by omega⟩
  exact hread fuel rest hrest hfuel

/-- A payload is read from the front of a text. -/
theorem readValue_write {v : Value} (h : v.IsJson) : Reads v := by
  -- Induction on the value: the texts of its items can be read by assumption.
  induction h with
  | null =>
      refine reads_of_succ .null fun fuel rest _ _ => ?_
      exact readValue_word (by decide) (by decide) (by decide) rfl
  | bool b =>
      refine reads_of_succ (.bool b) fun fuel rest _ _ => ?_
      cases b with
      | true => exact readValue_word (by decide) (by decide) (by decide) rfl
      | false => exact readValue_word (by decide) (by decide) (by decide) rfl
  | int n hn =>
      refine reads_of_succ (.int n hn) fun fuel rest hrest _ => ?_
      -- A number is recognised by its first character and then read as a numeral.
      rcases exists_numeral_toString n with ⟨t, ht, hchars, -⟩
      have hnumber := readNumber_toString hn hrest
      rw [← hchars, ← readValue_numeral ht fuel, hchars] at hnumber
      exact hnumber
  | float x hx =>
      refine reads_of_succ (.float x hx) fun fuel rest hrest _ => ?_
      rcases exists_numeral_write hx with ⟨t, ht, -, hchars, -⟩
      have hnumber := readNumber_write hx hrest
      rw [← hchars, ← readValue_numeral ht fuel, hchars] at hnumber
      exact hnumber
  | text s =>
      refine reads_of_succ (.text s) fun fuel rest _ _ => ?_
      have hquote : (string s).toList = '"' :: (string s).toList.tail := by
        rw [toList_string, List.tail_cons]
      show readValue (fuel + 1) ((string s).toList ++ rest) = _
      rw [hquote, List.cons_append, readValue]
      show (readString _ [] _ >>= _) = _
      rw [readString_string]
      rfl
  | list xs hxs ih =>
      refine reads_of_succ (.list xs hxs) fun fuel rest _ hfuel => ?_
      rcases xs with _ | ⟨x, xs⟩
      · rfl
      · rw [toList_write_list, List.length_cons] at hfuel
        -- A list that is not empty begins with its first item, which is no bracket.
        obtain ⟨c, cs, hhead, hblank, hne⟩ := exists_head_write (hxs x List.mem_cons_self)
        have hitems := readItems_write fuel x xs [] rest ih hxs (by omega)
        rw [toList_write_list, List.cons_append, List.append_assoc, List.append_assoc, hhead,
          List.cons_append, readValue_items hblank hne, ← List.cons_append, ← hhead]
        exact hitems
  | table entries hkeys h ih =>
      refine reads_of_succ (.table entries hkeys h) fun fuel rest _ hfuel => ?_
      rcases entries with _ | ⟨e, es⟩
      · rfl
      · rw [toList_write_table, List.length_cons] at hfuel
        -- The keys are pairwise different, so no member replaces another.
        have hmembers := readMembers_write fuel e es [] rest ih h hkeys (by omega)
        have hquote : memberChars e = '"' :: (memberChars e).tail := by
          rw [memberChars, toList_string]
          rfl
        rw [toList_write_table, List.cons_append, List.append_assoc, List.append_assoc, hquote,
          List.cons_append, readValue_members, ← List.cons_append, ← hquote]
        exact hmembers

/-- A payload is read from its text. -/
theorem read_write {v : Value} (h : v.IsJson) : read (write v) = .ok v := by
  obtain ⟨c, cs, hhead, hblank, -⟩ := exists_head_write h
  have hskip : skipBlanks (write v).toList = (write v).toList := by
    rw [hhead, skipBlanks_cons hblank]
  have hvalue := readValue_write h (2 * (write v).toList.length + 1) []
    (fun c hc => absurd hc (Option.not_mem_none c)) (Nat.le_succ _)
  rw [List.append_nil] at hvalue
  rw [read, hskip]
  simp only [hvalue]
  rfl

end Values

end Json

end Criteria
