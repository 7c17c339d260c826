/-!
# Blank Characters

White space as the character standard knows it, and the trimming built on it.

Trimming is stated on lists of characters, so that a text's ends can be taken
off by the list operations and their laws.

## Main definitions

* `isBlank`: The character is white space.
* `trimChars`: A list of characters without the blanks at either end.
* `trim`: A text without the blanks at either end.
* `isBlankText`: A text of blanks only.

## Theorems

* `trimChars_eq_nil_iff`: Only blank lists trim to nothing.
-/

namespace Criteria

namespace Text

/-- White space: the ASCII controls that move the pen, the four information
    separators, and the spaces and line ends of the character standard. -/
def isBlank (c : Char) : Bool :=
  let n := c.toNat
  (0x09 ≤ n && n ≤ 0x0D) || (0x1C ≤ n && n ≤ 0x20) || n == 0x85 || n == 0xA0 || n == 0x1680 ||
    (0x2000 ≤ n && n ≤ 0x200A) || n == 0x2028 || n == 0x2029 || n == 0x202F || n == 0x205F ||
    n == 0x3000

/-- The list without the elements at its end that the test accepts. -/
def dropEndWhile (p : Char → Bool) (cs : List Char) : List Char :=
  (cs.reverse.dropWhile p).reverse

/-- The list without the elements at either end that the test accepts. -/
def stripChars (p : Char → Bool) (cs : List Char) : List Char :=
  dropEndWhile p (cs.dropWhile p)

/-- The list without the blanks at either end. -/
def trimChars (cs : List Char) : List Char :=
  stripChars isBlank cs

/-- The text without the blanks at either end. -/
def trim (s : String) : String :=
  String.ofList (trimChars s.toList)

/-- The text holds blanks only. -/
def isBlankText (s : String) : Bool :=
  s.toList.all isBlank

/-- Dropping from the front leaves nothing exactly when every element goes. -/
theorem dropWhile_eq_nil_iff {α : Type} {p : α → Bool} {l : List α} :
    l.dropWhile p = [] ↔ ∀ a ∈ l, p a = true := by
  induction l with
  | nil => simp
  | cons a l ih => by_cases h : p a = true <;> simp [h, ih]

/-- Only blank lists trim to nothing. -/
theorem trimChars_eq_nil_iff {cs : List Char} :
    trimChars cs = [] ↔ ∀ c ∈ cs, isBlank c = true := by
  simp only [trimChars, stripChars, dropEndWhile, List.reverse_eq_nil_iff, dropWhile_eq_nil_iff,
    List.mem_reverse]
  induction cs with
  | nil => simp
  | cons c cs ih =>
    by_cases h : isBlank c = true
    · simp [h, ih]
    · simp [h]

end Text

end Criteria
