import Criteria.Number.Binary64

/-!
# Similar Texts

How alike two texts are, and the near misses of a word among the words that
would have been right.

Likeness counts matching characters: the longest common stretch is found, then
the parts before and after it are compared in the same way. The ratio is twice
the number of matched characters over the sum of the lengths.

In a word of two hundred characters or more, characters that make up more than
one in a hundred are too common to start a match; they may only extend one.

## Main definitions

* `commonRun`: Lengths of the common stretches that end at each place of a word.
* `longestMatch`: The longest common stretch of two lists.
* `matchedCount`: The number of matched characters.
* `likeness`: The ratio of matched characters.
* `closeMatches`: The words most like a given one.
-/

namespace Criteria

namespace Text

/-- A common stretch: its starts in the two lists and its length. -/
structure Match where
  left : Nat
  right : Nat
  size : Nat

/-- Given the lengths of the common stretches that end just before one element
    of the left list, the lengths of those that end with it. -/
def commonRun (popular : Char → Bool) (a : Char) (right : List Char) (lens : List Nat) :
    List Nat :=
  List.zipWith (fun b len => if a == b && !popular b then len + 1 else 0) right (0 :: lens)

/-- The best of the stretches that end at place `i` on the left, the earliest
    one among equals. -/
def bestEnding (i : Nat) (lens : List Nat) (best : Match) : Match :=
  lens.zipIdx.foldl
    (fun best (len, j) =>
      if best.size < len then ⟨i + 1 - len, j + 1 - len, len⟩ else best)
    best

/-- The longest stretch that starts a match, scanning the left list. -/
def scanMatch (popular : Char → Bool) (right : List Char) :
    List Char → Nat → List Nat → Match → Match
  | [], _, _, best => best
  | a :: left, i, lens, best =>
    let lens' := commonRun popular a right lens
    scanMatch popular right left (i + 1) lens' (bestEnding i lens' best)

/-- The length of the common stretch two lists start with. -/
def commonStart : List Char → List Char → Nat
  | a :: left, b :: right => if a == b then commonStart left right + 1 else 0
  | _, _ => 0

/-- The longest common stretch, extended by equal neighbours at both ends. -/
def longestMatch (popular : Char → Bool) (left right : List Char) : Match :=
  let core := scanMatch popular right left 0 (right.map fun _ => 0) ⟨0, 0, 0⟩
  -- Popular characters start no match but extend one.
  let before := commonStart (left.take core.left).reverse (right.take core.right).reverse
  let after := commonStart (left.drop (core.left + core.size)) (right.drop (core.right + core.size))
  ⟨core.left - before, core.right - before, before + core.size + after⟩

/-- The number of matched characters, with the length of the left list as
    fuel: every round takes at least one character off it. -/
def matchedWithin (popular : Char → Bool) : Nat → List Char → List Char → Nat
  | 0, _, _ => 0
  | fuel + 1, left, right =>
    let m := longestMatch popular left right
    if m.size == 0 then 0
    else
      matchedWithin popular fuel (left.take m.left) (right.take m.right) + m.size +
        matchedWithin popular fuel (left.drop (m.left + m.size)) (right.drop (m.right + m.size))

/-- The characters too common in a long word to start a match. -/
def isPopular (word : List Char) (c : Char) : Bool :=
  200 ≤ word.length && word.length / 100 + 1 < word.count c

/-- The number of matched characters of a candidate and a word. -/
def matchedCount (candidate word : List Char) : Nat :=
  matchedWithin (isPopular word) candidate.length candidate word

/-- Twice the matched characters over the sum of the lengths; two empty texts
    are alike. -/
def likeness (candidate word : String) : Binary64 :=
  let total := candidate.length + word.length
  if total == 0 then Binary64.ofNat 1
  else Binary64.ofRatio false (2 * matchedCount candidate.toList word.toList) total

/-- The likelier candidate comes first, and of two equally likely ones the one
    that is later in the order of code points. -/
def likelierFirst (x y : Binary64 × String) : Bool :=
  match Binary64.compare? x.1 y.1 with
  | some .gt => true
  | some .eq => y.2 ≤ x.2
  | _ => false

/-- A cutoff is a number from zero to one. -/
def isCutoff (x : Binary64) : Bool :=
  match Binary64.compare? x (Binary64.ofNat 0), Binary64.compare? x (Binary64.ofNat 1) with
  | some .lt, _ | _, some .gt | none, _ | _, none => false
  | _, _ => true

/-- At most `count` candidates whose likeness to the word reaches the cutoff,
    the likeliest first. -/
def closeMatches (word : String) (candidates : List String) (count : Nat) (cutoff : Binary64) :
    List String :=
  let scored := candidates.map fun c => (likeness c word, c)
  let near := scored.filter fun x =>
    match Binary64.compare? cutoff x.1 with
    | some .gt | none => false
    | _ => true
  ((near.mergeSort likelierFirst).take count).map (·.2)

end Text

end Criteria
