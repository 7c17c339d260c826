import Criteria.Refusal
import Criteria.Schema.Basic
import Criteria.Text.Case
import Criteria.Value.Equality
import Criteria.Value.Text

/-!
# Keywords

Small vocabularies in which a filter is written. Each word of a vocabulary has
one form on the wire and any number of further spellings, and is read without
regard to case, underscores, hyphens and spaces.

## Main definitions

* `Vocabulary`: The words of a vocabulary.
* `normalForm`: A spelling without case and separators.
* `Vocabulary.find?`: The word a spelling stands for.
* `Vocabulary.read`: The word a value stands for.
* `Vocabulary.enumType`: The vocabulary as an enumeration.
-/

namespace Criteria

/-- A word of a vocabulary. -/
structure Keyword (α : Type) where
  word : α
  name : String
  wire : String

/-- The words of a vocabulary, and its further spellings with the wire form each
    stands for. -/
structure Vocabulary (α : Type) where
  name : String
  words : List (Keyword α)
  spellings : List (String × String)

/-- A character that words are read without. -/
def isFiller (c : Char) : Bool :=
  c == '_' || c == '-' || c == ' '

/-- A spelling without surrounding blanks, case and separators. -/
def normalForm (s : String) : String :=
  String.ofList ((Text.lower (Text.trim s)).toList.filter fun c => !isFiller c)

namespace Vocabulary

variable {α : Type}

/-- The wire form that a further spelling stands for. -/
def respell (v : Vocabulary α) (s : String) : String :=
  (v.spellings.lookup s).getD s

/-- The wire form that a spelling reduces to. -/
def reduce (v : Vocabulary α) (s : String) : String :=
  v.respell (normalForm (v.respell (Text.lower (Text.trim s))))

/-- The word a spelling stands for. -/
def find? (v : Vocabulary α) (s : String) : Option α :=
  (v.words.find? (·.wire == v.reduce s)).map (·.word)

/-- The word with exactly the given wire form. -/
def ofWire? (v : Vocabulary α) (s : String) : Option α :=
  (v.words.find? (·.wire == s)).map (·.word)

/-- The word a value stands for, if it stands for any text. -/
def ofValue? (v : Vocabulary α) (x : Value) : Option α :=
  x.text?.bind v.find?

/-- The word a value stands for. -/
def read (v : Vocabulary α) (x : Value) : Except Refusal α :=
  expected (.notWire x.literal v.name) (v.ofValue? x)

/-- The wire forms, in order. -/
def wires (v : Vocabulary α) : List String :=
  v.words.map (·.wire)

/-- The vocabulary as an enumeration. -/
def enumType (v : Vocabulary α) (kind : EnumKind) : EnumType :=
  ⟨v.name, kind, v.words.map fun k => (k.name, .text k.wire), []⟩

variable [DecidableEq α]

/-- The entry of a word. -/
def entry? (v : Vocabulary α) (a : α) : Option (Keyword α) :=
  v.words.find? (·.word == a)

/-- The wire form of a word. -/
def wire (v : Vocabulary α) (a : α) : String :=
  ((v.entry? a).map (·.wire)).getD ""

/-- The word as a member of the enumeration. -/
def toValue (v : Vocabulary α) (a : α) : Value :=
  match v.entry? a with
  | some k => .member ⟨v.name, .wire, k.name, v.words.findIdx (·.word == a), .text k.wire⟩
  | none => .null

end Vocabulary

end Criteria
