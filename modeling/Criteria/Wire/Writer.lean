import Criteria.Number.Shortest
import Criteria.Text.Quoted
import Criteria.Value.Basic

/-!
# Writing JSON

The compact text of a wire form: no blanks, members in order, characters as they
are unless they have to be escaped.

## Main definitions

* `Json.string`: A text between quotes.
* `Json.write`: The text of a wire form.
-/

namespace Criteria

namespace Json

/-- A character as it stands between quotes. -/
def escape (c : Char) : String :=
  if c = '"' then "\\\""
  else if c = '\\' then "\\\\"
  else if c = '\n' then "\\n"
  else if c = '\r' then "\\r"
  else if c = '\t' then "\\t"
  else if c.toNat = 8 then "\\b"
  else if c.toNat = 12 then "\\f"
  else if c.toNat < 0x20 then "\\u" ++ Text.hexPadded 4 c.toNat
  else c.toString

/-- A text between quotes. -/
def string (s : String) : String :=
  "\"" ++ String.join (s.toList.map escape) ++ "\""

/-- The text of a wire form that holds no others. -/
def writeScalar : Value → String
  | .bool b => if b then "true" else "false"
  | .int n => toString n
  | .float x => x.write Binary64.wireStyle
  | .text s => string s
  | _ => "null"

mutual

/-- The text of a wire form. -/
def write : Value → String
  | .list xs => "[" ++ ",".intercalate (writeAll xs) ++ "]"
  | .dict es => "\x7b" ++ ",".intercalate (writeEntries es) ++ "\x7d"
  | v => writeScalar v
termination_by structural v => v

/-- The texts of the elements. -/
def writeAll : List Value → List String
  | [] => []
  | x :: xs => write x :: writeAll xs
termination_by structural xs => xs

/-- The texts of the members of an object. -/
def writeEntries : List (Value × Value) → List String
  | [] => []
  | e :: es => writeEntry e :: writeEntries es
termination_by structural es => es

/-- The text of a member of an object. -/
def writeEntry : Value × Value → String
  | (k, v) => string (k.text?.getD "") ++ ":" ++ write v
termination_by structural e => e

end

end Json

end Criteria
