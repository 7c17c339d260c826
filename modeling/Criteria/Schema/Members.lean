import Criteria.Schema.Basic
import Criteria.Text.Case
import Criteria.Text.Listing

/-!
# Matching Member Names

Which member a name written by a client stands for: the member of exactly that
name, else the first that differs in case only, else the first that differs in
case and underscores only.

## Main definitions

* `squash`: A name without case and underscores.
* `matchMember`: The member a name stands for.
-/

namespace Criteria

/-- A name without case and underscores. -/
def squash (name : String) : String :=
  String.ofList ((Text.lower name).toList.filter (· != '_'))

/-- The member a name stands for. -/
def matchMember (name : String) (available : List String) : Option String :=
  if available.contains name then some name
  else
    (available.find? fun m => Text.lower m == Text.lower name).orElse fun _ =>
      available.find? fun m => squash m == squash name

end Criteria
