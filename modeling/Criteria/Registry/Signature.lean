/-!
# Signatures

The arguments that something is made from: some that are required, some that may
be left out, and perhaps any number of others.

## Main definitions

* `Signature`: The parameters something is made from.
* `Signature.refusal?`: What is wrong with a number of arguments.
-/

namespace Criteria

/-- The parameters something is made from. -/
structure Signature where
  required : List String
  /-- How many further ones may be given. -/
  optional : Nat
  /-- Any number of further ones may be given. -/
  isOpen : Bool
  deriving DecidableEq, Inhabited

namespace Signature

/-- What is wrong with a number of arguments, if anything. -/
def refusal? (s : Signature) (count : Nat) : Option String :=
  match s.required[count]? with
  | some name => some ("missing a required argument: '" ++ name ++ "'")
  | none =>
    if s.required.length + s.optional < count ∧ !s.isOpen then some "too many positional arguments"
    else none

end Signature

end Criteria
