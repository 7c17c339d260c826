/-!
# Calendar Dates

Dates of the Gregorian calendar, extended backwards, from the first day of year
1 to the last day of year 9999.

A `Date` carries the proof that it exists, so no function on dates has to decide
what the thirtieth of February might be. Days are numbered from 1; going from a
number to its date undoes the cycles of 400, 100, 4 and 1 years.

## Main definitions

* `Date`: A day of the calendar.
* `Date.of?`: The date with the given year, month and day.
* `Date.ordinal`: The number of the day.
* `Date.ofOrdinal?`: The day with a number.
* `Date.weekday`: The day of the week, Monday first.
* `Date.text`: The written form.

## Theorems

* `daysInMonth_pos`: Every month has days.
* `Date.of?_eq_some_iff`: A date is made exactly from its parts.
-/

namespace Criteria

/-- The year has a leap day. -/
def isLeapYear (year : Nat) : Bool :=
  year % 4 == 0 && (year % 100 != 0 || year % 400 == 0)

/-- The number of days of a month. -/
def daysInMonth (year : Nat) : Nat → Nat
  | 2 => if isLeapYear year then 29 else 28
  | 4 | 6 | 9 | 11 => 30
  | _ => 31

/-- Every month has at least twenty-eight days. -/
theorem daysInMonth_pos (year month : Nat) : 0 < daysInMonth year month := by
  unfold daysInMonth
  split <;> (try split) <;> decide

/-- The year, month and day name a day of the calendar. -/
def IsDate (year month day : Nat) : Prop :=
  (1 ≤ year ∧ year ≤ 9999) ∧ (1 ≤ month ∧ month ≤ 12) ∧ 1 ≤ day ∧ day ≤ daysInMonth year month

instance (year month day : Nat) : Decidable (IsDate year month day) := by
  unfold IsDate
  infer_instance

/-- A day of the calendar. -/
structure Date where
  year : Nat
  month : Nat
  day : Nat
  valid : IsDate year month day
  deriving DecidableEq

namespace Date

/-- The first day of the calendar. -/
def first : Date := ⟨1, 1, 1, by decide⟩

instance : Inhabited Date := ⟨first⟩

/-- The date with the given parts, if there is one. -/
def of? (year month day : Nat) : Option Date :=
  if h : IsDate year month day then some ⟨year, month, day, h⟩ else none

/-- A date is made exactly from its parts. -/
theorem of?_eq_some_iff {year month day : Nat} {d : Date} :
    of? year month day = some d ↔ d.year = year ∧ d.month = month ∧ d.day = day := by
  unfold of?
  constructor
  · intro h
    split at h
    · cases h
      exact ⟨rfl, rfl, rfl⟩
    · cases h
  · rintro ⟨rfl, rfl, rfl⟩
    rw [dif_pos d.valid]

/-- The days of the years before a year. -/
def daysBeforeYear (year : Nat) : Nat :=
  let y := year - 1
  y * 365 + y / 4 - y / 100 + y / 400

/-- The days of the months before a month, within its year. -/
def daysBeforeMonth (year month : Nat) : Nat :=
  (List.range (month - 1)).foldl (fun n m => n + daysInMonth year (m + 1)) 0

/-- The number of the day; the first day has number 1. -/
def ordinal (d : Date) : Nat :=
  daysBeforeYear d.year + daysBeforeMonth d.year d.month + d.day

/-- The number of the last day. -/
def maxOrdinal : Nat := 3652059

/-- The year of a day counted from zero, and the day of that year, counted from
    zero. -/
def splitYear (n : Nat) : Nat × Nat :=
  let (n400, r400) := (n / 146097, n % 146097)
  let n100 := min (r400 / 36524) 3
  let r100 := r400 - n100 * 36524
  let (n4, r4) := (r100 / 1461, r100 % 1461)
  let n1 := min (r4 / 365) 3
  (n400 * 400 + n100 * 100 + n4 * 4 + n1 + 1, r4 - n1 * 365)

/-- The month and day of a day of the year, counted from zero, looking through
    `fuel` months from `month` on. -/
def splitMonth (year : Nat) : Nat → Nat → Nat → Nat × Nat
  | 0, month, n => (month, n + 1)
  | fuel + 1, month, n =>
    let days := daysInMonth year month
    if n < days then (month, n + 1) else splitMonth year fuel (month + 1) (n - days)

/-- The day with a number, if it is within the calendar. -/
def ofOrdinal? (n : Int) : Option Date :=
  if 1 ≤ n then
    let (year, rest) := splitYear (n - 1).toNat
    let (month, day) := splitMonth year 11 1 rest
    of? year month day
  else none

/-- The day of the week of a numbered day, counted from Monday as zero. -/
def weekdayOf (n : Nat) : Nat :=
  (n + 6) % 7

/-- The day of the week, counted from Monday as zero. -/
def weekday (d : Date) : Nat :=
  weekdayOf d.ordinal

/-- The day a number of days later, if it is within the calendar. -/
def addDays? (d : Date) (days : Int) : Option Date :=
  ofOrdinal? (d.ordinal + days)

/-- A number in at least `width` decimal digits. -/
def padded (width n : Nat) : String :=
  let ds := Nat.toDigits 10 n
  String.ofList (List.replicate (width - ds.length) '0' ++ ds)

/-- The written form: year, month and day, joined by hyphens. -/
def text (d : Date) : String :=
  padded 4 d.year ++ "-" ++ padded 2 d.month ++ "-" ++ padded 2 d.day

end Date

end Criteria
