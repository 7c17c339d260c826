import Criteria.Proofs.Calendar.Pattern
import Criteria.Proofs.Coercion.Settled
import Criteria.Proofs.Coercion.Whole
import Criteria.Proofs.Value.Uuid

/-!
# Coercing What Was Written

The form of a value on the wire, coerced to the type of the value, is the value.

Truths, whole numbers and texts are on the wire as they are. All others are written
as texts, and the rule for texts of their type reads them: `Value.IsPortable` lists
what is told by its text. An offset has to consist of hours and minutes, since more
than these are not written, and a time of day may have none at all, since the
patterns of the clock do not know offsets.

## Main definitions

* `Value.IsPortable`: A value of a type that its form on the wire says all about.

## Theorems

* `Schema.ofText_date`, `Schema.ofText_moment`, `Schema.ofText_clock`,
  `Schema.ofText_decimal`, `Schema.ofText_uuid`: The rules for texts read what was
  written.
* `Coercer.exists_wire_coerceTo`: A portable value is coerced from its form on the
  wire.
-/

namespace Criteria

/-- A value of a type that its form on the wire says all about. -/
inductive Value.IsPortable : NamedType → Value → Prop
  | bool (b : Bool) : IsPortable .bool (.bool b)
  | int (n : Int) : IsPortable .int (.int n)
  | text (s : String) : IsPortable .text (.text s)
  | decimal (d : Decimal) (hd : d.Fits) : IsPortable .decimal (.decimal d)
  | date (d : Date) : IsPortable .date (.date d)
  | moment (m : Moment) (hm : ∀ o ∈ m.offset, o.IsWholeMinutes) : IsPortable .moment (.moment m)
  | clock (t : TimeOfDay) : IsPortable .clock (.clock ⟨t, none⟩)
  | uuid (u : Uuid) : IsPortable .uuid (.uuid u)

namespace Schema

open Text Numeral

variable (s : Schema) (v : Value)

/-- A decimal is read from its text. -/
theorem ofText_decimal {d : Decimal} (hd : d.Fits) :
    s.ofText .decimal v d.text = .ok (.decimal d) := by
  rw [ofText, decimalOfText, readDecimal?_trim, Decimal.readDecimal?_text hd]
  rfl

/-- A date is read from its text. -/
theorem ofText_date (d : Date) : s.ofText .date v d.text = .ok (.date d) := by
  have htrim : trim d.text = d.text := trim_eq_self (d.forall_text (by decide) (by decide))
  have htrimmed : (Value.text d.text).trimmed = d.text := htrim
  have hread : Value.readDate (.text d.text) s.today = .ok d := by
    rw [Value.readDate.eq_def]
    dsimp only
    rw [htrimmed, readIsoDate?_text]
  rw [ofText, htrim, hread]
  rfl

/-- A moment is read from its form on the wire. -/
theorem ofText_moment {m : Moment} (hm : ∀ o ∈ m.offset, o.IsWholeMinutes) :
    s.ofText .moment v (Value.wireMoment m) = .ok (.moment m) := by
  have htrim := trim_eq_self (Value.isBlank_of_mem_wireMoment m)
  have htrimmed : (Value.text (Value.wireMoment m)).trimmed = Value.wireMoment m := htrim
  have hread : Value.readMoment (.text (Value.wireMoment m)) s.today = .ok m := by
    rw [Value.readMoment.eq_def]
    dsimp only
    rw [htrimmed, Value.momentOfText_wireMoment hm]
  rw [ofText, htrim, hread]
  rfl

/-- A time of day is read from its text. -/
theorem ofText_clock (t : TimeOfDay) : s.ofText .clock v t.text = .ok (.clock ⟨t, none⟩) := by
  have htrim : trim t.text = t.text :=
    trim_eq_self (t.forall_text (by decide) (by decide) (by decide))
  have hdisplay : (Value.text t.text).display = t.text := rfl
  have hread : Value.readTime (.text t.text) = .ok ⟨t, none⟩ := by
    rw [Value.readTime.eq_def]
    dsimp only
    rw [hdisplay, readClock?_text]
    rfl
  rw [ofText, htrim, hread]
  rfl

/-- An identifier is read from its text. -/
theorem ofText_uuid (u : Uuid) : s.ofText .uuid v u.text = .ok (.uuid u) := by
  have htrim : trim u.text = u.text := trim_eq_self (u.forall_text (by decide) (by decide))
  rw [ofText, htrim, Uuid.read?_text]
  rfl

end Schema

namespace Coercer

variable {c : Coercer} {s : Schema} {t : NamedType} {v : Value}

/-- A text that stands for a value is coerced to it. -/
theorem coerceTo_text (hfind : c.find? s t = none) {text : String}
    (h : s.ofText t (.text text) text = .ok v) : c.coerceTo s t (.text text) = .ok v := by
  rw [coerceTo_text_eq hfind rfl, h]
  rfl

/-- A portable value is coerced from its form on the wire. -/
theorem exists_wire_coerceTo (hfind : c.find? s t = none) (hv : v.IsPortable t) :
    ∃ w, v.wire = .ok w ∧ c.coerceTo s t w = .ok v := by
  -- Values that the wire writes as they are settle in their own type.
  have hself {v : Value} (hsettles : Settles s t v) (hnull : v.isNull = false)
      (helements : v.elements? = none) : c.coerceTo s t v = .ok v :=
    (coerceTo_of_find?_eq_none hfind hnull helements).trans hsettles.coerceTo
  cases hv with
  | bool b => exact ⟨.bool b, rfl, hself (settles_bool s b) rfl rfl⟩
  | int n => exact ⟨.int n, rfl, hself (settles_int s n) rfl rfl⟩
  -- The others are written as a text, which their reader takes back.
  | text w => exact ⟨.text w, rfl, hself (settles_text s w) rfl rfl⟩
  | decimal d hd => exact ⟨.text d.text, rfl, coerceTo_text hfind (s.ofText_decimal _ hd)⟩
  | date d => exact ⟨.text d.text, rfl, coerceTo_text hfind (s.ofText_date _ d)⟩
  | moment m hm =>
      exact ⟨.text (Value.wireMoment m), rfl, coerceTo_text hfind (s.ofText_moment _ hm)⟩
  | clock t =>
      have hwire : Value.wireClock ⟨t, none⟩ = t.text := String.append_empty
      refine ⟨.text (Value.wireClock ⟨t, none⟩), rfl, ?_⟩
      rw [hwire]
      exact coerceTo_text hfind (s.ofText_clock _ t)
  | uuid u => exact ⟨.text u.text, rfl, coerceTo_text hfind (s.ofText_uuid _ u)⟩

end Coercer

end Criteria
