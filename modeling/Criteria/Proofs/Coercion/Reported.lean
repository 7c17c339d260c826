import Criteria.Coercion.Basic
import Criteria.Proofs.Value.Reading

/-!
# Reports of Conversions

Which conversions report whatever goes wrong as a value that cannot be converted.

A report is made of failures that are due to the value: it has no reading, it is
of the wrong type, it is out of range, or an operation on it has no result. Other
failures are passed on as they are. They are few, and what they come from can be
seen in the value and the type that is wanted: instants beyond what the system
clock can name, lengths of time written with the long s, identifiers that are made
of anything but a text, and more bytes than there is room for. Any other
conversion fails with an error of the library.

## Main definitions

* `Failure.isReported`, `Refusal.IsReported`, `Fault.IsReported`: What a conversion
  reports.
* `Fault.IsFilter`: An error of the library.
* `NamedType.ConfinesOne`, `NamedType.Confines`, `TypeExpr.Confines`: The conversion
  of a value to the type reports whatever goes wrong.

## Theorems

* `Coercer.isFilter_reported`: What is reported is an error of the library.
* `Schema.failsOnly_ofNumber`, `Schema.failsOnly_ofText`, `Schema.failsOnly_ofOther`:
  The rules for numbers, for texts and for other values.
* `Coercer.failsOnly_coerceTo`, `Coercer.failsOnly_coerce`: Confined conversions.
-/

namespace Criteria

/-- A conversion reports the failure. -/
def Failure.isReported : Failure → Bool
  | .unreadable | .mismatch | .overflow | .undefinedResult => true
  | _ => false

/-- A conversion reports the refusal. -/
def Refusal.IsReported (r : Refusal) : Prop :=
  r.cause.isReported = true

namespace Fault

/-- A conversion reports the fault, or it is an error of the library already. -/
def IsReported : Fault → Prop
  | .refused r => r.IsReported
  | _ => True

/-- The fault is an error of the library. -/
def IsFilter (f : Fault) : Prop :=
  ∃ e, f = .filter e

theorem isReported_of_refusal (r : Refusal) (h : r.IsReported) : IsReported (.refused r) :=
  h

end Fault

theorem Failure.isReported_of_isMisreading {f : Failure} (h : f.isMisreading = true) :
    f.isReported = true := by
  cases f <;> first | rfl | exact absurd h Bool.false_ne_true

theorem Refusal.IsMisreading.isReported {r : Refusal} (h : r.IsMisreading) : r.IsReported :=
  Failure.isReported_of_isMisreading h

/-- The conversion of a single value to the type reports whatever goes wrong. An
    instant has to be one that the clock has a name for, a length of time is not
    written with the long s, an identifier is made of a text, and there must be room
    for all the bytes. -/
def NamedType.ConfinesOne (t : NamedType) (v : Value) : Prop :=
  match t with
  | .moment | .date => Coercer.isNumber v = true → Schema.instantOf v ≠ refuse .beyondClock
  | .duration => ∀ text, v.text? = some text → 'ſ' ∉ text.toList
  | .uuid => ∃ text, v = .text text
  | .bytes => ∀ n, Schema.index? v = some n → n.toNat < Schema.keptZeros
  | _ => True

mutual

/-- The conversion of the value to the type, or of all that it holds, reports
    whatever goes wrong. -/
def NamedType.Confines (t : NamedType) : Value → Prop
  | .null => True
  | .list xs | .tuple xs | .set _ xs => t.ConfinesAll xs
  | v => t.ConfinesOne v
termination_by structural v => v

/-- The conversion of several values to the type reports whatever goes wrong. -/
def NamedType.ConfinesAll (t : NamedType) : List Value → Prop
  | [] => True
  | x :: xs => t.Confines x ∧ t.ConfinesAll xs
termination_by structural xs => xs

end

/-- The conversion to a declared type reports whatever goes wrong; without a name
    nothing is converted. -/
def TypeExpr.Confines (t : TypeExpr) (v : Value) : Prop :=
  ∀ u, t.unwrapOptional.1 = .named u → u.Confines v

mutual

/-- Types without exceptions report whatever goes wrong. -/
theorem NamedType.confines_of_forall {t : NamedType} (h : ∀ v, t.ConfinesOne v) :
    ∀ v, t.Confines v
  | .null => trivial
  | .list xs => confinesAll_of_forall h xs
  | .tuple xs => confinesAll_of_forall h xs
  | .set _ xs => confinesAll_of_forall h xs
  | .bool _ | .int _ | .float _ | .decimal _ | .text _ | .bytes _ | .date _ | .moment _ | .clock _
  | .duration _ | .uuid _ | .member _ | .dict _ | .entity .. => h _

theorem NamedType.confinesAll_of_forall {t : NamedType} (h : ∀ v, t.ConfinesOne v) :
    ∀ xs, t.ConfinesAll xs
  | [] => trivial
  | x :: xs => ⟨confines_of_forall h x, confinesAll_of_forall h xs⟩

end

theorem failsOnly_expected_failed {α : Type} {c : Failure} (h : c.isReported = true)
    (o : Option α) : FailsOnly Refusal.IsReported (expected (.failed c) o) :=
  failsOnly_expected h o

namespace Schema

section Readings

variable {s : Schema} {v : Value}

theorem failsOnly_readFloat (text : String) :
    FailsOnly (·.isReported = true) (Transform.readFloat text) := by
  rw [Transform.readFloat]
  cases readBare? readBinary64? text with
  | some x => exact failsOnly_ok x
  | none => exact failsOnly_error rfl

theorem failsOnly_toFloat (v : Value) : FailsOnly (·.isReported = true) (Transform.toFloat v) := by
  -- Along the cases of the conversion; it fails on a decimal that is too
  -- large and on texts that are no numbers.
  unfold Transform.toFloat
  split
  · exact failsOnly_ok _
  · split
    · exact failsOnly_error rfl
    · exact failsOnly_ok _
  · rename_i bs
    cases textOfAscii? bs with
    | some text => exact failsOnly_readFloat text
    | none => exact failsOnly_error rfl
  · split
    · rename_i n e _
      cases ((Decimal.finite _ n e).truncate?.bind Binary64.ofInt?) with
      | some x => exact failsOnly_ok x
      | none => exact failsOnly_error rfl
    · exact failsOnly_readFloat _
    · exact failsOnly_error rfl

theorem failsOnly_equal? (a b : Value) : FailsOnly (·.isReported = true) (Value.equal? a b) := by
  rw [Value.equal?]
  split
  · exact failsOnly_error rfl
  · split
    · exact failsOnly_ok _
    · exact failsOnly_error rfl

theorem failsOnly_firstMember {test : EnumMember → Except Failure Bool} {P : Failure → Prop}
    {ms : List EnumMember} (h : ∀ m ∈ ms, FailsOnly P (test m)) :
    FailsOnly P (EnumType.firstMember test ms) := by
  induction ms with
  | nil => exact failsOnly_ok none
  | cons m ms ih =>
      rw [EnumType.firstMember]
      refine (h m List.mem_cons_self).bind fun b _ => ?_
      cases b with
      | true => exact failsOnly_ok _
      | false => exact ih fun x hx => h x (List.mem_cons_of_mem m hx)

/-- A token is refused as unreadable, or as comparing it with a member fails. -/
theorem failsOnly_parse {P : Failure → Prop} {e : EnumType} {token : Value}
    (hP : P .unreadable)
    (h : ∀ text, ∀ m ∈ e.members, FailsOnly P (EnumType.standsFor token text m)) :
    FailsOnly (fun r => P r.cause) (e.parse token) := by
  -- The names and values are searched first, and what stands at a place only if nothing was found.
  have hfirst (text : String) : FailsOnly (fun r => P r.cause)
      (unworded (EnumType.firstMember (EnumType.standsFor token text) e.members)) :=
    (failsOnly_firstMember (h text)).unworded fun _ hf => hf
  have hplace (text token enum : String) (names : List String) : FailsOnly (fun r => P r.cause) (do
      if EnumType.isOrdinalText text then
        let place ← expected (.failed .unreadable) (readInt? text)
        expected (.notMember token enum names) (e.atPlace? place)
      else .error (.notMember token enum names)) := by
    split
    · exact (failsOnly_expected hP _).bind fun place _ => failsOnly_expected hP _
    · exact failsOnly_error hP
  unfold EnumType.parse
  dsimp only
  split
  -- Both kinds of enumerations are read alike apart from what comes before the search.
  · split
    · exact failsOnly_ok _
    · split
      · exact failsOnly_ok _
      · refine (hfirst _).bind fun o _ => ?_
        cases o with
        | some m => exact failsOnly_ok m
        | none => exact hplace _ _ _ _
  · split
    · exact failsOnly_ok _
    · refine (hfirst _).bind fun o _ => ?_
      cases o with
      | some m => exact failsOnly_ok m
      | none => exact hplace _ _ _ _

theorem failsOnly_parseMember (s : Schema) (name : String) (token : Value) :
    FailsOnly Refusal.IsReported (s.parseMember name token) := by
  rw [parseMember]
  cases s.enum? name with
  | none => exact failsOnly_error rfl
  | some e =>
      refine (failsOnly_parse (P := (·.isReported = true)) rfl fun text m _ => ?_).map
      exact (failsOnly_equal? _ _).bind fun same _ => failsOnly_ok _

theorem failsOnly_wholeOfText (text : String) :
    FailsOnly Refusal.IsReported (wholeOfText text) := by
  unfold wholeOfText
  split
  · exact failsOnly_ok _
  · split
    · exact failsOnly_error rfl
    · split
      · exact failsOnly_error rfl
      · split
        · exact failsOnly_error rfl
        · exact failsOnly_expected_failed rfl _

theorem failsOnly_wholeOfNumber (v : Value) : FailsOnly Refusal.IsReported (wholeOfNumber v) := by
  unfold wholeOfNumber
  split
  · split
    · exact failsOnly_expected_failed rfl _
    · exact failsOnly_error rfl
  · split
    · exact failsOnly_error rfl
    · exact failsOnly_expected_failed rfl _
    · exact failsOnly_error rfl

theorem failsOnly_boolOfNumber (v : Value) : FailsOnly Refusal.IsReported (boolOfNumber v) := by
  unfold boolOfNumber
  refine ((failsOnly_equal? v (.int 0)).unworded fun _ hf => hf).bind fun isZero _ => ?_
  refine ((failsOnly_equal? v (.int 1)).unworded fun _ hf => hf).bind fun isOne _ => ?_
  split
  · exact failsOnly_ok _
  · split
    · exact failsOnly_ok _
    · exact failsOnly_error rfl

theorem failsOnly_decimalOfText (text : String) :
    FailsOnly Refusal.IsReported (decimalOfText text) :=
  (failsOnly_expected_failed rfl _).map

theorem failsOnly_hourOf (v : Value) : FailsOnly Refusal.IsReported (hourOf v) := by
  unfold hourOf
  split
  · exact failsOnly_error rfl
  · split
    · exact failsOnly_error rfl
    · split
      · exact failsOnly_error rfl
      · split
        · exact failsOnly_ok _
        · exact failsOnly_error rfl

theorem failsOnly_iterate (v : Value) : FailsOnly (·.isReported = true) v.iterate := by
  unfold Value.iterate
  split <;> first | exact failsOnly_ok _ | skip
  split
  · exact failsOnly_ok _
  · exact failsOnly_error rfl

theorem failsOnly_collectionOf (t : NamedType) (v : Value) :
    FailsOnly Refusal.IsReported (collectionOf t v) := by
  unfold collectionOf
  refine ((failsOnly_iterate v).unworded fun _ hf => hf).bind fun xs _ => ?_
  dsimp only
  -- A set asks for more than a list: its items have to be hashable.
  have hset (frozen : Bool) : FailsOnly Refusal.IsReported
      (if Value.allHashable xs then Except.ok (Value.set frozen (Value.dedupe xs))
        else refuse .mismatch) := by
    split
    · exact failsOnly_ok _
    · exact failsOnly_error rfl
  split
  · exact failsOnly_ok _
  · exact hset false
  · exact hset true
  · exact failsOnly_ok _

theorem failsOnly_dictOf (v : Value) : FailsOnly Refusal.IsReported (dictOf v) := by
  unfold dictOf
  split
  · exact failsOnly_ok _
  · exact failsOnly_ok _
  · split
    · exact failsOnly_ok _
    · exact failsOnly_ok _
    · exact failsOnly_error rfl
    · exact failsOnly_error rfl

theorem failsOnly_recordOf (e : EntityType) (v : Value) :
    FailsOnly Refusal.IsReported (recordOf e v) := by
  unfold recordOf
  split
  · split
    · exact failsOnly_ok _
    · exact failsOnly_error rfl
  · exact failsOnly_error rfl

theorem failsOnly_entityOf (s : Schema) (name : String) (v : Value) :
    FailsOnly Fault.IsReported (s.entityOf name v) := by
  unfold entityOf
  split
  · exact failsOnly_error rfl
  · split
    · exact failsOnly_ok _
    · split
      · cases s.buildModel name v with
        | some x => exact failsOnly_ok x
        | none => exact failsOnly_error trivial
      · exact (failsOnly_recordOf _ v).passing Fault.isReported_of_refusal

theorem failsOnly_wholeOfOther (v : Value) : FailsOnly Refusal.IsReported (wholeOfOther v) := by
  unfold wholeOfOther
  split
  · exact (failsOnly_expected_failed rfl _).map
  · exact failsOnly_ok _
  · exact failsOnly_error rfl

/-- Instants that the clock has a name for. -/
theorem failsOnly_instantOf (h : instantOf v ≠ refuse .beyondClock) :
    FailsOnly Refusal.IsReported (instantOf v) := by
  have hsteps : FailsOnly (fun f => f.isReported = true ∨ f = .beyondClock)
      (do Moment.ofEpoch (← Transform.toFloat v)) := by
    refine ((failsOnly_toFloat v).mono fun _ hf => .inl hf).bind fun x _ => ?_
    exact (Moment.failsOnly_ofEpoch x).mono fun f hf =>
      hf.imp_left Failure.isReported_of_isMisreading
  intro r hr
  have hall : FailsOnly (fun r => r.IsReported ∨ r = .failed .beyondClock) (instantOf v) :=
    hsteps.unworded fun f hf => hf.imp id fun hclock => by rw [hclock]
  refine (hall r hr).resolve_right fun hclock => h ?_
  rw [hr, hclock]
  rfl

theorem failsOnly_bytesOf (h : ∀ n, index? v = some n → n.toNat < keptZeros) :
    FailsOnly Refusal.IsReported (bytesOf v) := by
  -- A byte is a number below 256, and anything else is refused.
  have hbyte (x : Value) : FailsOnly Refusal.IsReported (byteOf x) := by
    rw [byteOf]
    split
    · split
      · exact failsOnly_ok _
      · exact failsOnly_error rfl
    · exact failsOnly_error rfl
  unfold bytesOf
  split
  · rename_i n hn
    -- A number is taken for a count of zeros, which `h` keeps small.
    split
    · exact failsOnly_error rfl
    · split
      · exact failsOnly_error rfl
      · rw [if_neg (Nat.not_le.mpr (h n hn))]
        exact failsOnly_ok _
  · split
    · exact (FailsOnly.mapM fun e _ => hbyte e.1).map
    · exact failsOnly_error rfl

end Readings

section Rules

variable {s : Schema} {t : NamedType} {v : Value}

theorem failsOnly_construct (h : t.ConfinesOne v) (ht : t ≠ .uuid) :
    FailsOnly Fault.IsReported (s.construct t v) := by
  have hfloat : FailsOnly Fault.IsReported
      (passing (unworded ((Transform.toFloat v).map Value.float))) :=
    ((failsOnly_toFloat v).map.unworded fun _ hf => hf).passing Fault.isReported_of_refusal
  have hcollection (t : NamedType) : FailsOnly Fault.IsReported (passing (collectionOf t v)) :=
    (failsOnly_collectionOf t v).passing Fault.isReported_of_refusal
  unfold construct
  -- Most types take everything or nothing; what is left converts.
  split <;> first | exact failsOnly_ok _ | exact failsOnly_error rfl | exact hcollection _ | skip
  · exact (failsOnly_wholeOfOther v).passing Fault.isReported_of_refusal
  · exact hfloat
  · exact (failsOnly_bytesOf h).passing Fault.isReported_of_refusal
  · exact (failsOnly_hourOf v).passing Fault.isReported_of_refusal
  · exact absurd rfl ht
  · exact (failsOnly_dictOf v).passing Fault.isReported_of_refusal
  · exact failsOnly_entityOf s _ v

theorem failsOnly_ofOther (h : t.ConfinesOne v) (ht : t ≠ .uuid) :
    FailsOnly Fault.IsReported (s.ofOther t v) := by
  rw [ofOther]
  split
  · exact failsOnly_ok v
  · exact failsOnly_construct h ht

theorem failsOnly_ofNumber (h : t.ConfinesOne v) (hnumber : Coercer.isNumber v = true) :
    FailsOnly Fault.IsReported (s.ofNumber t v) := by
  -- By the type that a number is converted to.
  unfold ofNumber
  split
  · exact (failsOnly_parseMember s _ v).passing Fault.isReported_of_refusal
  · exact (failsOnly_boolOfNumber v).passing Fault.isReported_of_refusal
  · exact (failsOnly_wholeOfNumber v).map.passing Fault.isReported_of_refusal
  · exact ((failsOnly_toFloat v).map.unworded fun _ hf => hf).passing Fault.isReported_of_refusal
  · exact (failsOnly_decimalOfText _).passing Fault.isReported_of_refusal
  · split
    · exact failsOnly_ok _
    · exact failsOnly_ok _
  · exact (failsOnly_instantOf (h hnumber)).map.passing Fault.isReported_of_refusal
  · exact (failsOnly_instantOf (h hnumber)).map.passing Fault.isReported_of_refusal
  -- A duration of seconds fails as its float does or as its range is left.
  · refine FailsOnly.passing (FailsOnly.unworded ?_ fun _ hf => hf) Fault.isReported_of_refusal
    refine (failsOnly_toFloat v).bind fun x _ => FailsOnly.bind ?_ fun d _ => failsOnly_ok _
    exact (Duration.failsOnly_ofSeconds x).mono fun f => Failure.isReported_of_isMisreading
  · refine failsOnly_ofOther h ?_
    rintro rfl
    rcases h with ⟨text, rfl⟩
    exact Bool.false_ne_true hnumber

theorem failsOnly_ofText {text : String} (h : t.ConfinesOne v) (htext : v.text? = some text) :
    FailsOnly Fault.IsReported (s.ofText t v text) := by
  -- The readers of texts fail only by misreading.
  have hread {α : Type} {x : Except Refusal α} (hx : FailsOnly Refusal.IsMisreading x)
      (f : α → Value) : FailsOnly Fault.IsReported (passing (x.map f)) :=
    (hx.mono fun _ hr => hr.isReported).map.passing Fault.isReported_of_refusal
  unfold ofText
  dsimp only
  split
  · exact (failsOnly_parseMember s _ v).passing Fault.isReported_of_refusal
  · exact failsOnly_ok _
  · exact hread (Value.failsOnly_readBool _) _
  · exact (failsOnly_wholeOfText _).map.passing Fault.isReported_of_refusal
  · exact ((failsOnly_readFloat _).map.unworded fun _ hf => hf).passing Fault.isReported_of_refusal
  · exact (failsOnly_decimalOfText _).passing Fault.isReported_of_refusal
  · exact hread (Value.failsOnly_readMoment _ _) _
  · exact hread (Value.failsOnly_readDate _ _) _
  · exact hread (Value.failsOnly_readTime _) _
  -- An interval that is too long is confined by `h`, also after trimming.
  · refine hread (Value.failsOnly_readDuration ?_) _
    rw [Value.display, Text.trim, String.toList_ofList]
    exact fun hmem => h text htext (Text.subset_trimChars _ hmem)
  · exact (failsOnly_expected_failed rfl _).map.passing Fault.isReported_of_refusal
  · exact failsOnly_ofOther h ‹_›

end Rules

end Schema

namespace Coercer

/-- What is reported is an error of the library. -/
theorem isFilter_reported {f : Fault} (h : f.IsReported) (v : Value) (target : String) :
    (reported v target f).IsFilter := by
  cases f with
  | filter e => cases e <;> exact ⟨_, rfl⟩
  | invalid path => exact ⟨_, rfl⟩
  | refused r =>
      have hr : r.cause.isReported = true := h
      rw [reported]
      cases hcause : r.cause <;> rw [hcause] at hr <;>
        first | exact absurd hr Bool.false_ne_true | exact ⟨_, rfl⟩

variable {s : Schema} {t : NamedType}

theorem failsOnly_convert {v : Value} (h : t.ConfinesOne v) :
    FailsOnly Fault.IsReported (convert [] s t v) := by
  -- Without converters of the caller's own the value decides: a number, a text or anything else.
  have hnone : find? [] s t = none := by
    rw [find?, List.findSome?_eq_none_iff]
    exact fun u _ => rfl
  rw [convert, hnone]
  dsimp only
  split
  · rename_i hnumber
    exact Schema.failsOnly_ofNumber h hnumber
  · split
    · rename_i text htext
      exact Schema.failsOnly_ofText h htext
    · rename_i hnotext
      refine Schema.failsOnly_ofOther h ?_
      rintro rfl
      rcases h with ⟨text, rfl⟩
      exact Option.some_ne_none text hnotext

mutual

/-- Without converters a confined conversion fails with an error of the library. -/
theorem failsOnly_coerceTo : ∀ v, t.Confines v → FailsOnly Fault.IsFilter (coerceTo [] s t v)
  | .null, _ => failsOnly_ok _
  | .list xs, h => (failsOnly_coerceAll xs h).map
  | .tuple xs, h => (failsOnly_coerceAll xs h).map
  | .set _ xs, h => (failsOnly_coerceAll xs h).map
  | .bool _, h | .int _, h | .float _, h | .decimal _, h | .text _, h | .bytes _, h | .date _, h
  | .moment _, h | .clock _, h | .duration _, h | .uuid _, h | .member _, h | .dict _, h
  | .entity .., h => (failsOnly_convert h).mapError fun _ hf => isFilter_reported hf _ _

theorem failsOnly_coerceAll :
    ∀ xs, t.ConfinesAll xs → FailsOnly Fault.IsFilter (coerceAll [] s t xs)
  | [], _ => failsOnly_ok _
  | x :: xs, h => (failsOnly_coerceTo x h.1).bind fun y _ =>
      (failsOnly_coerceAll xs h.2).bind fun ys _ => failsOnly_ok (y :: ys)

end

end Coercer

end Criteria
