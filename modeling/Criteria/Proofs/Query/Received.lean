import Criteria.Proofs.Query.RoundTrip
import Criteria.Query.Merge

/-!
# Merging a Received Query

A query may be merged where it was made, or be written, sent, and merged where it is
received. Both have the same effect but for one thing.

Merging asks not only what a query says but also whether it says it: a query that is
silent about tracking leaves the existing setting alone. What is written is never
silent, since every member that is not null is written, whether it was given or is a
default. So a query that was silent takes over the setting once it has been received,
and as its own setting is the default, results are not tracked from then on.

What is received otherwise is what was sent (`IsSettled.exists_wire_eq_ok`), so that
nothing has to be said about orderings, criteria and paths here: the merge sees equal
ones. The rest is about the one bit that the equality of the members leaves open.

## Main definitions

* `Value.saysTracking`: A payload says whether results are tracked.

## Theorems

* `Query.merge_said`: Merging a query that says what it does not say otherwise.
* `Query.trackingGiven_eq_saysTracking`: A query that is read says what its payload
  says.
* `Query.noTracking_of_silent`: A silent payload stands for results that are not
  tracked.
* `Query.merge_received`: Merging what is received.
-/

namespace Criteria

open Fitted

/-- A payload says whether results are tracked. -/
def Value.saysTracking : Value → Bool
  | .dict es => ((Members.ofEntries es).find "noTracking" "no_tracking").2.isSome
  | _ => false

namespace Query

/-- Merging a query that says aloud what it takes for granted: nothing differs but
    the setting that a silent one leaves alone. -/
theorem merge_said (base other : Query) :
    base.merge { other with trackingGiven := true } =
      { base.merge other with noTracking := other.noTracking, trackingGiven := true } := by
  have hgiven : (base.trackingGiven || true) = true := Bool.or_true _
  rw [merge, merge, if_pos rfl, hgiven]
  rfl

section Reading

variable {v : Value} {ms : Members} {tracking : Option Bool} {paths : List String} {q : Query}

/-- Tracking is given where one of its names is among the members. -/
theorem MembersFit.isSome_tracking (h : MembersFit ms tracking paths q) :
    tracking.isSome = (ms.find "noTracking" "no_tracking").2.isSome := by
  have hfit := h.noTracking
  rw [Members.fit] at hfit
  split at hfit
  · rename_i name w hfind
    -- A null is no truth value, so a member that is there gives one.
    rcases map_eq_fits_iff.mp (beneath_eq_fits_iff.mp hfit) with ⟨b, -, hb⟩
    rw [hfind, ← hb]
    rfl
  · rename_i name hfind
    have hnone : none = tracking := fits.inj (beneath_eq_fits_iff.mp hfit)
    rw [hfind, ← hnone]
    rfl

/-- A query that is read says what its payload says. -/
theorem trackingGiven_eq_saysTracking (h : (ofPayload v).result = .ok q) :
    q.trackingGiven = v.saysTracking := by
  rcases ofPayload_eq_ok_iff.mp h with ⟨ms, hms, hfit⟩
  rcases fit_eq_fits_iff.mp hfit with ⟨tracking, paths, hparts⟩
  cases v with
  | dict es =>
      have hentries : Members.ofEntries es = ms := fits.inj hms
      rw [hparts.trackingGiven_eq, hparts.isSome_tracking, Value.saysTracking, hentries]
  | _ => cases hms

/-- A silent payload stands for results that are not tracked. -/
theorem noTracking_of_silent (h : (ofPayload v).result = .ok q)
    (hsilent : v.saysTracking = false) : q.noTracking = true := by
  have hnot : q.trackingGiven = false := (trackingGiven_eq_saysTracking h).trans hsilent
  rcases ofPayload_eq_ok_iff.mp h with ⟨ms, -, hfit⟩
  rcases fit_eq_fits_iff.mp hfit with ⟨tracking, paths, hparts⟩
  rw [hparts.trackingGiven_eq, Option.isSome_eq_false_iff, Option.isNone_iff_eq_none] at hnot
  rw [hparts.noTracking_eq, hnot]
  rfl

end Reading

/-- Merging what is received. If a query was read from a payload, and its nested
    operands have fields, then it is written and read again, and merging it then has
    the effect of merging it at once, but that its own tracking is set. So there is
    no difference exactly if its payload says something about tracking, or results
    were not tracked before. -/
theorem merge_received (base : Query) {v : Value} {other : Query} (hv : v.IsJson)
    (h : (ofPayload v).result = .ok other) (hnested : other.NestedHaveFields) :
    ∃ w received, other.wire = .ok w ∧ (ofPayload w).result = .ok received ∧
      base.merge received =
        { base.merge other with noTracking := other.noTracking, trackingGiven := true } ∧
      ((base.merge received).noTracking = (base.merge other).noTracking ↔
        v.saysTracking = true ∨ base.noTracking = true) := by
  rcases ofPayload_eq_ok_iff.mp h with ⟨ms, hms, hfit⟩
  -- What is sent is read back as the same query with its tracking said, so only that can differ.
  have hsettled : other.IsSettled := isSettled_of_fit (isJson_of_mem_members hv hms) hfit hnested
  rcases hsettled.exists_wire_eq_ok with ⟨w, hw, -, hread⟩
  have hmerge := merge_said base other
  refine ⟨w, _, hw, hread, hmerge, ?_⟩
  have hgiven := trackingGiven_eq_saysTracking h
  rw [hmerge]
  show other.noTracking = (if other.trackingGiven = true then _ else _) ↔ _
  rw [hgiven]
  -- A silent query has the standard setting, so it is compared with the one before.
  by_cases hsays : v.saysTracking = true
  · rw [if_pos hsays]
    exact iff_of_true rfl (.inl hsays)
  · rw [if_neg hsays, noTracking_of_silent h (Bool.eq_false_of_not_eq_true hsays)]
    constructor
    · exact fun hsame => .inr hsame.symm
    · rintro (hyes | hbase)
      · exact absurd hyes hsays
      · exact hbase.symm

/-- The query for late orders is silent about tracking, but results were not tracked
    before. -/
theorem merge_received_lateOrders :
    ∃ w received, lateOrdersQuery.wire = .ok w ∧ (ofPayload w).result = .ok received ∧
      ({ page := 3 } : Query).merge received =
        { ({ page := 3 } : Query).merge lateOrdersQuery with trackingGiven := true } := by
  rcases merge_received { page := 3 } isJson_lateOrders rfl nestedHaveFields_lateOrders with
    ⟨w, received, hw, hreceived, hmerge, -⟩
  exact ⟨w, received, hw, hreceived, hmerge⟩

/-- A query without any members sets the tracking of another one, once it has been
    received. -/
theorem merge_received_ne_merge :
    ∃ base w received, (ofPayload (.table [("noTracking", .bool false)])).result = .ok base ∧
      (ofPayload (.table [])).result = .ok ({} : Query) ∧
      ({} : Query).wire = .ok w ∧ (ofPayload w).result = .ok received ∧
      (base.merge {}).noTracking = false ∧ (base.merge received).noTracking = true :=
  ⟨_, _, _, rfl, rfl, rfl, rfl, rfl, rfl⟩

end Query

end Criteria
