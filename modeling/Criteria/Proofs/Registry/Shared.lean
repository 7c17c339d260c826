import Criteria.Catalog.Specs
import Criteria.Registry.Shared
import Mathlib.Data.List.Nodup

/-!
# What a Shared Registry Holds

Whatever clients ask of a registry and in whatever order their turns come, what it
holds in the end can be read off the log: the registrations that succeeded and were not
taken out since, in the order in which they succeeded.

A request is served in several steps. It is checked, the registry is looked at, and
only then is anything put in, and a failure on the way does not undo what is done by
then. `Request.access_cases` says that nothing is done by then. So all there is to know
about one request is a single equation (`Request.serve_eq`): some names are taken out,
and at most one registration is put in behind the others, under a name that is free.
Everything about logs is an induction whose step is that equation.

What a request is for (`Request.offer?`) is stated without the registry. That a
registration succeeds exactly when it is for something and the name is free is
therefore more than a way to say that it succeeds. What comes of resolving a name
(`Registration.Yields`) is likewise stated without the registry, by the parts of the
registration: one case for each thing that may stop it, in the order in which they are
looked at.

## Main definitions

* `Registry.Request.offer?`: The registration that a request is for.
* `Registry.Request.removes`: A request takes a name out.
* `Registry.Event.added?`: The registration that has been put in.
* `Registry.standing`: The registrations that were put in and not taken out since.
* `Registry.current?`: What the last event about a name has left of it.
* `Registration.Yields`: What comes of resolving by a registration.
* `Registry.IsOrderly`: A registry is as its log says, and will go on like that.

## Theorems

* `Registry.Request.access_cases`: A request is rejected before anything is done, or
  puts in what it is for.
* `Registry.Request.serve_eq`: The registry after one request.
* `Registry.find?_serve`: A name after one request.
* `Registry.serveAll_eq_standing`: The registry after all requests.
* `Registry.find?_serveAll`: A name after all requests.
* `Registry.yields_resolve`: A name is resolved by the registration that it stands for.
* `Registry.length_filter_adds`: Of registrations that compete for a free name one succeeds.
* `Registry.isPrefix_interleave`: Clients are served in the order of their requests.
* `Registry.exists_interleave_eq_iff`: All such orders are orders of turns.
* `Registry.isOrderly_serveAll`: A shared registry is orderly at all times.
-/

namespace Criteria

namespace Schema

variable {s : Schema} {entity own : Option TypeExpr}

theorem mayBe_eq_true_iff : s.mayBe entity own = true ↔
    ∀ t u, entity = some t → own = some u → s.isCompatible t u = true := by
  cases entity with
  | none => exact iff_of_true rfl fun _ _ h => by cases h
  | some t =>
      cases own with
      | none => exact iff_of_true rfl fun _ _ _ h => by cases h
      | some u =>
          refine ⟨fun h _ _ ht hu => ?_, fun h => h t u rfl rfl⟩
          rw [← Option.some.inj ht, ← Option.some.inj hu]
          exact h

theorem mayBe_eq_false_iff : s.mayBe entity own = false ↔
    ∃ t u, entity = some t ∧ own = some u ∧ s.isCompatible t u = false := by
  rw [← Bool.not_eq_true, mayBe_eq_true_iff]
  push Not
  simp only [ne_eq, Bool.not_eq_true]

end Schema

namespace Registration

/-- The registration is about entities of the type asked for, as far as the types are
    known. -/
def IsAbout (s : Schema) (entry : Registration) (entity : Option TypeExpr) : Prop :=
  ∀ asked own, entity = some asked → entry.entity = some own → s.isCompatible asked own = true

/-- The maker takes that many arguments, as far as its parameters are known. -/
def Takes (entry : Registration) (arguments : List Value) : Prop :=
  ∀ signature, entry.maker.signature = some signature →
    signature.refusal? arguments.length = none

/-- The error that the arguments do not suit the registration. -/
def misfit (entry : Registration) (arguments : List Value) (reason : String) : FilterError :=
  .arguments entry.name (Value.list arguments).literal reason

/-- What comes of resolving by a registration, told by its own parts alone: the type of
    entities that it is about, then its signature, and at last what its maker makes. -/
inductive Yields (s : Schema) (entry : Registration) (arguments : List Value)
    (entity : Option TypeExpr) : Except Fault Spec → Prop where
  /-- The registration is about entities of another type. -/
  | misdirected {asked own : TypeExpr} : entity = some asked → entry.entity = some own →
      s.isCompatible asked own = false →
      Yields s entry arguments entity (failWith (entry.misfit arguments
        ("specification targets '" ++ own.name ++ "', not '" ++ asked.name ++ "'")))
  /-- The signature does not take that many arguments. -/
  | miscounted {signature : Signature} {reason : String} : entry.IsAbout s entity →
      entry.maker.signature = some signature →
      signature.refusal? arguments.length = some reason →
      Yields s entry arguments entity (failWith (entry.misfit arguments reason))
  /-- The maker fails, and where the values are to blame it is said so. -/
  | failed {f : Fault} : entry.IsAbout s entity → entry.Takes arguments →
      entry.maker.make arguments = .error f →
      Yields s entry arguments entity (.error (Registry.blamed (entry.misfit arguments) f))
  /-- What the maker makes is no specification. -/
  | notMade {type : String} : entry.IsAbout s entity → entry.Takes arguments →
      entry.maker.make arguments = .ok (.other type) →
      Yields s entry arguments entity
        (failWith (entry.misfit arguments ("factory returned " ++ type)))
  /-- The specification is the one that the maker makes. -/
  | made {spec : Spec} : entry.IsAbout s entity → entry.Takes arguments →
      entry.maker.make arguments = .ok (.spec spec) → Yields s entry arguments entity (.ok spec)

end Registration

namespace Registry

variable {s : Schema}

section Work

variable {entry : Registration}

/-- Work that fails before anything is done. -/
def IsRejected (a : Access Unit) : Prop :=
  ∃ f, ∀ r, a.result r = (r, some f)

theorem isRejected_reject (message : String) : IsRejected (reject message) :=
  ⟨_, fun _ => rfl⟩

theorem isRejected_reject_bind (message : String) (rest : Unit → Access Unit) :
    IsRejected (reject message >>= rest) :=
  ⟨_, fun _ => rfl⟩

theorem isRejected_add (hname : entry.name = "") : IsRejected (add entry) := by
  unfold add
  rw [if_pos hname]
  exact isRejected_reject_bind _ _

/-- What has a name is put in behind the others, unless the name is taken. -/
theorem result_add (hname : entry.name ≠ "") (r : Registry) :
    (add entry).result r =
      if (r.find? entry.name).isSome then
        (reject ("Specification '" ++ entry.name ++ "' is already registered")).result r
      else (r ++ [entry], none) := by
  unfold add
  rw [if_neg hname]
  show Access.result (if (r.find? entry.name).isSome = true then _ else _) r = _
  split
  · rfl
  · rfl

end Work

namespace Request

/-- The registration that a request is for, if nothing but the registry can stand in its
    way: a type of specifications for entities that it is about, or a maker, under a
    name. -/
def offer? (s : Schema) : Request → Option Registration
  | .register t name entity =>
    if t.isSpecification ∧ s.mayBe entity t.entity ∧ FilterError.textOr t.name name ≠ "" then
      some ⟨FilterError.textOr t.name name, t.maker, some t.name, t.entity.orElse fun _ => entity⟩
    else none
  | .registerMaker name (.maker m) entity =>
    if name ≠ "" then some ⟨name, m, none, entity⟩ else none
  | .registerMaker _ (.other _) _ | .unregister _ | .clear => none

/-- The request is to register something. -/
def isRegistration : Request → Bool
  | .register .. | .registerMaker .. => true
  | .unregister _ | .clear => false

/-- The request takes a name out. -/
def removes (name : String) : Request → Bool
  | .register .. | .registerMaker .. => false
  | .unregister n => n == name
  | .clear => true

variable {q : Request} {r : Registry}

theorem removes_of_isRegistration (h : q.isRegistration = true) (name : String) :
    q.removes name = false := by
  cases q with
  | register | registerMaker => rfl
  | unregister | clear => exact absurd h Bool.false_ne_true

/-- A request to register something is rejected before anything is done if it is for
    nothing, and otherwise puts in what it is for. -/
theorem access_cases (s : Schema) (h : q.isRegistration = true) :
    q.offer? s = none ∧ IsRejected (q.access s) ∨
      ∃ entry, q.offer? s = some entry ∧ entry.name ≠ "" ∧ q.access s = add entry := by
  -- A class is checked for its kind, its entity and its name, in this
  -- order, and a maker only for its name.
  cases q with
  | register t name entity =>
      rw [offer?, access, Registry.register]
      by_cases htype : t.isSpecification = true
      · by_cases hentity : s.mayBe entity t.entity = true
        · by_cases hname : FilterError.textOr t.name name = ""
          · rw [if_neg fun hall => hall.2.2 hname, htype, hentity]
            exact .inl ⟨rfl, isRejected_add hname⟩
          · rw [if_pos ⟨htype, hentity, hname⟩, htype, hentity]
            exact .inr ⟨_, rfl, hname, rfl⟩
        · rw [if_neg fun hall => hentity hall.2.1, htype, Bool.not_eq_true _ |>.mp hentity]
          exact .inl ⟨rfl, isRejected_reject_bind _ _⟩
      · rw [if_neg fun hall => htype hall.1, Bool.not_eq_true _ |>.mp htype]
        exact .inl ⟨rfl, isRejected_reject_bind _ _⟩
  | registerMaker name offer entity =>
      cases offer with
      | maker m =>
          rw [offer?, access, Registry.registerMaker]
          by_cases hname : name = ""
          · rw [if_neg fun h => h hname]
            exact .inl ⟨rfl, isRejected_add hname⟩
          · rw [if_pos hname]
            exact .inr ⟨_, rfl, hname, rfl⟩
      | other literal => exact .inl ⟨rfl, isRejected_reject _⟩
  | unregister | clear => exact absurd h Bool.false_ne_true

/-- What becomes of a request and of the registry. -/
inductive Outcome (s : Schema) (q : Request) (r : Registry) : Registry × Option Fault → Prop where
  /-- What the request is for is put in. -/
  | added {entry : Registration} : q.isRegistration = true → q.offer? s = some entry →
      r.find? entry.name = none → Outcome s q r (r ++ [entry], none)
  /-- The name of what the request is for is taken. -/
  | taken {entry : Registration} {f : Fault} : q.isRegistration = true →
      q.offer? s = some entry → (r.find? entry.name).isSome = true → Outcome s q r (r, some f)
  /-- The request is for nothing. -/
  | rejected {f : Fault} : q.isRegistration = true → q.offer? s = none →
      Outcome s q r (r, some f)
  /-- Names are taken out. -/
  | removed : q.isRegistration = false → q.offer? s = none →
      Outcome s q r (r.filter fun e => !q.removes e.name, none)

/-- Every request has one of these outcomes. -/
theorem outcome_serve (s : Schema) (q : Request) (r : Registry) : Outcome s q r (q.serve s r) := by
  cases hq : q.isRegistration with
  | true =>
      -- A request to register is turned down by itself or meets the registry.
      rcases access_cases s hq with ⟨hoffer, f, hf⟩ | ⟨entry, hoffer, hname, hadd⟩
      · rw [serve, hf]
        exact .rejected hq hoffer
      · rw [serve, hadd, result_add hname]
        cases hfind : r.find? entry.name with
        | none => exact .added hq hoffer hfind
        | some e => exact .taken hq hoffer (by rw [hfind]; rfl)
  | false =>
      cases q with
      | register | registerMaker => exact absurd hq.symm Bool.false_ne_true
      | unregister name =>
          -- Taking a name out keeps what has another one.
          have hkept : r.filter (fun e => !(Request.unregister name).removes e.name) =
              r.filter (·.name != name) :=
            List.filter_congr fun e _ => congrArg (!·) Bool.beq_comm
          have h := Outcome.removed (s := s) (r := r) hq rfl
          rw [hkept] at h
          exact h
      | clear =>
          have hnone : r.filter (fun e => !Request.clear.removes e.name) = [] :=
            List.filter_eq_nil_iff.mpr fun _ _ => Bool.false_ne_true
          have h := Outcome.removed (s := s) (r := r) hq rfl
          rw [hnone] at h
          exact h

/-- The registration that the request puts into a registry. -/
def added? (s : Schema) (q : Request) (fault : Option Fault) : Option Registration :=
  if fault.isSome then none else q.offer? s

/-- One request takes some names out of the registry, and puts at most one registration
    in behind the others, whose name is free. -/
theorem serve_eq (s : Schema) (q : Request) (r : Registry) :
    (q.serve s r).1 =
        (r.filter fun e => !q.removes e.name) ++ (q.added? s (q.serve s r).2).toList ∧
      ∀ entry ∈ q.added? s (q.serve s r).2,
        q.isRegistration = true ∧ r.find? entry.name = none := by
  -- A registration removes nothing.
  have hall (h : q.isRegistration = true) : r.filter (fun e => !q.removes e.name) = r := by
    rw [List.filter_eq_self]
    exact fun e _ => by rw [removes_of_isRegistration h, Bool.not_false]
  generalize hout : q.serve s r = out
  cases hout ▸ outcome_serve s q r with
  | @added entry hq hoffer hfree =>
      rw [added?, hoffer, hall hq]
      refine ⟨rfl, fun e he => ⟨hq, ?_⟩⟩
      rw [← Option.some.inj he]
      exact hfree
  | taken hq hoffer hbound =>
      rw [hall hq]
      exact ⟨(List.append_nil r).symm, fun e he => by cases he⟩
  | rejected hq hoffer =>
      rw [hall hq]
      exact ⟨(List.append_nil r).symm, fun e he => by cases he⟩
  | removed hq hoffer =>
      rw [added?, hoffer]
      exact ⟨(List.append_nil _).symm, fun e he => by cases he⟩

/-- A request that fails leaves the registry as it is. -/
theorem fst_serve_of_fault {f : Fault} (h : (q.serve s r).2 = some f) : (q.serve s r).1 = r := by
  generalize hout : q.serve s r = out at h ⊢
  cases hout ▸ outcome_serve s q r with
  | added | removed => cases h
  | taken | rejected => rfl

/-- A request to register something succeeds exactly if it is for something and the name
    is free. -/
theorem snd_serve_eq_none_iff (hq : q.isRegistration = true) :
    (q.serve s r).2 = none ↔ ∃ entry, q.offer? s = some entry ∧ r.find? entry.name = none := by
  generalize hout : q.serve s r = out
  cases hout ▸ outcome_serve s q r with
  -- Only the first of the outcomes is without an error.
  | @added entry _ hoffer hfree => exact iff_of_true rfl ⟨entry, hoffer, hfree⟩
  | @taken entry _ _ hoffer hbound =>
      refine iff_of_false (fun h => by cases h) ?_
      rintro ⟨e, he, hfree⟩
      rw [hoffer] at he
      rw [Option.some.inj he, hfree] at hbound
      exact absurd hbound Bool.false_ne_true
  | rejected _ hoffer =>
      refine iff_of_false (fun h => by cases h) ?_
      rintro ⟨e, he, -⟩
      rw [hoffer] at he
      cases he
  | removed hq' => exact absurd (hq.symm.trans hq') (by decide)

theorem isRegistration_of_offer? {entry : Registration} (h : q.offer? s = some entry) :
    q.isRegistration = true := by
  cases q with
  | register | registerMaker => rfl
  | unregister | clear => cases h

/-- What is put in is what the request is for. -/
theorem offer?_of_added? {fault : Option Fault} {entry : Registration}
    (h : q.added? s fault = some entry) : q.offer? s = some entry := by
  rw [added?] at h
  split at h
  · cases h
  · exact h

end Request

namespace Event

/-- The registration that has been put in. -/
def added? (s : Schema) (e : Event) : Option Registration :=
  e.request.added? s e.fault

/-- A registration has been put in under a name. -/
def adds (s : Schema) (name : String) (e : Event) : Bool :=
  (e.added? s).any (·.name == name)

/-- A name has been taken out, or a registration has been put in under it. -/
def concerns (s : Schema) (name : String) (e : Event) : Bool :=
  e.request.removes name || e.adds s name

end Event

/-- The registrations that were put in and not taken out since, in the order in which
    they were put in. -/
def standing (s : Schema) : List Event → List Registration
  | [] => []
  | e :: later =>
    (e.added? s).toList.filter (fun entry => !later.any (·.request.removes entry.name)) ++
      standing s later

/-- The registration that the last event about a name has put in, unless that event was
    about taking the name out. -/
def current? (s : Schema) (log : List Event) (name : String) : Option Registration :=
  (log.reverse.find? (·.concerns s name)).bind (·.added? s)

section Runs

variable {r : Registry} {requests : List (Nat × Request)} {name : String}

theorem serveAll_cons (s : Schema) (r : Registry) (client : Nat) (q : Request)
    (rest : List (Nat × Request)) :
    serveAll s r ((client, q) :: rest) =
      ((serveAll s (q.serve s r).1 rest).1,
        ⟨client, q, (q.serve s r).2⟩ :: (serveAll s (q.serve s r).1 rest).2) :=
  rfl

/-- What a registry holds after requests: what it has held before and was not taken
    out, and behind that what was put in and not taken out since. -/
theorem fst_serveAll (s : Schema) (r : Registry) (requests : List (Nat × Request)) :
    (serveAll s r requests).1 =
      (r.filter fun e => !(serveAll s r requests).2.any (·.request.removes e.name)) ++
        standing s (serveAll s r requests).2 := by
  -- Induction on the requests, for any registry that they start from.
  induction requests generalizing r with
  | nil =>
      have hall : (r.filter fun _ => true) = r := List.filter_eq_self.mpr fun _ _ => rfl
      exact (List.append_nil r).symm.trans (congrArg (· ++ []) hall.symm)
  | cons request rest ih =>
      rcases request with ⟨client, q⟩
      rw [serveAll_cons, ih]
      generalize (serveAll s (q.serve s r).1 rest).2 = later
      -- What the request has put in counts as held before for the later ones.
      rw [(Request.serve_eq s q r).1, List.filter_append, List.filter_filter, standing,
        List.append_assoc]
      congr 1
      refine List.filter_congr fun e _ => ?_
      rw [List.any_cons, Bool.not_or, Bool.and_comm]

/-- A registry that was empty holds what was put in and not taken out since. -/
theorem serveAll_eq_standing (s : Schema) (requests : List (Nat × Request)) :
    (serveAll s [] requests).1 = standing s (serveAll s [] requests).2 := by
  have h := fst_serveAll s [] requests
  exact h

/-- No two registrations have one name after a request if no two had before. -/
theorem nodup_names_serve (q : Request) (h : r.names.Nodup) : (q.serve s r).1.names.Nodup := by
  rcases Request.serve_eq s q r with ⟨hserve, hadded⟩
  have hkept : ((r.filter fun e => !q.removes e.name).map (·.name)).Nodup :=
    h.sublist (List.filter_sublist.map _)
  rw [names, hserve, List.map_append, List.nodup_append]
  refine ⟨hkept, ?_, ?_⟩
  · cases q.added? s (q.serve s r).2 with
    | none => exact List.nodup_nil
    | some entry => exact List.nodup_singleton _
  · intro n hn m hm hnm
    rcases List.mem_map.mp hn with ⟨e, he, rfl⟩
    rcases List.mem_map.mp hm with ⟨entry, hentry, rfl⟩
    have hfree := (hadded entry (Option.mem_toList.mp hentry)).2
    exact List.find?_eq_none.mp hfree e (List.mem_of_mem_filter he) (beq_iff_eq.mpr hnm)

theorem nodup_names_serveAll (h : r.names.Nodup) (requests : List (Nat × Request)) :
    (serveAll s r requests).1.names.Nodup := by
  induction requests generalizing r with
  | nil => exact h
  | cons request rest ih => exact ih (nodup_names_serve request.2 h)

theorem find?_filter_removes (q : Request) (r : Registry) (name : String) :
    Registry.find? (r.filter fun e => !q.removes e.name) name =
      if q.removes name then none else r.find? name := by
  rw [find?, List.find?_filter]
  cases hremoves : q.removes name with
  | true =>
      -- An entry that is left has another name.
      rw [if_pos rfl, List.find?_eq_none]
      intro e _ he
      rw [decide_eq_true_eq, beq_iff_eq] at he
      rw [he.2, hremoves] at he
      exact Bool.false_ne_true he.1
  | false =>
      rw [if_neg Bool.false_ne_true, find?]
      congr 1
      funext e
      by_cases he : e.name = name
      · rw [he, hremoves, beq_self_eq_true]
        rfl
      · rw [beq_eq_false_iff_ne.mpr he, decide_eq_false fun h => Bool.false_ne_true h.2]

/-- What a name stands for after a request: what the request has put in under it, or
    nothing, if the request is about the name, and otherwise the same as before. -/
theorem find?_serve (s : Schema) (client : Nat) (q : Request) (r : Registry) (name : String) :
    (q.serve s r).1.find? name =
      if (Event.mk client q (q.serve s r).2).concerns s name then
        (Event.mk client q (q.serve s r).2).added? s
      else r.find? name := by
  rcases Request.serve_eq s q r with ⟨hserve, hadded⟩
  -- The name is looked up in what was kept and then in what was added.
  have hsplit (added : Option Registration) :
      Registry.find? ((r.filter fun e => !q.removes e.name) ++ added.toList) name =
        (if q.removes name then none else r.find? name).or
          (added.toList.find? (·.name == name)) := by
    rw [find?, List.find?_append, ← find?_filter_removes]
    rfl
  rw [hserve, hsplit, Event.concerns, Event.adds, Event.added?]
  cases hcase : q.added? s (q.serve s r).2 with
  | none =>
      rw [Option.any_none, Bool.or_false]
      exact Option.or_none
  | some entry =>
      -- Only a registration adds anything, under a name that was free.
      rcases hadded entry hcase with ⟨hq, hfree⟩
      rw [Request.removes_of_isRegistration hq, Bool.false_or, Option.any_some,
        if_neg Bool.false_ne_true, Option.toList_some, List.find?_cons]
      by_cases hname : entry.name = name
      · rw [← hname, hfree, beq_self_eq_true, if_pos rfl]
        rfl
      · rw [beq_eq_false_iff_ne.mpr hname, if_neg Bool.false_ne_true]
        exact Option.or_none

/-- What a name stands for after requests: what the last event about it has left, and the
    same as before if there is no such event. -/
theorem find?_serveAll (s : Schema) (r : Registry) (requests : List (Nat × Request))
    (name : String) :
    (serveAll s r requests).1.find? name =
      ((serveAll s r requests).2.reverse.find? (·.concerns s name)).elim (r.find? name)
        (·.added? s) := by
  -- Induction on the requests; the last event about a name is searched from the end.
  induction requests generalizing r with
  | nil => rfl
  | cons request rest ih =>
      rcases request with ⟨client, q⟩
      rw [serveAll_cons, ih]
      generalize (serveAll s (q.serve s r).1 rest).2 = later
      rw [find?_serve s client, List.reverse_cons, List.find?_append]
      -- This request matters only if no later one is about the name.
      cases later.reverse.find? (·.concerns s name) with
      | some e => rfl
      | none =>
          rw [Option.none_or, List.find?_cons, List.find?_nil]
          cases (Event.mk client q (q.serve s r).2).concerns s name <;> rfl

/-- A name that a request is not about stands for the same as before. -/
theorem find?_serve_of_not_concerns {client : Nat} {q : Request} (hkept : q.removes name = false)
    (hnot : (Event.mk client q (q.serve s r).2).adds s name = false) :
    (q.serve s r).1.find? name = r.find? name := by
  rw [find?_serve s client, Event.concerns, hnot, hkept, Bool.or_self, if_neg Bool.false_ne_true]

/-- Under a name that is taken nothing is put in until it is taken out. -/
theorem filter_adds_eq_nil (hbound : (r.find? name).isSome = true)
    (hkept : ∀ p ∈ requests, p.2.removes name = false) :
    (serveAll s r requests).2.filter (·.adds s name) = [] := by
  induction requests generalizing r with
  | nil => rfl
  | cons request rest ih =>
      rcases request with ⟨client, q⟩
      -- The name is taken, so no request puts it in.
      have hnot : (Event.mk client q (q.serve s r).2).adds s name = false := by
        rw [Event.adds, Event.added?]
        cases hcase : q.added? s (q.serve s r).2 with
        | none => rfl
        | some entry =>
            rw [Option.any_some, beq_eq_false_iff_ne]
            intro hname
            rw [← hname, ((Request.serve_eq s q r).2 entry hcase).2] at hbound
            exact Bool.false_ne_true hbound
      have hsame := find?_serve_of_not_concerns (hkept _ List.mem_cons_self) hnot
      rw [serveAll_cons, List.filter_cons, hnot, if_neg Bool.false_ne_true]
      exact ih (hsame ▸ hbound) fun p hp => hkept p (List.mem_cons_of_mem _ hp)

/-- Of registrations that compete for a free name exactly one succeeds, as long as the
    name is not taken out. -/
theorem length_filter_adds (hfree : r.find? name = none)
    (hkept : ∀ p ∈ requests, p.2.removes name = false)
    (hoffered : ∃ p ∈ requests, ∃ entry, p.2.offer? s = some entry ∧ entry.name = name) :
    ((serveAll s r requests).2.filter (·.adds s name)).length = 1 := by
  -- Induction on the requests. As long as nobody has asked for the name, it stays free.
  induction requests generalizing r with
  | nil =>
      rcases hoffered with ⟨p, hp, -⟩
      exact absurd hp List.not_mem_nil
  | cons request rest ih =>
      rcases request with ⟨client, q⟩
      have hkept' := fun p hp => hkept p (List.mem_cons_of_mem _ hp)
      rw [serveAll_cons, List.filter_cons]
      by_cases hq : ∃ entry, q.offer? s = some entry ∧ entry.name = name
      · -- The first one to ask gets the name, and the others come too late.
        rcases hq with ⟨entry, hoffer, hname⟩
        have hsucceeds : (q.serve s r).2 = none :=
          (Request.snd_serve_eq_none_iff (Request.isRegistration_of_offer? hoffer)).mpr
            ⟨entry, hoffer, hname ▸ hfree⟩
        have hadded : (Event.mk client q (q.serve s r).2).added? s = some entry := by
          rw [Event.added?, Request.added?, hsucceeds]
          exact hoffer
        have hadds : (Event.mk client q (q.serve s r).2).adds s name = true := by
          rw [Event.adds, hadded, Option.any_some, beq_iff_eq]
          exact hname
        have hbound : ((q.serve s r).1.find? name).isSome = true := by
          rw [find?_serve s client, Event.concerns, hadds, Bool.or_true, if_pos rfl, hadded]
          rfl
        rw [hadds, if_pos rfl, filter_adds_eq_nil hbound hkept']
        rfl
      · have hadds : (Event.mk client q (q.serve s r).2).adds s name = false := by
          rw [Event.adds, Event.added?]
          cases hcase : q.added? s (q.serve s r).2 with
          | none => rfl
          | some entry =>
              rw [Option.any_some, beq_eq_false_iff_ne]
              exact fun hname => hq ⟨entry, Request.offer?_of_added? hcase, hname⟩
        have hsame := find?_serve_of_not_concerns (hkept _ List.mem_cons_self) hadds
        rw [hadds, if_neg Bool.false_ne_true]
        refine ih (hsame.trans hfree) hkept' ?_
        rcases hoffered with ⟨p, hp, hoffer⟩
        rcases List.mem_cons.mp hp with rfl | hp
        · exact absurd hoffer hq
        · exact ⟨p, hp, hoffer⟩

theorem name_of_find? {entry : Registration} (h : r.find? name = some entry) :
    entry.name = name := by
  have hname := List.find?_some h
  exact beq_iff_eq.mp hname

/-- What a name stands for is all of the registry that matters to resolving it. -/
theorem yields_resolve {entry : Registration} (h : r.find? name = some entry)
    (arguments : List Value) (entity : Option TypeExpr) :
    entry.Yields s arguments entity (r.resolve s name arguments entity) := by
  have hget : r.get name = .ok entry := by rw [get, h]
  rw [resolve, hget, ← name_of_find? h]
  simp only [bind, Except.bind]
  -- The checks stand in the order in which they are made, and each is one case of the outcome.
  cases hentity : s.mayBe entity entry.entity with
  | false =>
      rcases Schema.mayBe_eq_false_iff.mp hentity with ⟨asked, own, rfl, hown, hno⟩
      rw [hown]
      exact .misdirected rfl hown hno
  | true =>
      have habout := Schema.mayBe_eq_true_iff.mp hentity
      simp only [Bool.not_true, Bool.false_eq_true, if_false]
      cases hreason : entry.maker.signature.bind (·.refusal? arguments.length) with
      | some reason =>
          rcases Option.bind_eq_some_iff.mp hreason with ⟨signature, hsignature, hrefusal⟩
          exact .miscounted habout hsignature hrefusal
      | none =>
          have htakes : entry.Takes arguments := Option.bind_eq_none_iff.mp hreason
          -- Only now is anything made.
          cases hmake : entry.maker.make arguments with
          | error f => exact .failed habout htakes hmake
          | ok made =>
              cases made with
              | spec spec => exact .made habout htakes hmake
              | other type => exact .notMade habout htakes hmake

theorem resolve_of_find?_eq_none (h : r.find? name = none) (arguments : List Value)
    (entity : Option TypeExpr) :
    r.resolve s name arguments entity = failWith (.notRegistered name r.names) := by
  rw [resolve, get, h]
  rfl

end Runs

section Turns

variable {clients : List (List Request)}

/-- Each client is served in the order of its requests, up to some point. -/
theorem isPrefix_interleave (clients : List (List Request)) (turns : List Nat) (i : Nat) :
    ((interleave clients turns).filter (·.1 == i)).map (·.2) <+: clients[i]?.getD [] := by
  -- Induction on the turns: each one takes the next request of one client, or nothing.
  induction turns generalizing clients with
  | nil => exact List.nil_prefix
  | cons j turns ih =>
      rw [interleave]
      split
      · rename_i q rest hj
        have hrest := ih (clients.set j rest)
        rw [List.filter_cons]
        -- The turn belongs to this client or to another, whose requests are of no matter.
        by_cases hji : j = i
        · subst hji
          have hlt : j < clients.length := (List.getElem?_eq_some_iff.mp hj).1
          rw [List.getElem?_set_self hlt] at hrest
          rw [beq_self_eq_true, if_pos rfl, hj]
          exact List.prefix_cons_inj q |>.mpr hrest
        · rw [List.getElem?_set_ne hji] at hrest
          rw [beq_eq_false_iff_ne.mpr hji, if_neg Bool.false_ne_true]
          exact hrest
      · exact ih clients

/-- An order of requests that keeps the order of each client's is the order of some
    turns, namely of turns for just those clients. -/
theorem interleave_map_fst {requests : List (Nat × Request)}
    (h : ∀ i, (requests.filter (·.1 == i)).map (·.2) <+: clients[i]?.getD []) :
    interleave clients (requests.map (·.1)) = requests := by
  induction requests generalizing clients with
  | nil => rfl
  | cons request later ih =>
      rcases request with ⟨i, q⟩
      -- The client whose turn it is has this request first.
      have hi := h i
      rw [List.filter_cons, beq_self_eq_true, if_pos rfl, List.map_cons] at hi
      rw [List.map_cons, interleave]
      cases hclient : clients[i]? with
      | none =>
          rw [hclient] at hi
          exact absurd (List.prefix_nil.mp hi) (List.cons_ne_nil _ _)
      | some own =>
          have hlt : i < clients.length := (List.getElem?_eq_some_iff.mp hclient).1
          rw [hclient, Option.getD_some] at hi
          rcases List.cons_prefix_iff.mp hi with ⟨rest, rfl, hrest⟩
          -- Once it is served the others still have theirs in order.
          have hlater (j : Nat) : (later.filter (·.1 == j)).map (·.2) <+:
              (clients.set i rest)[j]?.getD [] := by
            by_cases hij : i = j
            · subst hij
              rw [List.getElem?_set_self hlt]
              exact hrest
            · have hj := h j
              rw [List.filter_cons, beq_eq_false_iff_ne.mpr hij, if_neg Bool.false_ne_true] at hj
              rw [List.getElem?_set_ne hij]
              exact hj
          exact congrArg ((i, q) :: ·) (ih hlater)

/-- Turns give all orders that keep the order of each client's requests, and no others.
    Some requests may be left in the end. -/
theorem exists_interleave_eq_iff {requests : List (Nat × Request)} :
    (∃ turns, interleave clients turns = requests) ↔
      ∀ i, (requests.filter (·.1 == i)).map (·.2) <+: clients[i]?.getD [] :=
  ⟨fun ⟨turns, h⟩ => h ▸ isPrefix_interleave clients turns, fun h => ⟨_, interleave_map_fst h⟩⟩

/-- The log tells of all requests, in the order in which they were served. -/
theorem map_serveAll (s : Schema) (r : Registry) (requests : List (Nat × Request)) :
    (serveAll s r requests).2.map (fun e => (e.client, e.request)) = requests := by
  induction requests generalizing r with
  | nil => rfl
  | cons request rest ih => exact congrArg (request :: ·) (ih _)

theorem isPrefix_serveAll (s : Schema) (clients : List (List Request)) (turns : List Nat)
    (i : Nat) :
    ((serveAll s [] (interleave clients turns)).2.filter (·.client == i)).map (·.request) <+:
      clients[i]?.getD [] := by
  have h := isPrefix_interleave clients turns i
  rw [← map_serveAll s [] (interleave clients turns), List.filter_map, List.map_map] at h
  exact h

end Turns

/-- A registry is what its log says, and whatever is asked of it next keeps to the
    rules. -/
structure IsOrderly (s : Schema) (log : List Event) (r : Registry) : Prop where
  /-- A name stands for at most one registration. -/
  unique : r.names.Nodup
  /-- A request that fails leaves the registry as it is. -/
  unchanged : ∀ (q : Request) (f : Fault), (q.serve s r).2 = some f → (q.serve s r).1 = r
  /-- A request to register something succeeds exactly if it is for something, and the
      name is free. -/
  free : ∀ q : Request, q.isRegistration = true →
    ((q.serve s r).2 = none ↔ ∃ entry, q.offer? s = some entry ∧ r.find? entry.name = none)
  /-- Of requests to register something under a name that is free one succeeds, as long as
      the name is not taken out. -/
  exclusive : ∀ (name : String) (next : List (Nat × Request)), r.find? name = none →
    (∀ p ∈ next, p.2.removes name = false) →
    (∃ p ∈ next, ∃ entry, p.2.offer? s = some entry ∧ entry.name = name) →
    ((serveAll s r next).2.filter (·.adds s name)).length = 1
  /-- The names are those of the registrations that stand, in their order. -/
  listed : r.names = (standing s log).map (·.name)
  /-- A name that stands for a registration is resolved by this one: by the entities that
      it is about, its signature and its maker. -/
  resolved : ∀ (name : String) (arguments : List Value) (entity : Option TypeExpr)
    (entry : Registration), current? s log name = some entry →
      entry.name = name ∧ entry.Yields s arguments entity (r.resolve s name arguments entity)
  /-- A name that stands for nothing is not resolved. -/
  unresolved : ∀ (name : String) (arguments : List Value) (entity : Option TypeExpr),
    current? s log name = none →
      r.resolve s name arguments entity = failWith (.notRegistered name r.names)

/-- Whoever's turn it is, each client is served in the order of its requests, and what
    they all leave is at all times the registry that the log tells of. -/
theorem isOrderly_serveAll (s : Schema) (clients : List (List Request)) (turns : List Nat) :
    (∀ i, ((serveAll s [] (interleave clients turns)).2.filter (·.client == i)).map
        (·.request) <+: clients[i]?.getD []) ∧
      IsOrderly s (serveAll s [] (interleave clients turns)).2
        (serveAll s [] (interleave clients turns)).1 := by
  refine ⟨isPrefix_serveAll s clients turns, ?_⟩
  -- A name stands for what the log has last put in under it.
  have hfind (name : String) : (serveAll s [] (interleave clients turns)).1.find? name =
      current? s (serveAll s [] (interleave clients turns)).2 name := by
    rw [find?_serveAll, current?]
    cases List.find? _ _ <;> rfl
  -- One field after the other: the log tells what every request has done.
  constructor
  · exact nodup_names_serveAll (r := []) List.nodup_nil _
  · exact fun _ _ => Request.fst_serve_of_fault
  · exact fun _ => Request.snd_serve_eq_none_iff
  · exact fun _ _ => length_filter_adds
  · rw [names, serveAll_eq_standing]
  · intro name arguments entity entry h
    -- The entry that stands in the log is the one that a search finds.
    rw [← hfind] at h
    exact ⟨name_of_find? h, yields_resolve h arguments entity⟩
  · intro name arguments entity h
    rw [← hfind] at h
    exact resolve_of_find?_eq_none h arguments entity

/-- Two clients want one name, and the one whose turn comes first gets it. The name is
    then resolved by what that client has registered, and a name that was taken out is not
    resolved at all. -/
theorem isOrderly_serveAll_shared :
    let served := serveAll Catalog.schema [] (interleave
      [[.register Catalog.duck none none, .register Catalog.duck (some "Shared") none],
        [.register Catalog.anyOf (some "Shared") none, .unregister "Duck"]] [0, 1, 0, 1])
    served.2.map (·.fault.isSome) = [false, false, true, false] ∧
      served.1.names = ["Shared"] ∧
      (∃ entry : Registration, entry.maker = Catalog.anyOf.maker ∧
        entry.Yields Catalog.schema [.int 1] none
          (served.1.resolve Catalog.schema "Shared" [.int 1] none)) ∧
      served.1.resolve Catalog.schema "Shared" [.int 1] none =
        .ok (Catalog.anyOfSpec [.int 1]) ∧
      served.1.resolve Catalog.schema "Duck" [] none =
        failWith (.notRegistered "Duck" ["Shared"]) := by
  intro served
  -- The registry is orderly by the theorem, and the names are looked up in it.
  have horderly := (isOrderly_serveAll Catalog.schema
    [[.register Catalog.duck none none, .register Catalog.duck (some "Shared") none],
      [.register Catalog.anyOf (some "Shared") none, .unregister "Duck"]] [0, 1, 0, 1]).2
  have hshared := horderly.resolved "Shared" [.int 1] none _ rfl
  exact ⟨rfl, rfl, ⟨_, rfl, hshared.2⟩, rfl, horderly.unresolved "Duck" [] none rfl⟩

end Registry

end Criteria
