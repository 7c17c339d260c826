import Criteria.Registry.Basic

/-!
# Shared Registries

Several clients change one registry. Each of them has its requests in an order of its
own, and whose turn it is next is not up to them; but a request is served as a whole,
before the next one is looked at. A request that fails is a matter of its client
alone, and the others go on with the registry it has left.

## Main definitions

* `Registry.Access.result`: What work on a registry leaves, and what went wrong.
* `Registry.Request`: What a client asks of a registry.
* `Registry.Request.serve`: The registry after a request, and what went wrong.
* `Registry.Event`: A request that was served.
* `Registry.serveAll`: The registry after requests, and all that happened.
* `Registry.interleave`: The requests of several clients, in the order of their turns.
-/

namespace Criteria

namespace Registry

/-- The registry after work on it, and what went wrong. -/
def Access.result (a : Access Unit) (r : Registry) : Registry × Option Fault :=
  match a.run.run r with
  | (.ok _, r') => (r', none)
  | (.error f, r') => (r', some f)

/-- What a client asks of a registry. -/
inductive Request where
  | register (t : SpecType) (name : Option String) (entity : Option TypeExpr)
  | registerMaker (name : String) (offer : Offer) (entity : Option TypeExpr)
  | unregister (name : String)
  | clear

namespace Request

/-- The work on the registry that is asked for. -/
def access (s : Schema) : Request → Access Unit
  | .register t name entity => Registry.register s t name entity
  | .registerMaker name offer entity => Registry.registerMaker name offer entity
  | .unregister name => Registry.unregister name
  | .clear => Registry.clear

/-- The registry after a request, and what went wrong. -/
def serve (s : Schema) (q : Request) (r : Registry) : Registry × Option Fault :=
  (q.access s).result r

end Request

/-- A request that was served for a client, and what went wrong. -/
structure Event where
  client : Nat
  request : Request
  fault : Option Fault

/-- The registry after requests of clients, and what happened to each of them. -/
def serveAll (s : Schema) (r : Registry) : List (Nat × Request) → Registry × List Event
  | [] => (r, [])
  | (client, q) :: rest =>
    let (r', fault) := q.serve s r
    let (last, log) := serveAll s r' rest
    (last, ⟨client, q, fault⟩ :: log)

/-- The requests of several clients in the order of their turns, each with its client.
    A client that has no request left, or is none of them, lets its turn pass. -/
def interleave (clients : List (List Request)) : List Nat → List (Nat × Request)
  | [] => []
  | i :: turns =>
    match clients[i]? with
    | some (q :: rest) => (i, q) :: interleave (clients.set i rest) turns
    | _ => interleave clients turns

end Registry

end Criteria
