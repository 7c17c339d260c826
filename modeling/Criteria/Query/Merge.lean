import Criteria.Query.Basic

/-!
# Merging Queries

An incoming query is merged into an existing one, part by part. Orderings set
the direction of their fields, criteria supersede those they replace, included
paths are united, and page, tracking and hierarchy are taken over where the
incoming query has them.

## Main definitions

* `mergeOrderings`, `mergeFilters`, `mergeIncludes`: The merged parts.
* `Query.merge`: The merged query.
-/

namespace Criteria

/-- The incoming number if it is positive, else the existing one, else what
    stands for neither. -/
def mergeCount (existing incoming fallback : Int) : Int :=
  if 0 < incoming then incoming else if 0 < existing then existing else fallback

/-- The existing orderings with the directions of the incoming ones set. -/
def mergeOrderings (existing incoming : List OrderBy) : List OrderBy :=
  incoming.foldl (fun os o => setDirection o.field o.direction os) existing

/-- The criteria with an incoming one behind those it does not replace. -/
def supersede (existing : List Criterion) (incoming : Criterion) : List Criterion :=
  (existing.filter fun c => !incoming.replaces c) ++ [incoming]

/-- The existing criteria, superseded by the incoming ones in their order. -/
def mergeFilters (existing incoming : List Criterion) : List Criterion :=
  incoming.foldl supersede existing

/-- The existing paths, then the incoming ones that are new. -/
def mergeIncludes (existing incoming : List String) : List String :=
  incoming.foldl addText existing

namespace Query

/-- The query follows a hierarchy. -/
def hasHierarchy (q : Query) : Bool :=
  !(q.hierarchy.getD "").isEmpty

/-- The merged query. -/
def merge (q other : Query) : Query where
  page := mergeCount q.page other.page firstPage
  pageSize := mergeCount q.pageSize other.pageSize standardPageSize
  noTracking := if other.trackingGiven then other.noTracking else q.noTracking
  trackingGiven := q.trackingGiven || other.trackingGiven
  orderings := mergeOrderings q.orderings other.orderings
  filters := mergeFilters q.filters other.filters
  includes := mergeIncludes q.includes other.includes
  hierarchy := if other.hasHierarchy then other.hierarchy else q.hierarchy
  maxDepth := if other.hasHierarchy then other.maxDepth else q.maxDepth

end Query

end Criteria
