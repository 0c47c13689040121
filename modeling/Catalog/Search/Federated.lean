import Catalog.Search.Request
import Catalog.Search.Split
import Catalog.Service.Error

/-!
# Federated full search

A full search reads two collections, datasets and jobs. With a filter it reads one: a page of
results (skipped when the page is empty), then its count, which is the total. Without a
filter it counts both (datasets first), splits the page between them with `Budget.ofPage`,
reads each collection's part (skipped when empty) and reports the sum of the counts. Every
read carries the request's query, namespace and sort, and its facet names only when facets
are on. The counts are 64-bit: a sum that does not fit aborts the search once both counts
and both reads are made, and the failure keeps those calls.

* `FullSearch.search`: results and the calls made, in order.
* `FullSearch.answer`: the same, after refusing a blank query.
* `Collection.numbered`: an in-memory collection of numbered rows.
-/

namespace Catalog

/-- A collection a federated search reads: how many rows match, and a page of them. -/
structure Collection (α : Type) where
  count : Nat
  search : SearchParams → List α

/-- **An in-memory collection** of `available` rows named `label-0`, `label-1`, …; a page
is the rows from the offset on, at most the limit of them. -/
def Collection.numbered (label : String) (available : Nat) : Collection String where
  count := available
  search p := (List.range' p.offset (min p.limit (available - p.offset))).map
    fun i => label ++ "-" ++ toString i

/-- Which collection a call went to. -/
inductive Side where
  | datasets
  | jobs
  deriving DecidableEq, Repr, Inhabited

/-- A call a search makes on a collection. -/
inductive Call where
  | count (side : Side)
  | search (side : Side) (params : SearchParams)
  deriving Repr, Inhabited

/-- A page of results with the total count of matches. -/
structure FullSearchResults (α β : Type) where
  totalCount : Nat
  datasets : List α
  jobs : List β

/-- Why a full search gave no results. -/
inductive SearchFailure where
  /-- The service refused the request. -/
  | refused (e : ServiceError)
  /-- The sum of the two counts does not fit in 64 bits; the calls made before it. -/
  | countOverflow (calls : List Call)
  deriving Repr, Inhabited

/-- The message of an aborted search. -/
def SearchFailure.overflowMessage : String := "attempt to add with overflow"

namespace FullSearch

/-- The parameters of one collection's read for a request and that collection's window. -/
def paramsFor (req : FullSearchRequest) (w : Window) : SearchParams where
  query := req.query
  namespaceName := req.namespaceName
  sort := req.sort
  limit := w.limit
  offset := w.offset
  includeFacets := req.facets
  facetNames := if req.facets then req.facetNames else none

/-- A read of one collection, skipped for an empty window; the results and the calls made. -/
def fetch (c : Collection α) (side : Side) (p : SearchParams) : List α × List Call :=
  if p.limit = 0 then ([], []) else (c.search p, [.search side p])

/-- **The federated search** of a request, with at most `maxLimit` rows per page: the results
and every call made, in order. -/
def search (maxLimit : Nat) (datasets : Collection α) (jobs : Collection β)
    (req : FullSearchRequest) : Except SearchFailure (FullSearchResults α β × List Call) :=
  let limit := min req.limit maxLimit
  let window : Window := ⟨limit, req.offset⟩
  match req.filter with
  | some .dataset =>
    let (rows, calls) := fetch datasets .datasets (paramsFor req window)
    .ok (⟨datasets.count, rows, []⟩, calls ++ [.count .datasets])
  | some .job =>
    let (rows, calls) := fetch jobs .jobs (paramsFor req window)
    .ok (⟨jobs.count, [], rows⟩, calls ++ [.count .jobs])
  | none =>
    let budget := Budget.ofPage limit req.offset datasets.count jobs.count
    let (dRows, dCalls) := fetch datasets .datasets (paramsFor req budget.datasets)
    let (jRows, jCalls) := fetch jobs .jobs (paramsFor req budget.jobs)
    let total := datasets.count + jobs.count
    let calls := [.count .datasets, .count .jobs] ++ dCalls ++ jCalls
    if total < Nat.pow 2 64 then .ok (⟨total, dRows, jRows⟩, calls)
    else .error (.countOverflow calls)

/-- **The service's full search**: a blank query is refused before any call. -/
def answer (maxLimit : Nat) (datasets : Collection α) (jobs : Collection β)
    (req : FullSearchRequest) : Except SearchFailure (FullSearchResults α β × List Call) :=
  if Text.isBlank req.query then .error (.refused .blankQuery)
  else search maxLimit datasets jobs req

end FullSearch

end Catalog
