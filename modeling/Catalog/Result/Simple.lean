import Catalog.Result.Dataset
import Catalog.Result.Job
import Catalog.Search.Kind

/-!
# Simple results and search responses

A simple search returns kind, name, namespace and last update of each match; a row whose
stored kind is neither a dataset nor a job (read leniently) is skipped. The responses of both
searches carry the total count of matches.

* `SimpleSearchRow.toResult`.
* `SimpleSearchResponse`, `FullSearchResponse`: their wire forms.
-/

namespace Catalog

/-- A stored row of a simple search. -/
structure SimpleSearchRow where
  kind : String
  name : String
  namespaceName : String
  updatedAt : Timestamp
  deriving Repr, Inhabited

/-- A simple search result. -/
structure SimpleSearchResult where
  kind : EntityKind
  name : String
  namespaceName : String
  updatedAt : Timestamp
  deriving Repr, Inhabited

/-- **A row as a result**, when its kind reads as a dataset or a job. -/
def SimpleSearchRow.toResult (row : SimpleSearchRow) : Option SimpleSearchResult :=
  (EntityKind.parse row.kind).map fun kind => ⟨kind, row.name, row.namespaceName, row.updatedAt⟩

namespace SimpleSearchResult

open Decode in
/-- The wire reader. -/
def decode : Decoder SimpleSearchResult :=
  record "SimpleSearchResult" 4 do
    let kind ← field "type" EntityKind.decode .required
    let name ← field "name" string .required
    let namespaceName ← field "namespace" string .required
    let updatedAt ← field "updatedAt" Timestamp.decode .required
    return { kind, name, namespaceName, updatedAt }

/-- The wire form. -/
def toJson (r : SimpleSearchResult) : Json :=
  .object [("type", r.kind.toJson), ("name", .str r.name), ("namespace", .str r.namespaceName),
    ("updatedAt", r.updatedAt.toJson)]

end SimpleSearchResult

/-- The answer of a simple search. -/
structure SimpleSearchResponse where
  totalCount : Nat
  results : List SimpleSearchResult
  deriving Repr, Inhabited

namespace SimpleSearchResponse

open Decode in
/-- The wire reader. -/
def decode : Decoder SimpleSearchResponse :=
  record "SimpleSearchResponse" 2 do
    let totalCount ← field "totalCount" u64 .required
    let results ← field "results" (list SimpleSearchResult.decode) .required
    return { totalCount, results }

/-- The wire form. -/
def toJson (r : SimpleSearchResponse) : Json :=
  .object [("totalCount", .nat r.totalCount), ("results", .arr (r.results.map SimpleSearchResult.toJson))]

end SimpleSearchResponse

/-- The answer of a full search. -/
structure FullSearchResponse where
  totalCount : Nat
  datasets : List DatasetResult
  jobs : List JobResult
  deriving Repr, Inhabited

namespace FullSearchResponse

open Decode in
/-- The wire reader. -/
def decode : Decoder FullSearchResponse :=
  record "FullSearchResults" 3 do
    let totalCount ← field "totalCount" u64 .required
    let datasets ← field "datasets" (list DatasetResult.decode) .required
    let jobs ← field "jobs" (list JobResult.decode) .required
    return { totalCount, datasets, jobs }

/-- The wire form. -/
def toJson (r : FullSearchResponse) : Json :=
  .object [("totalCount", .nat r.totalCount), ("datasets", .arr (r.datasets.map DatasetResult.toJson)),
    ("jobs", .arr (r.jobs.map JobResult.toJson))]

end FullSearchResponse

end Catalog
