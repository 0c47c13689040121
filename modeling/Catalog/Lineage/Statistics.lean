import Catalog.Uuid
import Catalog.Config.Basic

/-!
# Lineage statistics

How a dataset sits in the lineage graph: the distinct jobs that produce it (edges whose
`io_type` is exactly `OUTPUT`) and consume it (exactly `INPUT`), their namespaces, and, over
all time, their job types. Any other `io_type`, other case or blanks included, is ignored.
Sets are kept as strictly increasing lists.

* `LineageStatistics.ofEdges`: the statistics of a dataset's current edges.
* `LineageStatistics.toDocument`: the facet document, stamped with producer and schema.
* `LineageStatistics.decode`, `toJson`: the wire form; absent job types are left out.
-/

namespace Catalog

/-- A current job-version edge touching a dataset. -/
structure LineageEdge where
  ioType : String
  jobUuid : Uuid
  namespaceName : String
  jobType : Option String
  deriving Repr, Inhabited

/-- The direction of an edge, seen from the dataset. -/
inductive IoType where
  | input
  | output
  deriving DecidableEq, Repr

/-- The direction of an edge: exactly `INPUT` or `OUTPUT`, else none. -/
def LineageEdge.io (e : LineageEdge) : Option IoType :=
  if e.ioType = "OUTPUT" then some .output
  else if e.ioType = "INPUT" then some .input
  else none

/-- Which edges statistics cover. -/
inductive StatisticsScope where
  /-- All of the dataset's history: job types included. -/
  | allTime
  /-- One version: no job types. -/
  | version
  deriving DecidableEq, Repr

/-- Inserts into a strictly increasing list, keeping it so. -/
def insertSorted [LT α] [DecidableRel (α := α) (· < ·)] [DecidableEq α] (x : α) : List α → List α
  | [] => [x]
  | y :: ys => if x = y then y :: ys else if x < y then x :: y :: ys else y :: insertSorted x ys

/-- The distinct elements of a list, increasing. -/
def sortedSet [LT α] [DecidableRel (α := α) (· < ·)] [DecidableEq α] (xs : List α) : List α :=
  xs.foldl (fun acc x => insertSorted x acc) []

/-- A dataset's lineage statistics. -/
structure LineageStatistics where
  /-- Distinct jobs producing the dataset. -/
  inEdges : Nat
  /-- Distinct jobs consuming the dataset. -/
  outEdges : Nat
  consumingNamespaces : List String
  producingNamespaces : List String
  producingJobTypes : Option (List String)
  consumingJobTypes : Option (List String)
  deriving DecidableEq, Repr, Inhabited

namespace LineageStatistics

/-- **The statistics of edges**: distinct producing and consuming jobs, their namespaces,
and over all time their job types. -/
def ofEdges (edges : List LineageEdge) (scope : StatisticsScope) : LineageStatistics :=
  let producing := edges.filter fun e => e.io = some .output
  let consuming := edges.filter fun e => e.io = some .input
  let jobTypes (es : List LineageEdge) :=
    if scope = .allTime then some (sortedSet (es.filterMap LineageEdge.jobType)) else none
  { inEdges := (sortedSet (producing.map fun e => e.jobUuid.value)).length
    outEdges := (sortedSet (consuming.map fun e => e.jobUuid.value)).length
    consumingNamespaces := sortedSet (consuming.map LineageEdge.namespaceName)
    producingNamespaces := sortedSet (producing.map LineageEdge.namespaceName)
    producingJobTypes := jobTypes producing
    consumingJobTypes := jobTypes consuming }

/-- The members shared by the wire form and the facet document. -/
def coreFields (s : LineageStatistics) : List (String × Json) :=
  [("inEdges", .nat s.inEdges), ("outEdges", .nat s.outEdges),
    ("consumingNamespaces", Json.strings s.consumingNamespaces),
    ("producingNamespaces", Json.strings s.producingNamespaces)] ++
  (s.producingJobTypes.map fun ts => [("producingJobTypes", Json.strings ts)]).getD [] ++
  (s.consumingJobTypes.map fun ts => [("consumingJobTypes", Json.strings ts)]).getD []

/-- The wire form; absent job types are left out. -/
def toJson (s : LineageStatistics) : Json := .object s.coreFields

/-- **The facet document**: the wire form with `_producer` and `_schema`. -/
def toDocument (s : LineageStatistics) (l : LineageSettings) : Json :=
  .object ([("_producer", .str l.producer), ("_schema", .str l.schemaUrl)] ++ s.coreFields)

open Decode in
/-- The wire reader. -/
def decode : Decoder LineageStatistics :=
  record "LineageStatistics" 6 do
    let inEdges ← field "inEdges" u64 .required
    let outEdges ← field "outEdges" u64 .required
    let consumingNamespaces ← field "consumingNamespaces" (list string) .required
    let producingNamespaces ← field "producingNamespaces" (list string) .required
    let producingJobTypes ← field "producingJobTypes" (option (list string)) (.defaulted none)
    let consumingJobTypes ← field "consumingJobTypes" (option (list string)) (.defaulted none)
    return ⟨inEdges, outEdges, consumingNamespaces, producingNamespaces, producingJobTypes,
      consumingJobTypes⟩

end LineageStatistics

end Catalog
