import Catalog.Search.Kind
import Catalog.Service.Error

/-!
# Well-known dataset facets

Facets are JSON documents attached to datasets and job runs under a name. Some names are
well known and have a kind: descriptive facets of the dataset itself, and facets about a
dataset as a job's input or output. Names compare ignoring ASCII case, untrimmed.

* `datasetFacetKind`: the kind of a facet name, `unknown` for names not in the table.
* `ensureObject`: a stored facet must be a JSON object.
-/

namespace Catalog

/-- The name of the facet holding lineage statistics. -/
def lineageStatisticsFacet : String := "lineageStatistics"

/-- The well-known dataset facet names and their kinds. -/
def datasetFacetKinds : List (String × FacetKind) :=
  [("documentation", .dataset), ("description", .dataset), ("schema", .dataset),
    ("dataSource", .dataset), ("lifecycleStateChange", .dataset), ("version", .dataset),
    ("columnLineage", .dataset), ("ownership", .dataset), ("dataQualityMetrics", .input),
    ("dataQualityAssertions", .input), ("outputStatistics", .output),
    (lineageStatisticsFacet, .dataset)]

/-- **The kind of a dataset facet name**: the first table entry equal to it up to ASCII case,
else `unknown`. -/
def datasetFacetKind (name : String) : FacetKind :=
  match datasetFacetKinds.find? fun (known, _) => Text.equalsIgnoringAsciiCase known name with
  | some (_, kind) => kind
  | none => .unknown

/-- **A facet document must be an object**; otherwise the store refuses it, naming the facet. -/
def ensureObject (name : String) (document : Json) : Except StoreError Unit :=
  if document.isObject then .ok ()
  else .error (.invalidArgument ("Facet " ++ name ++ " must be a JSON object."))

end Catalog
