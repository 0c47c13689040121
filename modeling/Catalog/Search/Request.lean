import Catalog.Search.Kind

/-!
# Search requests and the parameters of one collection's search

A full search request asks both collections (or one, with a filter) for a page of results
matching a text, with facets; a simple search asks for names only. The parameters of one
collection's search carry that collection's part of the page.

* `FullSearchRequest.decode`, `SimpleSearchRequest.decode`: the wire readers; `toJson` the
  writers.
* `SearchParams.facetSelection`: which facets a search loads: none when facets are off, the
  named ones when a nonempty list of names is given, otherwise all.
-/

namespace Catalog

/-- A request for a page of datasets and jobs whose names contain `query`. -/
structure FullSearchRequest where
  query : String
  filter : Option EntityKind
  sort : SearchSort
  limit : Nat
  offset : Nat
  namespaceName : Option String
  facets : Bool
  facetNames : Option (List String)
  deriving Repr, Inhabited

/-- A request for names only. -/
structure SimpleSearchRequest where
  query : String
  filter : Option EntityKind
  sort : SearchSort
  limit : Nat
  namespaceName : Option String
  deriving Repr, Inhabited

namespace FullSearchRequest

open Decode in
/-- The wire reader: `query`, `sort`, `limit`, `offset` and `facets` are required, `filter`,
`namespace` and `facet_names` may be absent or `null`. -/
def decode : Decoder FullSearchRequest :=
  record "FullSearchRequest" 8 do
    let query ← field "query" string .required
    let filter ← field "filter" (option EntityKind.decode) (.optional none)
    let sort ← field "sort" SearchSort.decode .required
    let limit ← field "limit" u32 .required
    let offset ← field "offset" u32 .required
    let namespaceName ← field "namespace" (option string) (.optional none)
    let facets ← field "facets" bool .required
    let facetNames ← field "facet_names" (option (list string)) (.optional none)
    return { query, filter, sort, limit, offset, namespaceName, facets, facetNames }

/-- The wire form. -/
def toJson (r : FullSearchRequest) : Json :=
  .object [("query", .str r.query), ("filter", (r.filter.map EntityKind.toJson).getD .null),
    ("sort", r.sort.toJson), ("limit", .nat r.limit), ("offset", .nat r.offset),
    ("namespace", .ofOption r.namespaceName), ("facets", .bool r.facets),
    ("facet_names", (r.facetNames.map Json.strings).getD .null)]

end FullSearchRequest

namespace SimpleSearchRequest

open Decode in
/-- The wire reader: `query`, `sort` and `limit` are required, `filter` and `namespace` may be
absent or `null`. -/
def decode : Decoder SimpleSearchRequest :=
  record "SimpleSearchRequest" 5 do
    let query ← field "query" string .required
    let filter ← field "filter" (option EntityKind.decode) (.optional none)
    let sort ← field "sort" SearchSort.decode .required
    let limit ← field "limit" u32 .required
    let namespaceName ← field "namespace" (option string) (.optional none)
    return { query, filter, sort, limit, namespaceName }

/-- The wire form. -/
def toJson (r : SimpleSearchRequest) : Json :=
  .object [("query", .str r.query), ("filter", (r.filter.map EntityKind.toJson).getD .null),
    ("sort", r.sort.toJson), ("limit", .nat r.limit), ("namespace", .ofOption r.namespaceName)]

end SimpleSearchRequest

/-- Which facets a search loads. -/
inductive FacetSelection where
  | disabled
  | all
  | named (names : List String)
  deriving DecidableEq, Repr, Inhabited

/-- The names a selection is limited to, if any. -/
def FacetSelection.names : FacetSelection → Option (List String)
  | .named names => some names
  | _ => none

/-- The parameters of one collection's search. -/
structure SearchParams where
  query : String
  namespaceName : Option String
  sort : SearchSort
  limit : Nat
  offset : Nat
  includeFacets : Bool
  facetNames : Option (List String)
  deriving Repr, Inhabited

/-- **Facet selection**: none when facets are off; the named ones for a nonempty list of
names; otherwise all. -/
def SearchParams.facetSelection (p : SearchParams) : FacetSelection :=
  if !p.includeFacets then .disabled
  else match p.facetNames with
    | some (n :: ns) => .named (n :: ns)
    | _ => .all

end Catalog
