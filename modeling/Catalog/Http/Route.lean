import Catalog.Http.Query
import Catalog.Http.Target
import Catalog.Uuid

/-!
# Routing requests

The catalog serves two routers. The service router answers `GET /health`,
`GET /api/v1/search` (simple search) and `GET /api/v1/search/full` (full search); a `GET`
route also answers `HEAD`, with the body left out. The admin router answers
`POST /v1/admin/datasets/{dataset_id}/lineage_statistics`, optionally with `version_id` in
the query string.

`respond` answers a request:

* a path no route matches is `404`, a method its route does not take is `405`, both with
  no body; paths are matched as sent, before any decoding;
* a search request whose query string does not validate is `400` with the error body of
  `Catalog.Http.Query`;
* a dataset id segment that does not percent-decode to UTF-8, and a query string that names
  `version_id` twice, are refused as plain text before anything else is looked at; then the
  dataset id and the version id, each trimmed, must be UUIDs;
* a request that passes validation reaches storage, which is not reachable here, and is
  answered `500` with the storage error body.
-/

namespace Catalog

namespace Http

/-- The body of a response. -/
inductive Body where
  | empty
  | json (document : Json)
  | text (message : String)
  deriving Repr, Inhabited

/-- A response: status code and body. -/
structure Response where
  status : Nat
  body : Body
  deriving Repr, Inhabited

/-- Which router serves a request. -/
inductive Router where
  /-- Health and search. -/
  | service
  /-- Maintenance of derived data. -/
  | admin
  deriving DecidableEq, Repr

/-- What a path asks for. -/
inductive Endpoint where
  | health
  | simpleSearch
  | fullSearch
  /-- Lineage statistics of a dataset, with the dataset id segment as sent. -/
  | lineageStatistics (segment : String)
  deriving DecidableEq, Repr

/-- The segments of a path: the text between slashes. -/
def segments (path : String) : List String :=
  (splitList '/' [] path.toList).map String.ofList

/-- **The endpoint a router matches a path to.** -/
def Router.endpoint : Router → String → Option Endpoint
  | .service, path => match segments path with
    | ["", "health"] => some .health
    | ["", "api", "v1", "search"] => some .simpleSearch
    | ["", "api", "v1", "search", "full"] => some .fullSearch
    | _ => none
  | .admin, path => match segments path with
    | ["", "v1", "admin", "datasets", id, "lineage_statistics"] => some (.lineageStatistics id)
    | _ => none

/-- Whether an endpoint takes a method. -/
def Endpoint.allows : Endpoint → String → Bool
  | .lineageStatistics _, m => m = "POST"
  | _, m => m = "GET" || m = "HEAD"

/-- A refusal as a response. -/
def refusal (e : ApiError) : Response := ⟨e.status, .json e.body⟩

/-- The answer to a valid request: storage cannot be reached. -/
def storageUnreachable : Response :=
  refusal (ApiError.ofService (.storage "no connection to the database"))

/-- A UUID parameter, trimmed. -/
def uuidParameter (raw field : String) : Except ApiError Uuid :=
  match Uuid.parse (Text.trim raw) with
  | .ok u => .ok u
  | .error _ => .error (.invalidField field (field ++ " must be a valid UUID."))

/-- The full search endpoint. -/
def fullSearchResponse (cfg : SearchSettings) (query : String) : Response :=
  match (SearchQuery.ofPairs (Form.parse query)).toFull cfg with
  | .error e => refusal e
  | .ok _ => storageUnreachable

/-- The simple search endpoint. -/
def simpleSearchResponse (cfg : SearchSettings) (query : String) : Response :=
  match (SearchQuery.ofPairs (Form.parse query)).toSimple cfg with
  | .error e => refusal e
  | .ok _ => storageUnreachable

/-- The lineage statistics endpoint. -/
def lineageStatisticsResponse (segment query : String) : Response :=
  match Utf8.decode? (percentDecode (Utf8.bytes segment)) with
  | none => ⟨400, .text "Invalid URL: Invalid UTF-8 in `dataset_id`"⟩
  | some datasetId =>
    let versions := (Form.parse query).filter fun (key, _) => key = "version_id"
    match versions with
    | _ :: _ :: _ =>
      ⟨400, .text "Failed to deserialize query string: duplicate field `version_id`"⟩
    | _ =>
      let checked : Except ApiError Unit := do
        let _ ← uuidParameter datasetId "dataset_id"
        for (_, v) in versions do
          let _ ← uuidParameter v "version_id"
      match checked with
      | .error e => refusal e
      | .ok () => storageUnreachable

/-- The response of an endpoint to a request it takes. -/
def Endpoint.handle (cfg : SearchSettings) (query : String) : Endpoint → Response
  | .health => ⟨200, .empty⟩
  | .simpleSearch => simpleSearchResponse cfg query
  | .fullSearch => fullSearchResponse cfg query
  | .lineageStatistics segment => lineageStatisticsResponse segment query

/-- **The response of a router to a request.** -/
def respond (router : Router) (cfg : SearchSettings) (method : String) (t : Target) :
    Response :=
  match router.endpoint t.path with
  | none => ⟨404, .empty⟩
  | some e =>
    if !e.allows method then ⟨405, .empty⟩
    else
      let r := e.handle cfg t.query
      if method = "HEAD" then { r with body := .empty } else r

end Http

end Catalog
