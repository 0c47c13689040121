import Catalog.Result.Basic

/-!
# Job results

A job search result: the job's identity, parent, location and versions, and the facets of its
latest run when the search loads facets.

* `JobRow.project`: a stored row and its facets as a result.
* `JobResult.decode`, `JobResult.toJson`: the wire form, `facets` left out when absent.
-/

namespace Catalog

/-- A stored job row. -/
structure JobRow where
  uuid : Uuid
  jobType : String
  createdAt : Timestamp
  updatedAt : Timestamp
  namespaceName : String
  name : String
  simpleName : String
  parentJobName : Option String
  parentJobUuid : Option Uuid
  location : Option String
  description : Option String
  currentVersion : Option Uuid
  latestRun : Option Uuid
  tags : List String
  deriving Repr, Inhabited

/-- A job as a search returns it. -/
structure JobResult where
  id : EntityId
  jobType : String
  name : String
  simpleName : String
  parentJobName : Option String
  parentJobUuid : Option Uuid
  createdAt : Timestamp
  updatedAt : Timestamp
  namespaceName : String
  location : Option String
  description : Option String
  currentVersion : Option Uuid
  latestRun : Option Uuid
  tags : List String
  facets : Option Json.Fields
  deriving Repr, Inhabited

namespace JobRow

/-- The owner of a job's facets: its latest run. -/
def facetOwner (row : JobRow) : Option Uuid := row.latestRun

/-- **A row as a result**, with the facets loaded for it. -/
def project (row : JobRow) (facets : Option Json.Fields) : JobResult where
  id := ⟨row.namespaceName, row.name⟩
  jobType := row.jobType
  name := row.name
  simpleName := row.simpleName
  parentJobName := row.parentJobName
  parentJobUuid := row.parentJobUuid
  createdAt := row.createdAt
  updatedAt := row.updatedAt
  namespaceName := row.namespaceName
  location := row.location
  description := row.description
  currentVersion := row.currentVersion
  latestRun := row.latestRun
  tags := row.tags
  facets := facets

end JobRow

namespace JobResult

open Decode in
/-- The wire reader. -/
def decode : Decoder JobResult :=
  record "JobResult" 15 do
    let id ← field "id" (EntityId.decode "JobId") .required
    let jobType ← field "type" string .required
    let name ← field "name" string .required
    let simpleName ← field "simpleName" string .required
    let parentJobName ← field "parentJobName" (option string) (.optional none)
    let parentJobUuid ← field "parentJobUuid" (option Uuid.decode) (.optional none)
    let createdAt ← field "createdAt" Timestamp.decode .required
    let updatedAt ← field "updatedAt" Timestamp.decode .required
    let namespaceName ← field "namespace" string .required
    let location ← field "location" (option string) (.optional none)
    let description ← field "description" (option string) (.optional none)
    let currentVersion ← field "currentVersion" (option Uuid.decode) (.optional none)
    let latestRun ← field "latestRun" (option Uuid.decode) (.optional none)
    let tags ← field "tags" (list string) .required
    let facets ← field "facets" (option members) (.defaulted none)
    return ⟨id, jobType, name, simpleName, parentJobName, parentJobUuid, createdAt,
      updatedAt, namespaceName, location, description, currentVersion, latestRun, tags, facets⟩

/-- The wire form; `facets` is left out when absent. -/
def toJson (r : JobResult) : Json :=
  .object ([("id", r.id.toJson), ("type", .str r.jobType), ("name", .str r.name),
    ("simpleName", .str r.simpleName), ("parentJobName", .ofOption r.parentJobName),
    ("parentJobUuid", optionJson Uuid.toJson r.parentJobUuid),
    ("createdAt", r.createdAt.toJson), ("updatedAt", r.updatedAt.toJson),
    ("namespace", .str r.namespaceName), ("location", .ofOption r.location),
    ("description", .ofOption r.description),
    ("currentVersion", optionJson Uuid.toJson r.currentVersion),
    ("latestRun", optionJson Uuid.toJson r.latestRun), ("tags", Json.strings r.tags)] ++
    (r.facets.map fun fs => [("facets", Json.obj fs)]).getD [])

end JobResult

end Catalog
