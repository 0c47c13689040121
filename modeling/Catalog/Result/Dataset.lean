import Catalog.Result.Basic

/-!
# Dataset results

A dataset search result: the dataset's identity and descriptive columns, its schema fields
when they can be read, and its current facets when the search loads facets.

* `SchemaField.parseList`: stored schema fields, read leniently: any failure drops them all.
* `DatasetRow.project`: a stored row and its facets as a result.
* `DatasetResult.decode`, `DatasetResult.toJson`: the wire form, `facets` left out when
  absent.
-/

namespace Catalog

/-- A column of a dataset's schema. -/
structure SchemaField where
  name : String
  fieldType : Option String
  tags : List String
  description : Option String
  deriving Repr, Inhabited

namespace SchemaField

open Decode in
/-- The wire reader: `name` is required, the rest default to absent or empty. -/
def decode : Decoder SchemaField :=
  record "SchemaField" 4 do
    let name ← field "name" string .required
    let fieldType ← field "type" (option string) (.defaulted none)
    let tags ← field "tags" (list string) (.defaulted [])
    let description ← field "description" (option string) (.defaulted none)
    return { name, fieldType, tags, description }

/-- The wire form. -/
def toJson (f : SchemaField) : Json :=
  .object [("name", .str f.name), ("type", .ofOption f.fieldType), ("tags", Json.strings f.tags),
    ("description", .ofOption f.description)]

/-- **Stored schema fields**: absent stays absent, and a value that is not a list of readable
fields is dropped. -/
def parseList (raw : Option Json) : Option (List SchemaField) :=
  raw.bind fun j => match Decode.list decode j with
    | .ok fs => some fs
    | .error _ => none

end SchemaField

/-- A stored dataset row. -/
structure DatasetRow where
  uuid : Uuid
  datasetType : String
  createdAt : Timestamp
  updatedAt : Timestamp
  namespaceName : String
  name : String
  physicalName : String
  sourceName : String
  description : Option String
  currentVersion : Option Uuid
  lastModifiedAt : Option Timestamp
  isDeleted : Bool
  lifecycleState : Option String
  /-- The stored schema fields; a present `null` is still present. -/
  fields : Option Json
  tags : List String
  deriving Repr, Inhabited

/-- A dataset as a search returns it. -/
structure DatasetResult where
  id : EntityId
  datasetType : String
  name : String
  physicalName : String
  createdAt : Timestamp
  updatedAt : Timestamp
  namespaceName : String
  sourceName : String
  tags : List String
  lastModifiedAt : Option Timestamp
  lastLifecycleState : Option String
  description : Option String
  currentVersion : Option Uuid
  isDeleted : Bool
  fields : Option (List SchemaField)
  facets : Option Json.Fields
  deriving Repr, Inhabited

namespace DatasetRow

/-- The owner of a dataset's facets: its current version. -/
def facetOwner (row : DatasetRow) : Option Uuid := row.currentVersion

/-- **A row as a result**, with the facets loaded for it. -/
def project (row : DatasetRow) (facets : Option Json.Fields) : DatasetResult where
  id := ⟨row.namespaceName, row.name⟩
  datasetType := row.datasetType
  name := row.name
  physicalName := row.physicalName
  createdAt := row.createdAt
  updatedAt := row.updatedAt
  namespaceName := row.namespaceName
  sourceName := row.sourceName
  tags := row.tags
  lastModifiedAt := row.lastModifiedAt
  lastLifecycleState := row.lifecycleState
  description := row.description
  currentVersion := row.currentVersion
  isDeleted := row.isDeleted
  fields := SchemaField.parseList row.fields
  facets := facets

end DatasetRow

namespace DatasetResult

open Decode in
/-- The wire reader. -/
def decode : Decoder DatasetResult :=
  record "DatasetResult" 16 do
    let id ← field "id" (EntityId.decode "DatasetId") .required
    let datasetType ← field "type" string .required
    let name ← field "name" string .required
    let physicalName ← field "physicalName" string .required
    let createdAt ← field "createdAt" Timestamp.decode .required
    let updatedAt ← field "updatedAt" Timestamp.decode .required
    let namespaceName ← field "namespace" string .required
    let sourceName ← field "sourceName" string .required
    let tags ← field "tags" (list string) .required
    let lastModifiedAt ← field "lastModifiedAt" Timestamp.decodeOption .required
    let lastLifecycleState ← field "lastLifecycleState" (option string) (.optional none)
    let description ← field "description" (option string) (.optional none)
    let currentVersion ← field "currentVersion" (option Uuid.decode) (.optional none)
    let isDeleted ← field "isDeleted" bool .required
    let fields ← field "fields" (option (list SchemaField.decode)) (.optional none)
    let facets ← field "facets" (option members) (.defaulted none)
    return ⟨id, datasetType, name, physicalName, createdAt, updatedAt, namespaceName,
      sourceName, tags, lastModifiedAt, lastLifecycleState, description, currentVersion,
      isDeleted, fields, facets⟩

/-- The wire form; `facets` is left out when absent. -/
def toJson (r : DatasetResult) : Json :=
  .object ([("id", r.id.toJson), ("type", .str r.datasetType), ("name", .str r.name),
    ("physicalName", .str r.physicalName), ("createdAt", r.createdAt.toJson),
    ("updatedAt", r.updatedAt.toJson), ("namespace", .str r.namespaceName),
    ("sourceName", .str r.sourceName), ("tags", Json.strings r.tags),
    ("lastModifiedAt", optionJson Timestamp.toJson r.lastModifiedAt),
    ("lastLifecycleState", .ofOption r.lastLifecycleState),
    ("description", .ofOption r.description),
    ("currentVersion", optionJson Uuid.toJson r.currentVersion),
    ("isDeleted", .bool r.isDeleted),
    ("fields", optionJson (fun fs => .arr (fs.map SchemaField.toJson)) r.fields)] ++
    (r.facets.map fun fs => [("facets", Json.obj fs)]).getD [])

end DatasetResult

end Catalog
