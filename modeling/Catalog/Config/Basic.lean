import Catalog.Decode.Basic
import Catalog.Text.Blank

/-!
# Configuration

The service's configuration: where it listens, its database, the bounds of search pages and
the identity stamped on the facets it writes.

* `Config.decode`: the sections `service` and `storage` are required; `search` and `lineage`
  and their fields default (page size 20 between 1 and 100; the project's producer and
  schema URLs); `log_level` defaults to `info`. A section may also be an array of its
  fields in order; elements past them are an error in a JSON document and left unread in a
  TOML one (`Surplus`).
* `Config.normalize`: trims the log level (blank becomes `info`) and the lineage URLs.
* `Config.validate`: the first violated rule, in a fixed order.
-/

namespace Catalog

/-- Where the service listens. -/
structure ServiceSettings where
  httpBind : String
  adminBind : String
  logLevel : String
  deriving DecidableEq, Repr, Inhabited

/-- The database connection. -/
structure PostgresSettings where
  dsn : String
  poolMaxConns : Nat
  deriving DecidableEq, Repr, Inhabited

/-- The storage section. -/
structure StorageSettings where
  postgres : PostgresSettings
  deriving DecidableEq, Repr, Inhabited

/-- The bounds of a search page. Requests above the maximum are clamped, not refused. -/
structure SearchSettings where
  defaultLimit : Nat
  minLimit : Nat
  maxLimit : Nat
  deriving DecidableEq, Repr

/-- Pages of 20 rows by default, between 1 and 100. -/
instance : Inhabited SearchSettings := ⟨⟨20, 1, 100⟩⟩

/-- The identity embedded in every lineage statistics facet document. -/
structure LineageSettings where
  producer : String
  schemaUrl : String
  deriving DecidableEq, Repr

/-- The project's producer URL. -/
def defaultProducer : String := "https://github.com/strata-lineage/strata"

/-- The schema URL of lineage statistics facets. -/
def defaultSchemaUrl : String :=
  "https://github.com/strata-lineage/strata/spec/facets/lineage-statistics.json"

/-- The project's own identity. -/
instance : Inhabited LineageSettings := ⟨⟨defaultProducer, defaultSchemaUrl⟩⟩

/-- The whole configuration. -/
structure Config where
  service : ServiceSettings
  storage : StorageSettings
  search : SearchSettings
  lineage : LineageSettings
  deriving DecidableEq, Repr, Inhabited

open Decode

/-- The wire reader of the service section; `surplus` says what an array's elements past
the fields are, here and in the readers below. -/
def ServiceSettings.decode (surplus : Surplus) : Decoder ServiceSettings :=
  recordWith surplus "Service" 3 do
    let httpBind ← field "http_bind" string .required
    let adminBind ← field "admin_bind" string .required
    let logLevel ← field "log_level" string (.defaulted "info")
    return ⟨httpBind, adminBind, logLevel⟩

/-- The wire reader of the database connection. -/
def PostgresSettings.decode (surplus : Surplus) : Decoder PostgresSettings :=
  recordWith surplus "Postgres" 2 do
    let dsn ← field "dsn" string .required
    let poolMaxConns ← field "pool_max_conns" u32 .required
    return ⟨dsn, poolMaxConns⟩

/-- The wire reader of the storage section. -/
def StorageSettings.decode (surplus : Surplus) : Decoder StorageSettings :=
  recordWith surplus "Storage" 1 do
    let postgres ← field "postgres" (PostgresSettings.decode surplus) .required
    return ⟨postgres⟩

/-- The wire reader of the search section; every field defaults. -/
def SearchSettings.decode (surplus : Surplus) : Decoder SearchSettings :=
  recordWith surplus "Search" 3 do
    let defaultLimit ← field "default_limit" u32 (.defaulted 20)
    let minLimit ← field "min_limit" u32 (.defaulted 1)
    let maxLimit ← field "max_limit" u32 (.defaulted 100)
    return ⟨defaultLimit, minLimit, maxLimit⟩

/-- The wire reader of the lineage section; every field defaults. -/
def LineageSettings.decode (surplus : Surplus) : Decoder LineageSettings :=
  recordWith surplus "Lineage" 2 do
    let producer ← field "producer" string (.defaulted defaultProducer)
    let schemaUrl ← field "schema_url" string (.defaulted defaultSchemaUrl)
    return ⟨producer, schemaUrl⟩

/-- **The wire reader of a configuration.** -/
def Config.decode (surplus : Surplus) : Decoder Config :=
  recordWith surplus "Config" 4 do
    let service ← field "service" (ServiceSettings.decode surplus) .required
    let storage ← field "storage" (StorageSettings.decode surplus) .required
    let search ← field "search" (SearchSettings.decode surplus) (.defaulted default)
    let lineage ← field "lineage" (LineageSettings.decode surplus) (.defaulted default)
    return ⟨service, storage, search, lineage⟩

/-- A rule a configuration breaks. -/
inductive ConfigProblem where
  /-- An address or connection string that is blank, by its dotted name. -/
  | blank (label : String)
  | noConnections
  | zeroMinimum
  | maximumBelowMinimum
  | defaultOutsideBounds
  /-- A lineage URL that is empty, by its dotted name. -/
  | emptyUrl (label : String)
  deriving DecidableEq, Repr

/-- The message of a broken rule. -/
def ConfigProblem.message : ConfigProblem → String
  | .blank label => label ++ " must be non-empty."
  | .noConnections => "storage.postgres.pool_max_conns must be greater than zero."
  | .zeroMinimum => "search.min_limit must be greater than zero."
  | .maximumBelowMinimum => "search.max_limit must be greater than or equal to search.min_limit."
  | .defaultOutsideBounds => "search.default_limit must be between search.min_limit and search.max_limit."
  | .emptyUrl label => label ++ " must be non-empty."

namespace Config

/-- **Validation**: the first rule broken, in this order: the HTTP address, the admin address
and the connection string are not blank; there is at least one connection; the minimum page
is at least 1; the maximum is not below the minimum; the default lies between them; the
producer and schema URLs are not empty. -/
def validate (c : Config) : Except ConfigProblem Unit :=
  if Text.isBlank c.service.httpBind then .error (.blank "service.http_bind")
  else if Text.isBlank c.service.adminBind then .error (.blank "service.admin_bind")
  else if Text.isBlank c.storage.postgres.dsn then .error (.blank "storage.postgres.dsn")
  else if c.storage.postgres.poolMaxConns = 0 then .error .noConnections
  else if c.search.minLimit = 0 then .error .zeroMinimum
  else if c.search.maxLimit < c.search.minLimit then .error .maximumBelowMinimum
  else if c.search.defaultLimit < c.search.minLimit ∨ c.search.maxLimit < c.search.defaultLimit then
    .error .defaultOutsideBounds
  else if c.lineage.producer.isEmpty then .error (.emptyUrl "lineage.producer")
  else if c.lineage.schemaUrl.isEmpty then .error (.emptyUrl "lineage.schema_url")
  else .ok ()

/-- **Normalization**: the log level trimmed, `info` when blank; the lineage URLs trimmed. -/
def normalize (c : Config) : Config :=
  let level := Text.trim c.service.logLevel
  { c with
    service := { c.service with logLevel := if level.isEmpty then "info" else level }
    lineage := ⟨Text.trim c.lineage.producer, Text.trim c.lineage.schemaUrl⟩ }

/-- The configuration as a document. -/
def toJson (c : Config) : Json :=
  .object [
    ("service", .object [("http_bind", .str c.service.httpBind),
      ("admin_bind", .str c.service.adminBind), ("log_level", .str c.service.logLevel)]),
    ("storage", .object [("postgres", .object [("dsn", .str c.storage.postgres.dsn),
      ("pool_max_conns", .nat c.storage.postgres.poolMaxConns)])]),
    ("search", .object [("default_limit", .nat c.search.defaultLimit),
      ("min_limit", .nat c.search.minLimit), ("max_limit", .nat c.search.maxLimit)]),
    ("lineage", .object [("producer", .str c.lineage.producer),
      ("schema_url", .str c.lineage.schemaUrl)])]

end Config

end Catalog
