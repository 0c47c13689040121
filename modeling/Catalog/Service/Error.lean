import Catalog.Json.Basic

/-!
# Service errors and their HTTP form

The catalog service fails in three ways: a request it refuses, something not found, and a
storage failure. Each has a one-line text, and an HTTP form with a status, a code and a
message; a storage failure's own text never reaches the client.

* `ServiceError.display`: `Invalid request: …`, `Not found: …`, `Storage error: …`.
* `ApiError.ofService`: 400 `INVALID_REQUEST`, 404 `NOT_FOUND`, 500 `STORAGE_ERROR` with the
  message `Internal storage error.`.
* `StoreError.toService`: a refused argument of the store is a refused request.
-/

namespace Catalog

/-- Why the service could not answer. -/
inductive ServiceError where
  | invalidRequest (message : String)
  | notFound (message : String)
  | storage (message : String)
  deriving DecidableEq, Repr, Inhabited

namespace ServiceError

/-- The one-line text. -/
def display : ServiceError → String
  | .invalidRequest m => "Invalid request: " ++ m
  | .notFound m => "Not found: " ++ m
  | .storage m => "Storage error: " ++ m

/-- The name of the kind of failure. -/
def kindName : ServiceError → String
  | .invalidRequest _ => "InvalidRequest"
  | .notFound _ => "NotFound"
  | .storage _ => "Storage"

/-- The refusal of a request whose query is blank. -/
def blankQuery : ServiceError := .invalidRequest "query must not be blank."

end ServiceError

/-- An error as the HTTP interface returns it. -/
structure ApiError where
  status : Nat
  code : String
  message : String
  /-- The request fields at fault, when the error is about fields. -/
  fields : Option (List String)
  deriving DecidableEq, Repr, Inhabited

namespace ApiError

/-- **The HTTP form of a service error.** -/
def ofService : ServiceError → ApiError
  | .invalidRequest m => ⟨400, "INVALID_REQUEST", m, none⟩
  | .notFound m => ⟨404, "NOT_FOUND", m, none⟩
  | .storage _ => ⟨500, "STORAGE_ERROR", "Internal storage error.", none⟩

/-- A refused request field. -/
def invalidField (field message : String) : ApiError :=
  ⟨400, "INVALID_REQUEST", message, some [field]⟩

/-- The response body. -/
def body (e : ApiError) : Json :=
  .object [("error_code", .str e.code), ("message", .str e.message),
    ("fields", (e.fields.map Json.strings).getD .null)]

end ApiError

/-- Why the store refused an operation before touching storage. -/
inductive StoreError where
  | invalidArgument (message : String)
  deriving DecidableEq, Repr, Inhabited

namespace StoreError

/-- The one-line text. -/
def display : StoreError → String
  | .invalidArgument m => "Invalid argument: " ++ m

/-- The service's view: a refused argument is a refused request. -/
def toService : StoreError → ServiceError
  | .invalidArgument m => .invalidRequest m

end StoreError

end Catalog
