import Catalog.Uuid
import Catalog.Time.Timestamp

/-!
# Identity of a search result

Datasets and jobs are identified by their namespace and name. The wire form of the pair is
an object with the keys `namespace` and `name`.
-/

namespace Catalog

/-- A dataset's or job's namespace and name. -/
structure EntityId where
  namespaceName : String
  name : String
  deriving DecidableEq, Repr, Inhabited

namespace EntityId

open Decode in
/-- The wire reader; `record` names the record in messages (`DatasetId`, `JobId`). -/
def decode (record : String) : Decoder EntityId :=
  Decode.record record 2 do
    let namespaceName ← field "namespace" string .required
    let name ← field "name" string .required
    return { namespaceName, name }

/-- The wire form. -/
def toJson (i : EntityId) : Json := .object [("namespace", .str i.namespaceName), ("name", .str i.name)]

end EntityId

/-- An optional value's wire form, `null` when absent. -/
def optionJson (f : α → Json) : Option α → Json
  | some a => f a
  | none => .null

end Catalog
