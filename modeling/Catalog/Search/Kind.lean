import Catalog.Decode.Basic
import Catalog.Text.Blank
import Catalog.Text.Ascii

/-!
# Kinds of entities, sort orders and facet kinds

The three enumerations of the catalog, each with its wire name (upper case, words joined by
`_`) and a lenient reader for user input. Each reader trims the text of blanks and ignores
ASCII case only, but each is written its own way: the entity kind folds the text to upper
case and compares it with the wire names, the sort order folds it to lower case and compares
it with the names in lower case, and the facet kind compares each wire name with the text
letter by letter ignoring case.

* `EntityKind.parse`, `SearchSort.parse`, `FacetKind.parse`: the lenient readers.
* `EntityKind.decode` and the others: the strict wire readers, exact names only.
-/

namespace Catalog

/-- What a search result is: a dataset or a job. -/
inductive EntityKind where
  | dataset
  | job
  deriving DecidableEq, Repr, Inhabited

/-- The order of search results. -/
inductive SearchSort where
  | name
  | updatedAt
  deriving DecidableEq, Repr

/-- Results are ordered by last update unless a request says otherwise. -/
instance : Inhabited SearchSort := ⟨.updatedAt⟩

/-- The kind of a dataset facet. -/
inductive FacetKind where
  | dataset
  | input
  | output
  | unknown
  deriving DecidableEq, Repr, Inhabited

namespace EntityKind

/-- The wire name. -/
def name : EntityKind → String
  | .dataset => "DATASET"
  | .job => "JOB"

/-- Every kind, in declaration order. -/
def all : List EntityKind := [.dataset, .job]

/-- **Lenient reading**: the trimmed text in ASCII upper case, read as a wire name. -/
def parse (raw : String) : Option EntityKind :=
  match Text.asciiUpper (Text.trim raw) with
  | "DATASET" => some .dataset
  | "JOB" => some .job
  | _ => none

/-- Strict reading of the wire name. -/
def decode : Decode.Decoder EntityKind := Decode.variant (all.map fun k => (k.name, k))

/-- The wire form. -/
def toJson (k : EntityKind) : Json := .str k.name

end EntityKind

namespace SearchSort

/-- The wire name. -/
def wireName : SearchSort → String
  | .name => "NAME"
  | .updatedAt => "UPDATED_AT"

/-- Every order, in declaration order. -/
def all : List SearchSort := [.name, .updatedAt]

/-- **Lenient reading**: the trimmed text in ASCII lower case, read as a wire name in lower
case. -/
def parse (raw : String) : Option SearchSort :=
  match Text.asciiLower (Text.trim raw) with
  | "name" => some .name
  | "updated_at" => some .updatedAt
  | _ => none

/-- Strict reading of the wire name. -/
def decode : Decode.Decoder SearchSort := Decode.variant (all.map fun s => (s.wireName, s))

/-- The wire form. -/
def toJson (s : SearchSort) : Json := .str s.wireName

end SearchSort

namespace FacetKind

/-- The wire name. -/
def name : FacetKind → String
  | .dataset => "DATASET"
  | .input => "INPUT"
  | .output => "OUTPUT"
  | .unknown => "UNKNOWN"

/-- Every kind, in declaration order. -/
def all : List FacetKind := [.dataset, .input, .output, .unknown]

/-- **Lenient reading**: the kind whose name equals the trimmed text up to ASCII case. -/
def parse (raw : String) : Option FacetKind :=
  all.find? fun k => Text.equalsIgnoringAsciiCase k.name (Text.trim raw)

/-- Strict reading of the wire name. -/
def decode : Decode.Decoder FacetKind := Decode.variant (all.map fun k => (k.name, k))

/-- The wire form. -/
def toJson (k : FacetKind) : Json := .str k.name

end FacetKind

end Catalog
