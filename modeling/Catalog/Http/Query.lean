import Catalog.Search.Request
import Catalog.Service.Error
import Catalog.Config.Basic
import Catalog.Http.Form

/-!
# Search requests from query strings

The search endpoints take their request from the query string. `SearchQuery.ofPairs`
collects the parameters (each scalar key keeps its last value; `facetNames` may repeat and
may hold comma-separated names), and `toFull` / `toSimple` validate them into a request.

Validation takes the parameters in a fixed order and the first one at fault is reported,
with its name as the error's field:

1. `q` must be present and not blank; it is kept as given, untrimmed.
2. `filter`, if present, is a collection kind (`dataset`, `job`, trimmed, any ASCII case).
3. `sort`, if present, is `name` or `updated_at` (likewise); otherwise by update time.
4. `limit`, if present, is a trimmed signed 64-bit decimal at least the configured minimum;
   above `2 ^ 32 - 1` it becomes `2 ^ 32 - 1`. It is not capped at the maximum here.
5. For a full request only: `offset` is a trimmed unsigned 32-bit decimal, a blank or absent
   `namespace` is none, and `facets` is `true` or `false` (trimmed, any ASCII case).
-/

namespace Catalog

namespace Http

/-- The search parameters of a query string before validation. -/
structure SearchQuery where
  q : Option String := none
  filter : Option String := none
  sort : Option String := none
  limit : Option String := none
  offset : Option String := none
  namespaceName : Option String := none
  facets : Option String := none
  /-- Every facet name given, in order. -/
  facetNames : List String := []
  deriving Repr, Inhabited

/-- The names in one `facetNames` value: split at commas, trimmed, blanks dropped. -/
def facetNameList (value : String) : List String :=
  ((splitList ',' [] value.toList).map fun cs => Text.trim (String.ofList cs)).filter
    fun name => !name.isEmpty

namespace SearchQuery

/-- Takes one parameter into account; unknown keys are ignored. -/
def add (s : SearchQuery) : String × String → SearchQuery
  | ("q", v) => { s with q := some v }
  | ("filter", v) => { s with filter := some v }
  | ("sort", v) => { s with sort := some v }
  | ("limit", v) => { s with limit := some v }
  | ("offset", v) => { s with offset := some v }
  | ("namespace", v) => { s with namespaceName := some v }
  | ("facets", v) => { s with facets := some v }
  | ("facetNames", v) => { s with facetNames := s.facetNames ++ facetNameList v }
  | _ => s

/-- **The parameters of a query string's pairs.** -/
def ofPairs (pairs : List (String × String)) : SearchQuery := pairs.foldl add {}

end SearchQuery

/-- The digits of a decimal numeral, at least one, ASCII only. -/
def decimal? (cs : List Char) : Option Nat :=
  if cs.isEmpty then none
  else cs.foldlM (fun acc c => if c.isDigit then some (acc * 10 + (c.toNat - 48)) else none) 0

/-- A signed 64-bit decimal: an optional `+` or `-`, then digits. -/
def signed64? (s : String) : Option Int :=
  match s.toList with
  | '-' :: rest =>
    (decimal? rest).bind fun n => if n ≤ Nat.pow 2 63 then some (-(n : Int)) else none
  | '+' :: rest => (decimal? rest).bind fun n => if n < Nat.pow 2 63 then some n else none
  | cs => (decimal? cs).bind fun n => if n < Nat.pow 2 63 then some n else none

/-- An unsigned 32-bit decimal: an optional `+`, then digits. -/
def unsigned32? (s : String) : Option Nat :=
  match s.toList with
  | '+' :: rest => (decimal? rest).bind fun n => if n < Nat.pow 2 32 then some n else none
  | cs => (decimal? cs).bind fun n => if n < Nat.pow 2 32 then some n else none

/-- The largest unsigned 32-bit value. -/
def halfWordMax : Nat := Nat.pow 2 32 - 1

/-- The query text: present and not blank. -/
def requiredQuery : Option String → Except ApiError String
  | some q => if Text.isBlank q then .error (.invalidField "q" "q is required and must not be blank.")
    else .ok q
  | none => .error (.invalidField "q" "q is required and must not be blank.")

/-- The collection filter. -/
def parseFilter : Option String → Except ApiError (Option EntityKind)
  | none => .ok none
  | some raw => match EntityKind.parse raw with
    | some k => .ok (some k)
    | none => .error (.invalidField "filter" "filter must be one of dataset or job.")

/-- The sort order. -/
def parseSort : Option String → Except ApiError SearchSort
  | none => .ok default
  | some raw => match SearchSort.parse raw with
    | some s => .ok s
    | none => .error (.invalidField "sort" "sort must be one of name or updated_at.")

/-- The page size: the default when absent, otherwise at least the minimum, and at most
`2 ^ 32 - 1`. -/
def parseLimit (cfg : SearchSettings) : Option String → Except ApiError Nat
  | none => .ok cfg.defaultLimit
  | some raw =>
    let refusal := ApiError.invalidField "limit"
      ("limit must be an integer of at least " ++ toString cfg.minLimit ++ ".")
    match signed64? (Text.trim raw) with
    | some v => if v < cfg.minLimit then .error refusal else .ok (min v.toNat halfWordMax)
    | none => .error refusal

/-- The page offset. -/
def parseOffset : Option String → Except ApiError Nat
  | none => .ok 0
  | some raw => match unsigned32? (Text.trim raw) with
    | some n => .ok n
    | none => .error (.invalidField "offset" "offset must be a non-negative integer.")

/-- The namespace: trimmed, none when blank. -/
def parseNamespace (raw : Option String) : Option String :=
  (raw.map Text.trim).filter fun ns => !ns.isEmpty

/-- Whether facets are wanted; yes when absent. -/
def parseFacets : Option String → Except ApiError Bool
  | none => .ok true
  | some raw => match Text.asciiLower (Text.trim raw) with
    | "true" => .ok true
    | "false" => .ok false
    | _ => .error (.invalidField "facets" "facets must be true or false.")

namespace SearchQuery

/-- **A full search request**, or the first parameter at fault. -/
def toFull (s : SearchQuery) (cfg : SearchSettings) : Except ApiError FullSearchRequest := do
  let query ← requiredQuery s.q
  let filter ← parseFilter s.filter
  let sort ← parseSort s.sort
  let limit ← parseLimit cfg s.limit
  let offset ← parseOffset s.offset
  let facets ← parseFacets s.facets
  return { query, filter, sort, limit, offset, namespaceName := parseNamespace s.namespaceName,
           facets, facetNames := if s.facetNames.isEmpty then none else some s.facetNames }

/-- **A simple search request**, or the first parameter at fault; offset and facet
parameters are ignored. -/
def toSimple (s : SearchQuery) (cfg : SearchSettings) : Except ApiError SimpleSearchRequest := do
  let query ← requiredQuery s.q
  let filter ← parseFilter s.filter
  let sort ← parseSort s.sort
  let limit ← parseLimit cfg s.limit
  return { query, filter, sort, limit, namespaceName := parseNamespace s.namespaceName }

end SearchQuery

example : signed64? "-9223372036854775808" = some (-9223372036854775808) := by decide +kernel
example : signed64? "9223372036854775808" = none := by decide +kernel
example : unsigned32? "-0" = none ∧ unsigned32? "+7" = some 7 := by decide +kernel
example : facetNameList " a, ,b,," = ["a", "b"] := by decide +kernel

end Http

end Catalog
