import Catalog.Search.Kind
import Catalog.Search.Pattern

/-!
# SQL text of a name search

The parts of a name search's query text: the match predicate with its bind placeholders,
and the order of results, which always ends with the row's UUID so that pages are stable.

* `View.matchPredicate`: ` WHERE e.name ILIKE $1`, the namespace test when a namespace is
  given, and the view's visibility test.
* `SearchSort.orderClause`: by last update (newest first) or by name.
* `sqlBound`: a 64-bit count as a signed 64-bit bind value, capped at its largest value.
-/

namespace Catalog

/-- The view a search reads. -/
inductive View where
  | datasets
  | jobs
  deriving DecidableEq, Repr, Inhabited

namespace View

/-- The test that keeps only rows the search may show. -/
def visible : View → String
  | .datasets => "e.is_deleted = false"
  | .jobs => "e.symlink_target_uuid IS NULL"

/-- **The match predicate**: the name against the first bind value, the namespace against the
second when one is given, and the visibility test. -/
def matchPredicate (v : View) (hasNamespace : Bool) : String :=
  " WHERE e.name ILIKE $1" ++ (if hasNamespace then " AND e.namespace_name = $2" else "") ++
    " AND " ++ v.visible

end View

/-- **The order clause**, columns taken with `prefix`. -/
def SearchSort.orderClause (s : SearchSort) (pfx : String) : String :=
  match s with
  | .updatedAt => " ORDER BY " ++ pfx ++ "updated_at DESC, " ++ pfx ++ "uuid ASC"
  | .name => " ORDER BY " ++ pfx ++ "name ASC, " ++ pfx ++ "uuid ASC"

/-- The largest signed 64-bit value. -/
def signedWordMax : Nat := Nat.pow 2 63 - 1

/-- **A count as a signed bind value**, capped at the largest signed 64-bit value. -/
def sqlBound (n : Nat) : Nat := min n signedWordMax

end Catalog
