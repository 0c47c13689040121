import Catalog.Uuid
import Catalog.Time.Timestamp

/-!
# The current facets of an owner

Facet rows are only ever appended, so an owner (a dataset version or a job run) may hold
several documents under one name. The current one is the latest.

* `latestByName`: for dataset facet rows, per owner and name, the row with the latest
  creation instant wins; of rows with equal instants (whatever their offsets) the later one
  in the list wins. Owners come out ordered by UUID, names sorted.
* `foldTimeline`: a run's timeline of `(name, document)` in time order, the last document
  of each name winning.
-/

namespace Catalog

/-- A stored dataset facet. -/
structure FacetRow where
  /-- The dataset version that owns the facet. -/
  owner : Uuid
  kind : String
  name : String
  document : Json
  createdAt : Timestamp
  deriving Repr, Inhabited

/-- The documents of one owner, by name. -/
abbrev FacetMap := Json.Fields

/-- The winner so far for each owner and name, with its creation instant. -/
abbrev Winners := List ((Uuid × String) × (Int × Json))

/-- Records a row: it replaces the winner of its owner and name unless that one is strictly
later. -/
def Winners.record (w : Winners) (row : FacetRow) : Winners :=
  let key := (row.owner, row.name)
  match w.lookup key with
  | some (instant, _) =>
    if instant ≤ row.createdAt.instant then
      w.map fun (k, v) => if k = key then (k, (row.createdAt.instant, row.document)) else (k, v)
    else w
  | none => w ++ [(key, (row.createdAt.instant, row.document))]

/-- Inserts an owner's entry keeping owners ordered by UUID. -/
def insertOwner (owner : Uuid) (name : String) (doc : Json) :
    List (Uuid × FacetMap) → List (Uuid × FacetMap)
  | [] => [(owner, [(name, doc)])]
  | (o, m) :: rest =>
    if owner = o then (o, Json.Fields.insert name doc m) :: rest
    else if owner.value < o.value then (owner, [(name, doc)]) :: (o, m) :: rest
    else (o, m) :: insertOwner owner name doc rest

/-- **The latest facet documents**, per owner and name. -/
def latestByName (rows : List FacetRow) : List (Uuid × FacetMap) :=
  let winners := rows.foldl Winners.record []
  winners.foldl (fun acc ((owner, name), (_, doc)) => insertOwner owner name doc acc) []

/-- **A timeline's current facets**: the last document of each name. -/
def foldTimeline (timeline : List (String × Json)) : FacetMap :=
  timeline.foldl (fun acc (name, doc) => Json.Fields.insert name doc acc) []

end Catalog
