import Catalog.Json.Basic

/-!
# TOML documents

A TOML document is a tree of tables. Besides its members, each table remembers how it came
to exist, because that decides what a later line may still add to it:

* a table created on the way to a `[header]`'s table (`implicit`) may be defined by a header
  of its own once, or extended by dotted keys, which make it `dotted`;
* a table created by a dotted key (`dotted`) takes more dotted keys, and headers of tables
  below it, but no header of its own;
* a table defined by a header (`header`) takes plain keys while it is the current table, and
  headers of tables below it;
* an inline table (`inline`) is closed once written.

`descend` walks a key path, entering the tables a `Descent` allows and creating missing ones;
through an array of tables it goes into the last element. On it are built the three updates
of a document: `defineTable` for `[a.b]`, `appendTable` for `[[a.b]]` and `insertValue` for a
key-value pair. Each refuses (`none`) what would redefine a key or a table.
-/

namespace Catalog

namespace Toml

/-- How a table came to exist. -/
inductive Origin where
  | implicit
  | dotted
  | header
  | inline
  deriving DecidableEq, Repr, Inhabited

/-- A TOML value or table. -/
inductive Node where
  | string (s : String)
  /-- An integer, of any size as written. -/
  | integer (i : Int)
  /-- A float: the double nearest to it, or `none` beyond the largest double. -/
  | float (x : Option Binary64)
  | boolean (b : Bool)
  /-- An offset or local date-time, date or time, kept as written. -/
  | datetime (text : String)
  | array (items : List Node)
  | table (origin : Origin) (members : List (String × Node))
  /-- An array of tables; headers reach its last element. -/
  | tableArray (tables : List (List (String × Node)))
  deriving Repr, Inhabited

/-- The members of a table, in the order they were written. -/
abbrev Members := List (String × Node)

/-- Replaces the member with a key, or adds it at the end. -/
def setMember (key : String) (node : Node) : Members → Members
  | [] => [(key, node)]
  | (k, n) :: rest => if k = key then (key, node) :: rest else (k, n) :: setMember key node rest

/-- How a key path is walked. -/
inductive Descent where
  /-- The path of a header: through every table that is not inline, creating implicit ones. -/
  | header
  /-- The leading keys of a dotted key: through implicit and dotted tables, creating dotted
  ones. -/
  | dotted
  deriving DecidableEq, Repr

/-- Whether a walk may enter a table of an origin. -/
def Descent.enters : Descent → Origin → Bool
  | .header, o => o != .inline
  | .dotted, o => o == .implicit || o == .dotted

/-- The origin a table has once a walk has entered it: a dotted key that goes through an
implicit table extends it, which makes it dotted, so no header may define it afterwards. -/
def Descent.entered : Descent → Origin → Origin
  | .dotted, .implicit => .dotted
  | _, o => o

/-- The origin of the tables a walk creates. -/
def Descent.fresh : Descent → Origin
  | .header => .implicit
  | .dotted => .dotted

/-- **Walks a key path** from a table of the given origin and applies `f` to the origin and
members of the table reached, rebuilding the tables on the way. -/
def descend (mode : Descent) (f : Origin → Members → Option Members) :
    List String → Origin → Members → Option Members
  | [], origin, ms => f origin ms
  | k :: rest, _, ms =>
    match ms.lookup k with
    | none => do
      let child ← descend mode f rest mode.fresh []
      some (ms ++ [(k, .table mode.fresh child)])
    | some (.table o child) =>
      if mode.enters o then do
        let o := mode.entered o
        let child' ← descend mode f rest o child
        some (setMember k (.table o child') ms)
      else none
    | some (.tableArray ts) =>
      match ts.getLast? with
      | some last => do
        let last' ← descend mode f rest .header last
        some (setMember k (.tableArray (ts.dropLast ++ [last'])) ms)
      | none => none
    | some _ => none

/-- The header `[… k]` in its parent table: a new table, or one so far only implicit. -/
def defineTable (k : String) (_ : Origin) (ms : Members) : Option Members :=
  match ms.lookup k with
  | none => some (ms ++ [(k, .table .header [])])
  | some (.table .implicit child) => some (setMember k (.table .header child) ms)
  | some _ => none

/-- The header `[[… k]]` in its parent table: a new element of an array of tables. -/
def appendTable (k : String) (_ : Origin) (ms : Members) : Option Members :=
  match ms.lookup k with
  | none => some (ms ++ [(k, .tableArray [[]])])
  | some (.tableArray ts) => some (setMember k (.tableArray (ts ++ [[]])) ms)
  | some _ => none

/-- **A key-value pair** `prefix.key = v` in a table: the leading keys are walked as a dotted
key, the table reached must be dotted exactly when there are leading keys, and the key must be
new there. -/
def insertValue (leading : List String) (key : String) (v : Node) :
    Origin → Members → Option Members :=
  descend .dotted (fun origin ms =>
    if (origin == .dotted) != !leading.isEmpty then none
    else if (ms.lookup key).isSome then none
    else some (ms ++ [(key, v)])) leading

/-- A key with its leading keys. -/
structure DottedKey where
  leading : List String
  last : String
  deriving DecidableEq, Repr

/-- The key of a path, `none` for the empty path. -/
def DottedKey.ofPath (path : List String) : Option DottedKey :=
  path.getLast?.map fun last => ⟨path.dropLast, last⟩

/-- An inline table from its key-value pairs, in order; `none` when one redefines another. -/
def inlineTable (pairs : List (DottedKey × Node)) : Option Node :=
  (pairs.foldlM (fun ms (kv : DottedKey × Node) =>
    insertValue kv.1.leading kv.1.last kv.2 .inline ms) []).map
    (.table .inline)

/-- A document being read: its root members and the path of the current table. -/
structure Document where
  root : Members := []
  current : List String := []
  deriving Repr, Inhabited

namespace Document

/-- A key-value pair in the current table. -/
def keyValue (d : Document) (k : DottedKey) (v : Node) : Option Document :=
  (descend .header (insertValue k.leading k.last v) d.current .header d.root).map
    fun root => { d with root }

/-- A `[table]` header; its table becomes the current one. -/
def table (d : Document) (k : DottedKey) : Option Document :=
  (descend .header (defineTable k.last) k.leading .header d.root).map
    fun root => ⟨root, k.leading ++ [k.last]⟩

/-- An `[[array]]` header; its new element becomes the current table. -/
def arrayTable (d : Document) (k : DottedKey) : Option Document :=
  (descend .header (appendTable k.last) k.leading .header d.root).map
    fun root => ⟨root, k.leading ++ [k.last]⟩

end Document

mutual
/-- **The document model a decoder reads**: tables are objects, arrays of tables arrays of
objects, and a date or time a one-member object, so that a field wanting text or a number
refuses it. An integer is read within the unsigned and the signed 128-bit ranges; beyond
them, and for a float beyond the largest double, the number is out of range. -/
def Node.toJson : Node → Json
  | .string s => .str s
  | .integer i =>
    if 0 ≤ i ∧ i < Int.pow 2 128 then .num (.nat i.toNat)
    else if -Int.pow 2 127 ≤ i ∧ i < 0 then .num (.int i)
    else .num .outOfRange
  | .float (some x) => .num (.double x)
  | .float none => .num .outOfRange
  | .boolean b => .bool b
  | .datetime t => .object [("datetime", .str t)]
  | .array items => .arr (itemsToJson items)
  | .table _ ms => .object (membersToJson ms)
  | .tableArray ts => .arr (tablesToJson ts)

/-- The elements of an array. -/
def itemsToJson : List Node → List Json
  | [] => []
  | n :: rest => n.toJson :: itemsToJson rest

/-- The members of a table. -/
def membersToJson : Members → List (String × Json)
  | [] => []
  | (k, n) :: rest => (k, n.toJson) :: membersToJson rest

/-- The elements of an array of tables. -/
def tablesToJson : List Members → List Json
  | [] => []
  | ms :: rest => .object (membersToJson ms) :: tablesToJson rest
end

end Toml

end Catalog
