import Catalog.Json.Binary64

/-!
# JSON documents

A JSON value as the catalog reads, stores and writes it. Numbers keep the class the reader
gave them: a natural below `2 ^ 64`, a negative integer not below `-2 ^ 63`, or a double (a
TOML document also gives integers up to 128 bits, and numbers out of range).
Objects are maps: their members are kept sorted by key (code point order, which is the byte
order of UTF-8) and each key occurs once, so a document has one written form.

* `Json.Fields.insert`: adds or replaces a member and keeps the order.
* `Json.field?`: a member's value.
* `Json.readable`: no number out of range anywhere in a value.
-/

namespace Catalog

/-- A JSON number, classified as the reader classifies its text. -/
inductive Number where
  /-- An integer in `[0, 2 ^ 64)`. -/
  | nat (n : Nat)
  /-- An integer in `[-2 ^ 63, 0)`. -/
  | int (i : Int)
  /-- Any other number: a double. -/
  | double (x : Binary64)
  /-- A number no reader can take: an integer outside the 128-bit ranges or a float beyond
  the largest double. JSON text never gives one, since its reader refuses such a float; a
  TOML document keeps its numbers as written and fails only when one is read. -/
  | outOfRange
  deriving DecidableEq, Repr, Inhabited

/-- A JSON value. -/
inductive Json where
  | null
  | bool (b : Bool)
  | num (n : Number)
  | str (s : String)
  | arr (items : List Json)
  /-- Members sorted by key, each key once. -/
  | obj (fields : List (String × Json))
  deriving Repr, Inhabited

namespace Json

/-- The members of an object. -/
abbrev Fields := List (String × Json)

/-- **Adding a member**: replaces the value of an existing key, and otherwise puts the key
before the first greater one, so sorted members stay sorted. -/
def Fields.insert (key : String) (value : Json) : Fields → Fields
  | [] => [(key, value)]
  | (k, v) :: rest =>
    if key = k then (key, value) :: rest
    else if key < k then (key, value) :: (k, v) :: rest
    else (k, v) :: Fields.insert key value rest

/-- An object from members in any order; a later member with the same key wins. -/
def object (members : List (String × Json)) : Json :=
  .obj (members.foldl (fun acc (k, v) => Fields.insert k v acc) [])

/-- A natural number as a JSON number. -/
def nat (n : Nat) : Json := .num (.nat n)

/-- A text or null. -/
def ofOption (s : Option String) : Json := match s with
  | some s => .str s
  | none => .null

/-- A list of texts. -/
def strings (xs : List String) : Json := .arr (xs.map .str)

/-- The value of a member of an object; `none` for a missing key or a value that is no
object. -/
def field? (j : Json) (key : String) : Option Json :=
  match j with
  | .obj fields => fields.lookup key
  | _ => none

/-- Whether the value is an object. -/
def isObject : Json → Bool
  | .obj _ => true
  | _ => false

mutual
/-- **Whether a value can be read in full**: no number in it is out of range. -/
def readable : Json → Bool
  | .num .outOfRange => false
  | .arr items => itemsReadable items
  | .obj fields => fieldsReadable fields
  | _ => true

/-- Whether every element can be read. -/
def itemsReadable : List Json → Bool
  | [] => true
  | j :: rest => readable j && itemsReadable rest

/-- Whether every member's value can be read. -/
def fieldsReadable : List (String × Json) → Bool
  | [] => true
  | (_, j) :: rest => readable j && fieldsReadable rest
end

end Json

end Catalog
