import Catalog.Decode.Error

/-!
# Decoders

Reading typed records out of JSON values, with the rules of the catalog's wire format.

* Scalars: a text, a boolean, a 32- or 64-bit unsigned integer. An integer out of range is
  an invalid value; a double or any other kind is an invalid type.
* `Decode.option`: `null` is absent, anything else is read by the inner decoder.
* `Decode.list`: an array, element by element; the first failing element decides.
* `Decode.variant`: an enumeration given by name, either as a text or as an object with the
  name as its one key and `null` as its value.
* `Decode.record`: a record from an object or from an array. From an object the members are
  read in key order; unknown keys are skipped, but their values are still read through, so
  a number out of range in one fails. The failing member with the least key decides, and
  only then the first absent required field in declaration order. From an array the fields
  are taken in declaration order, one element each; a missing element is an error unless the
  field has a default. Surplus elements are an error, or with `Surplus.ignored` (the way a
  TOML document is read) left unread.
-/

namespace Catalog

namespace Decode

/-- A decoder: the value read from a JSON value, or why there is none. -/
abbrev Decoder (α : Type) := Json → Except Error α

/-- Any JSON value, as it is. -/
def json : Decoder Json := .ok

/-- A text. -/
def string : Decoder String
  | .str s => .ok s
  | j => .error (.invalidType (.ofJson j) "a string")

/-- A boolean. -/
def bool : Decoder Bool
  | .bool b => .ok b
  | j => .error (.invalidType (.ofJson j) "a boolean")

/-- A nonnegative integer below `bound`, named `name` in messages. -/
def unsignedBelow (bound : Nat) (name : String) : Decoder Nat
  | .num (.nat n) => if n < bound then .ok n else .error (.invalidValue (.unsigned n) name)
  | .num (.int i) => .error (.invalidValue (.signed i) name)
  | j => .error (.invalidType (.ofJson j) name)

/-- A 32-bit unsigned integer. -/
def u32 : Decoder Nat := unsignedBelow (Nat.pow 2 32) "u32"

/-- A 64-bit unsigned integer. -/
def u64 : Decoder Nat := unsignedBelow (Nat.pow 2 64) "u64"

/-- An object's members. -/
def members : Decoder Json.Fields
  | .obj fields => .ok fields
  | j => .error (.invalidType (.ofJson j) "a map")

/-- `null` as absent, any other value through `d`. -/
def option (d : Decoder α) : Decoder (Option α)
  | .null => .ok none
  | j => (d j).map some

/-- Every element of a list through `d`, the first failure deciding. -/
def each (d : Decoder α) : List Json → Except Error (List α)
  | [] => .ok []
  | x :: rest => do
    let a ← d x
    let as ← each d rest
    return a :: as

/-- An array, element by element. -/
def list (d : Decoder α) : Decoder (List α)
  | .arr items => each d items
  | j => .error (.invalidType (.ofJson j) "a sequence")

/-- A variant by name. -/
def lookupVariant (variants : List (String × α)) (name : String) : Except Error α :=
  match variants.lookup name with
  | some a => .ok a
  | none => .error (.unknownVariant name (variants.map Prod.fst))

/-- **An enumeration of variants without data**: its name as a text, or an object whose one key
is the name and whose value is `null`. -/
def variant (variants : List (String × α)) : Decoder α
  | .str name => lookupVariant variants name
  | .obj [(name, value)] => do
    let a ← lookupVariant variants name
    match value with
    | .null => .ok a
    | j => .error (.invalidType (.ofJson j) "unit")
  | .obj _ => .error (.invalidValue .map "map with a single key")
  | j => .error (.invalidType (.ofJson j) "string or map")

/-! ## Records -/

/-- What a record field is when its key or element is absent. -/
inductive Absent (α : Type) where
  /-- An error. -/
  | required
  /-- The given value when read from an object; an error when read from an array. -/
  | optional (value : α)
  /-- The given value in both cases. -/
  | defaulted (value : α)

/-- Where a record's fields come from. -/
inductive Layout where
  /-- The members of an object. -/
  | members (fields : Json.Fields)
  /-- The elements of an array, in field order. -/
  | elements (items : List Json)

/-- The state of reading a record: where fields come from, the next element of an array, the
failures met so far with the key of each, the absent required fields in order, and the keys
of the fields asked for. -/
structure Reading where
  layout : Layout
  /-- The expected-text of a short array, `struct Name with N elements`. -/
  shape : String
  next : Nat := 0
  failures : List (String × Error) := []
  absent : List Error := []
  known : List String := []

/-- Reads a record's fields in declaration order. -/
abbrev RecordReader := StateM Reading

/-- **One field** of a record, named `name`, read by `d`; `absent` says what it is when
missing. A failure is noted and the default value returned, so the caller can go on to the
next field; `record` picks the error that decides. -/
def field [Inhabited α] (name : String) (d : Decoder α) (absent : Absent α) : RecordReader α :=
  fun r =>
  match r.layout with
  | .members fields =>
    let r := { r with known := name :: r.known }
    match fields.lookup name with
    | some j =>
      match d j with
      | .ok a => (a, r)
      | .error e => (default, { r with failures := r.failures ++ [(name, e)] })
    | none =>
      match absent with
      | .required => (default, { r with absent := r.absent ++ [.missingField name] })
      | .optional a => (a, r)
      | .defaulted a => (a, r)
  | .elements items =>
    if !r.failures.isEmpty then (default, r) else
    match items[r.next]? with
    | some j =>
      match d j with
      | .ok a => (a, { r with next := r.next + 1 })
      | .error e => (default, { r with failures := [(name, e)] })
    | none =>
      match absent with
      | .defaulted a => (a, r)
      | _ => (default, { r with failures := [(name, .invalidLength r.next r.shape)] })

/-- The failure with the least key. -/
def leastKey : List (String × Error) → Option (String × Error)
  | [] => none
  | f :: rest =>
    match leastKey rest with
    | some g => if g.1 < f.1 then some g else some f
    | none => some f

/-- What reading a record from an array does with elements past its fields. -/
inductive Surplus where
  /-- They are an error. -/
  | refused
  /-- They are left unread. -/
  | ignored
  deriving DecidableEq, Repr

/-- The members of an object that no field asked for and that cannot be read in full. -/
def unreadableUnknown (known : List String) (members : Json.Fields) : List (String × Error) :=
  (members.filter fun (k, v) => !known.contains k && !v.readable).map
    fun (k, _) => (k, .custom "number out of range")

/-- **A record** named `name` with `arity` fields, read by `fields` from an object or an
array; `surplus` says what an array's elements past the fields are. -/
def recordWith (surplus : Surplus) (name : String) (arity : Nat) (fields : RecordReader α) :
    Decoder α := fun j =>
  let shape := "struct " ++ name ++ " with " ++ toString arity ++ " elements"
  let run (layout : Layout) := fields.run { layout, shape }
  match j with
  | .obj members =>
    let (a, r) := run (.members members)
    match leastKey (r.failures ++ unreadableUnknown r.known members), r.absent with
    | some (_, e), _ => .error e
    | none, e :: _ => .error e
    | none, [] => .ok a
  | .arr items =>
    let (a, r) := run (.elements items)
    match r.failures with
    | (_, e) :: _ => .error e
    | [] =>
      if surplus = .refused ∧ r.next < items.length then
        .error (.invalidLength items.length "fewer elements in array")
      else .ok a
  | j => .error (.invalidType (.ofJson j) ("struct " ++ name))

/-- A record whose array form refuses surplus elements, as JSON documents are read. -/
def record (name : String) (arity : Nat) (fields : RecordReader α) : Decoder α :=
  recordWith .refused name arity fields

end Decode

end Catalog
