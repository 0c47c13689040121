import Catalog.Json.Basic
import Catalog.Text.Printable

/-!
# Decoding errors

Why a JSON value could not be read as a value of a typed record, and the message for each
cause. The messages name what was found and what was expected:
`invalid type: string "5", expected u32`, `invalid value: integer `-1`, expected u32`,
`missing field `sort``, `unknown variant `job`, expected `DATASET` or `JOB``.

* `Decode.Found.describe`: how a found value is named. A text is quoted with the characters
  that do not print written as escapes (`Text.isPrintable`); a double is spelled by
  `Binary64.messageText` (`1.5`, `1e+16`).
* `Decode.Error.message`: the message of each cause.
-/

namespace Catalog

namespace Decode

/-- What a decoder found where it wanted something else. -/
inductive Found where
  | null
  | bool (b : Bool)
  | unsigned (n : Nat)
  | signed (i : Int)
  | double (x : Binary64)
  | string (s : String)
  | sequence
  | map
  /-- A number out of range. -/
  | outOfRange
  deriving Repr, Inhabited

/-- What a JSON value is, for an error message. -/
def Found.ofJson : Json → Found
  | .null => .null
  | .bool b => .bool b
  | .num (.nat n) => .unsigned n
  | .num (.int i) => .signed i
  | .num (.double x) => .double x
  | .num .outOfRange => .outOfRange
  | .str s => .string s
  | .arr _ => .sequence
  | .obj _ => .map

/-- Lowercase hex digits of a number, without leading zeros. -/
def hexText (n : Nat) : String :=
  String.ofList (Nat.toDigits 16 n)

/-- One character inside a quoted text: `\t \r \n \\ \" \0` by name, other characters that are
not printable (`Text.isPrintable`) as `\u` with their hex code point in braces. -/
def quoteChar (c : Char) : String :=
  if c = '\t' then "\\t" else if c = '\r' then "\\r" else if c = '\n' then "\\n"
  else if c = '\\' then "\\\\" else if c = '"' then "\\\"" else if c.toNat = 0 then "\\0"
  else if Text.isPrintable c then c.toString
  else "\\u\x7b" ++ hexText c.toNat ++ "\x7d"

/-- A text in double quotes with escapes, as error messages show it. -/
def quoted (s : String) : String := "\"" ++ String.join (s.toList.map quoteChar) ++ "\""

/-- How a found value is named in a message. -/
def Found.describe : Found → String
  | .null => "null"
  | .bool b => "boolean `" ++ toString b ++ "`"
  | .unsigned n => "integer `" ++ toString n ++ "`"
  | .signed i => "integer `" ++ toString i ++ "`"
  | .double x => "floating point `" ++ x.messageText ++ "`"
  | .string s => "string " ++ quoted s
  | .sequence => "sequence"
  | .map => "map"
  | .outOfRange => "number out of range"

/-- A cause of a failed decoding. -/
inductive Error where
  /-- A value of the wrong kind. -/
  | invalidType (found : Found) (expected : String)
  /-- A value of the right kind out of range. -/
  | invalidValue (found : Found) (expected : String)
  /-- A sequence of the wrong length. -/
  | invalidLength (length : Nat) (expected : String)
  /-- A name that is none of the known variants. -/
  | unknownVariant (name : String) (known : List String)
  /-- A required field that is absent. -/
  | missingField (name : String)
  /-- A message of a field's own reader. -/
  | custom (message : String)
  deriving Repr, Inhabited

/-- Names in backticks: one, two joined by `or`, or `one of` a comma list. -/
def oneOf : List String → String
  | [a] => "`" ++ a ++ "`"
  | [a, b] => "`" ++ a ++ "` or `" ++ b ++ "`"
  | names => "one of " ++ ", ".intercalate (names.map fun n => "`" ++ n ++ "`")

/-- **The message of a decoding error.** -/
def Error.message : Error → String
  | .invalidType found expected => "invalid type: " ++ found.describe ++ ", expected " ++ expected
  | .invalidValue found expected =>
    "invalid value: " ++ found.describe ++ ", expected " ++ expected
  | .invalidLength n expected => "invalid length " ++ toString n ++ ", expected " ++ expected
  | .unknownVariant name [] => "unknown variant `" ++ name ++ "`, there are no variants"
  | .unknownVariant name known => "unknown variant `" ++ name ++ "`, expected " ++ oneOf known
  | .missingField name => "missing field `" ++ name ++ "`"
  | .custom message => message

end Decode

end Catalog
