import Catalog.Decode.Basic

/-!
# UUIDs

A UUID is a 128-bit number. It is written as 32 lowercase hex digits in groups of 8, 4, 4,
4 and 12 joined by hyphens. It is read from that form in either case, from the 32 digits
alone, from the hyphenated form in braces, or after the prefix `urn:uuid:`, itself in any
case.

When a text is no UUID, the error names the first thing wrong with it. A text longer than the
longest form (45 bytes) is of the wrong length. Otherwise, after the braces or the prefix: a
character that is neither a hex digit nor a hyphen (with its byte position, from 0), the length
of a text without hyphens, the number of hyphen-separated groups, or the first group of the
wrong length. A text with the length of a hyphenated form is judged as that form, with
positions in its 36 hyphenated bytes; any other text with positions in the whole text.

* `Uuid.parse`: reading, with the error.
* `Uuid.text`: the hyphenated lowercase form.
-/

namespace Catalog

/-- A 128-bit identifier. -/
structure Uuid where
  /-- The identifier as a number below `2 ^ 128`. -/
  value : Nat
  deriving DecidableEq, Repr, Inhabited

/-- Why a text is no UUID. -/
inductive UuidError where
  /-- A character that is neither a hex digit nor a hyphen, at a byte position. -/
  | character (c : Char) (position : Nat)
  /-- A text longer than any form, or of hex digits only and of the wrong length, by its
  length in bytes. -/
  | length (length : Nat)
  /-- The wrong number of hyphen-separated groups. -/
  | groupCount (count : Nat)
  /-- A group of the wrong length. -/
  | groupLength (group : Nat) (expected : Nat) (length : Nat)
  deriving DecidableEq, Repr

/-- The message of a UUID error. -/
def UuidError.message : UuidError → String
  | .character c i => "invalid character: found `" ++ c.toString ++ "` at " ++ toString i
  | .length n => "invalid length: found " ++ toString n
  | .groupCount n => "invalid group count: expected 5, found " ++ toString n
  | .groupLength g e n =>
    "invalid group length in group " ++ toString g ++ ": expected " ++ toString e ++
      ", found " ++ toString n

namespace Uuid

/-- The value of a hex digit. -/
def hexValue? (c : Char) : Option Nat :=
  if '0' ≤ c ∧ c ≤ '9' then some (c.toNat - 48)
  else if 'a' ≤ c ∧ c ≤ 'f' then some (c.toNat - 87)
  else if 'A' ≤ c ∧ c ≤ 'F' then some (c.toNat - 55)
  else none

/-- The number of a list of hex digits; `none` if one is not a hex digit. -/
def hexNumber (cs : List Char) : Option Nat :=
  cs.foldl (fun acc c => acc.bind fun a => (hexValue? c).map (a * 16 + ·)) (some 0)

/-- The 32 digits of the hyphenated form, when the 36 characters have hyphens at 8, 13, 18
and 23 and nothing else but hex digits. -/
def hyphenatedDigits (cs : List Char) : Option (List Char) :=
  if cs.length = 36 ∧ cs[8]? = some '-' ∧ cs[13]? = some '-' ∧ cs[18]? = some '-' ∧
      cs[23]? = some '-' then
    some (cs.take 8 ++ (cs.drop 9).take 4 ++ (cs.drop 14).take 4 ++ (cs.drop 19).take 4 ++
      cs.drop 24)
  else none

/-- Whether a text starts with `urn:uuid:`, in any case. -/
def hasUrnPrefix (cs : List Char) : Bool :=
  (cs.take 9).map Char.toLower = "urn:uuid:".toList

/-- The UUID of a text in one of the accepted forms, without the error. -/
def parseForm? (s : String) : Option Uuid :=
  let cs := s.toList
  let bytes := s.utf8ByteSize
  let digits : Option (List Char) :=
    if bytes = 32 then some cs
    else if bytes = 36 then hyphenatedDigits cs
    else if bytes = 38 ∧ cs.head? = some '\x7b' ∧ cs.getLast? = some '\x7d' then
      hyphenatedDigits ((cs.drop 1).take 36)
    else if bytes = 45 ∧ hasUrnPrefix cs then hyphenatedDigits (cs.drop 9)
    else none
  digits.bind fun ds => if ds.length = 32 then (hexNumber ds).map (⟨·⟩) else none

/-- The byte position of each character of a list, from `start`. -/
def positions (start : Nat) : List Char → List (Char × Nat)
  | [] => []
  | c :: rest => (c, start) :: positions (start + c.utf8Size) rest

/-- The first character that is neither a hex digit nor a hyphen, with its byte position. -/
def badCharacter? (body : List Char) (offset : Nat) : Option (Char × Nat) :=
  (positions offset body).find? fun (c, _) => c ≠ '-' ∧ (hexValue? c).isNone

/-- The error of a text in none of the accepted forms: a text too long for any form first,
then a bad character, the length of a text without hyphens, the group count, and the first
group of the wrong length.

A text of the length of a hyphenated form (36 bytes, 38 in braces, 45 after the prefix) is
judged as that form: only its 36 bytes are looked at, positions count from their start, and
they are never read as a text without hyphens. Any other text is looked at whole, braces and
prefix set aside, and positions count from the start of the whole text. -/
def diagnose (s : String) : UuidError :=
  let bytes := s.utf8ByteSize
  if bytes > 45 then .length bytes else
  let cs := s.toList
  let braced := cs.length ≥ 2 ∧ cs.head? = some '\x7b' ∧ cs.getLast? = some '\x7d'
  let (body, offset, simple) :=
    if bytes = 36 then (cs, 0, false)
    else if bytes = 38 ∧ braced then ((cs.drop 1).dropLast, 0, false)
    else if bytes = 45 ∧ hasUrnPrefix cs then (cs.drop 9, 0, false)
    else if braced then ((cs.drop 1).dropLast, 1, false)
    else if hasUrnPrefix cs then (cs.drop 9, 9, false)
    else (cs, 0, true)
  match badCharacter? body offset with
  | some (c, i) => .character c i
  | none =>
    let hyphens := ((positions 0 body).filter fun (c, _) => c = '-').map Prod.snd
    if hyphens.isEmpty ∧ simple then .length s.utf8ByteSize
    else if hyphens.length ≠ 4 then .groupCount (hyphens.length + 1)
    else
      let starts := [0, 9, 14, 19, 24]
      let expected := [8, 4, 4, 4, 12]
      let wrong := (List.range 4).find? fun i => hyphens[i]? ≠ some (starts[i + 1]?.getD 0 - 1)
      match wrong with
      | some i => .groupLength i (expected[i]?.getD 0) ((hyphens[i]?.getD 0) - (starts[i]?.getD 0))
      | none => .groupLength 4 12 (s.utf8ByteSize - 24)

example : diagnose "000000000000000000000000000000000000" = .groupCount 1 := by decide +kernel
example : diagnose "0000000000000000000000000000000" = .length 31 := by decide +kernel
example : diagnose "\x7bg0000000-0000-0000-0000-000000000000\x7d" = .character 'g' 0 := by
  decide +kernel
example : diagnose "\x7b00000000-0000-0000-0000-000000000000 \x7d" = .character ' ' 37 := by
  decide +kernel

/-- **Reading a UUID**, or the first thing wrong with the text. -/
def parse (s : String) : Except UuidError Uuid :=
  match parseForm? s with
  | some u => .ok u
  | none => .error (diagnose s)

/-- Hex digits of a number, lowercase, at least `width` of them. -/
def hexDigits (width : Nat) (n : Nat) : List Char :=
  let ds := Nat.toDigits 16 n
  List.replicate (width - ds.length) '0' ++ ds

/-- **The hyphenated lowercase form.** -/
def text (u : Uuid) : String :=
  let ds := hexDigits 32 u.value
  String.ofList (ds.take 8 ++ '-' :: (ds.drop 8).take 4 ++ '-' :: (ds.drop 12).take 4 ++
    '-' :: (ds.drop 16).take 4 ++ '-' :: ds.drop 20)

/-- The wire reader: a text in any accepted form. -/
def decode : Decode.Decoder Uuid
  | .str s => match parse s with
    | .ok u => .ok u
    | .error e => .error (.custom ("UUID parsing failed: " ++ e.message))
  | j => .error (.invalidType (.ofJson j) "a formatted UUID string")

/-- The wire form. -/
def toJson (u : Uuid) : Json := .str u.text

end Uuid

end Catalog
