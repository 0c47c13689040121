import Catalog.Text.Utf8

/-!
# Percent-encoding and form data

The two byte-level decodings of a request target.

* `percentDecode`: `%` followed by two hex digits is that byte; a `%` without them stays as
  it is.
* `Form.parse`: a query string as `application/x-www-form-urlencoded` data. It is split on
  `&`, empty pieces are skipped, and each piece is split at its first `=` (no `=` gives an
  empty value). In both halves `+` becomes a space, then percent-decoding runs, then the bytes
  are read as UTF-8 with U+FFFD for each fault.
-/

namespace Catalog

namespace Http

/-- The value of an ASCII hex digit byte. -/
def hexByte? (b : Nat) : Option Nat :=
  if 0x30 ≤ b ∧ b ≤ 0x39 then some (b - 0x30)
  else if 0x41 ≤ b ∧ b ≤ 0x46 then some (b - 0x37)
  else if 0x61 ≤ b ∧ b ≤ 0x66 then some (b - 0x57)
  else none

/-- **Percent-decoding** of bytes; a `%` not followed by two hex digits is kept. -/
def percentDecode : List Nat → List Nat
  | 0x25 :: h :: l :: rest =>
    match hexByte? h, hexByte? l with
    | some a, some b => (a * 16 + b) :: percentDecode rest
    | _, _ => 0x25 :: percentDecode (h :: l :: rest)
  | b :: rest => b :: percentDecode rest
  | [] => []

/-- Splits a list at every occurrence of `sep`; the piece being read is accumulated in
reverse. There is one more piece than there are separators. -/
def splitList [DecidableEq α] (sep : α) (current : List α) : List α → List (List α)
  | [] => [current.reverse]
  | b :: rest =>
    if b = sep then current.reverse :: splitList sep [] rest
    else splitList sep (b :: current) rest

/-- Splits bytes at the first `sep`: what comes before, and what comes after if it occurs. -/
def splitFirst (sep : Nat) : List Nat → List Nat × Option (List Nat)
  | [] => ([], none)
  | b :: rest =>
    if b = sep then ([], some rest)
    else
      let (before, after) := splitFirst sep rest
      (b :: before, after)

namespace Form

/-- One decoded name or value: `+` as a space, percent-decoding, lossy UTF-8. -/
def component (bs : List Nat) : String :=
  Utf8.decodeLossy (percentDecode (bs.map fun b => if b = 0x2B then 0x20 else b))

/-- One `name=value` piece. -/
def pair (piece : List Nat) : String × String :=
  let (name, value) := splitFirst 0x3D piece
  (component name, component (value.getD []))

/-- **The pairs of a query string**, in order. -/
def parse (query : String) : List (String × String) :=
  ((splitList 0x26 [] (Utf8.bytes query)).filter fun piece => !piece.isEmpty).map pair

example : parse "q=a+b&&x&=1&k=%E6%97%A5%zz" =
    [("q", "a b"), ("x", ""), ("", "1"), ("k", "日%zz")] := by decide +kernel
example : parse "v=%FF" = [("v", "�")] := by decide +kernel

end Form

end Http

end Catalog
