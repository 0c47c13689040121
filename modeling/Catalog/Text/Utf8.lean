/-!
# UTF-8 bytes and text

Bytes are read as UTF-8 the way the Unicode standard recommends for bad input: a
well-formed sequence gives its character, and each *maximal ill-formed subpart* (a lead byte
with the continuation bytes that still fit it, or a byte that cannot start a sequence at
all) is one fault. The continuation bytes a lead byte allows are narrowed so that overlong
forms, surrogates and values past U+10FFFF are faults too.

* `Utf8.pieces`: the characters and faults, in order.
* `Utf8.decodeLossy`: each fault becomes U+FFFD.
* `Utf8.decode?`: `none` as soon as there is a fault.
* `Utf8.encode`: the bytes of one code point.
-/

namespace Catalog

namespace Utf8

/-- The ranges its continuation bytes must fall in, for a byte that can start a sequence,
together with the bits of the lead byte that belong to the character. -/
def lead (b : Nat) : Option (Nat × List (Nat × Nat)) :=
  let tail := (0x80, 0xBF)
  if b < 0x80 then some (b, [])
  else if b < 0xC2 then none
  else if b < 0xE0 then some (b - 0xC0, [tail])
  else if b = 0xE0 then some (0, [(0xA0, 0xBF), tail])
  else if b = 0xED then some (0xD, [(0x80, 0x9F), tail])
  else if b < 0xF0 then some (b - 0xE0, [tail, tail])
  else if b = 0xF0 then some (0, [(0x90, 0xBF), tail, tail])
  else if b < 0xF4 then some (b - 0xF0, [tail, tail, tail])
  else if b = 0xF4 then some (4, [(0x80, 0x8F), tail, tail])
  else none

/-- Takes the continuation bytes a sequence still needs: the character's value, or `none`
at the first byte out of its range, which is then left unread. -/
def continuation (acc : Nat) : List (Nat × Nat) → List Nat → Option Nat × List Nat
  | [], rest => (some acc, rest)
  | (lo, hi) :: more, b :: rest =>
    if lo ≤ b ∧ b ≤ hi then continuation (acc * 64 + (b - 0x80)) more rest
    else (none, b :: rest)
  | _ :: _, [] => (none, [])

/-- One step: the first character or fault, and the bytes after it. -/
def step : List Nat → Option Char × List Nat
  | [] => (none, [])
  | b :: rest =>
    match lead b with
    | none => (none, rest)
    | some (bits, ranges) =>
      match continuation bits ranges rest with
      | (some v, rest') => (some (Char.ofNat v), rest')
      | (none, rest') => (none, rest')

/-- The steps over the bytes; each consumes at least one byte, so fuel as long as the bytes
suffices. -/
def piecesWith : Nat → List Nat → List (Option Char)
  | 0, _ => []
  | _, [] => []
  | fuel + 1, bs =>
    let (piece, rest) := step bs
    piece :: piecesWith fuel rest

/-- **The characters and faults of a byte sequence**, in order. -/
def pieces (bs : List Nat) : List (Option Char) := piecesWith bs.length bs

/-- The replacement character, which stands for a fault. -/
def replacement : Char := Char.ofNat 0xFFFD

/-- **Lossy decoding**: every fault becomes U+FFFD. -/
def decodeLossy (bs : List Nat) : String :=
  String.ofList ((pieces bs).map fun p => p.getD replacement)

/-- **Strict decoding**: the text, or `none` when any fault occurs. -/
def decode? (bs : List Nat) : Option String :=
  (pieces bs).mapM id |>.map String.ofList

/-- The UTF-8 bytes of a text. -/
def bytes (s : String) : List Nat := s.toUTF8.toList.map UInt8.toNat

/-- **Encoding** one code point below `0x110000` as one to four bytes. -/
def encode (n : Nat) : List Nat :=
  if n < 0x80 then [n]
  else if n < 0x800 then [0xC0 + n / 0x40, 0x80 + n % 0x40]
  else if n < 0x10000 then [0xE0 + n / 0x1000, 0x80 + n / 0x40 % 0x40, 0x80 + n % 0x40]
  else [0xF0 + n / 0x40000, 0x80 + n / 0x1000 % 0x40, 0x80 + n / 0x40 % 0x40, 0x80 + n % 0x40]

example : encode 0x65E5 = bytes "日" := by decide +kernel

example : decodeLossy [0xED, 0xA0, 0x80] = "\uFFFD\uFFFD\uFFFD" := by decide +kernel
example : decode? [0xF0, 0x9F, 0x98, 0x80] = some "😀" := by decide +kernel

end Utf8

end Catalog
