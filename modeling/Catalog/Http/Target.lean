import Catalog.Http.Form

/-!
# Request methods and targets

Before a request is routed, its method and its target are read, and either can refuse it.

A method is a token: one or more of the ASCII letters and digits and ``!#$%&'*+-.^_`|~``.

A target is read in one of four forms (RFC 9112, section 3.2):

* *origin form*, `/path?query#fragment`: the path is the bytes up to `?` or `#`, the query
  the bytes after `?` up to `#`, and the fragment is dropped. Besides the characters a path
  may hold unencoded, a path takes `"`, braces and any byte from 0x80 on; a query takes the
  visible ASCII characters but `"`, `#`, `<` and `>`, and any byte from 0x80 on. The delete
  character 0x7F is refused in both.
* *absolute form*, `scheme://authority/path?query`: the scheme is `http` or `https` in any
  case or any name of letters, digits, `+`, `-`, `.` and `~` up to 64 characters; nothing after
  `://` is an empty target; the authority runs to the first `/`, `?` or `#` and must not be empty; what follows is read as in origin
  form, and an empty path is `/`.
* *authority form*, `host:port`: the whole target is an authority, and the path is empty.
* *asterisk form*, `*`, which is its own path.

An authority holds the unreserved and sub-delimiter characters, `:`, `@` and one pair of
brackets; a `%` only in the user part; at most one colon outside the brackets and the user
part; and it may not end with `@`. A target longer than 65534 bytes, or empty, is refused.

* `Method.isValid`, `Target.read`: the two readings, with their errors.
-/

namespace Catalog

namespace Http

/-- Whether a byte may appear in a method: the token characters. -/
def isTokenByte (b : Nat) : Bool :=
  (0x30 ≤ b && b ≤ 0x39) || (0x41 ≤ b && b ≤ 0x5A) || (0x61 ≤ b && b ≤ 0x7A) ||
    [0x21, 0x23, 0x24, 0x25, 0x26, 0x27, 0x2A, 0x2B, 0x2D, 0x2E, 0x5E, 0x5F, 0x60, 0x7C,
      0x7E].contains b

/-- **Whether a method is well formed**: a nonempty token. -/
def Method.isValid (method : String) : Bool :=
  let bs := Utf8.bytes method
  !bs.isEmpty && bs.all isTokenByte

/-- Why a target could not be read. -/
inductive TargetError where
  | invalidCharacter
  | invalidAuthority
  | invalidFormat
  | tooLong
  | empty
  | schemeTooLong
  deriving DecidableEq, Repr

/-- The message of a target error. -/
def TargetError.message : TargetError → String
  | .invalidCharacter => "invalid uri character"
  | .invalidAuthority => "invalid authority"
  | .invalidFormat => "invalid format"
  | .tooLong => "uri too long"
  | .empty => "empty string"
  | .schemeTooLong => "scheme too long"

/-- Why a request could not be built: its method, or then its target. -/
inductive RequestError where
  | method
  | target (e : TargetError)
  deriving DecidableEq, Repr

/-- The message of a request error. -/
def RequestError.message : RequestError → String
  | .method => "invalid HTTP method"
  | .target e => e.message

/-- A request target: the path and the query string, a fragment dropped. -/
structure Target where
  path : String
  query : String
  deriving DecidableEq, Repr

/-- Bytes a path may hold as they are. -/
def pathByte (b : Nat) : Bool :=
  b = 0x21 || b = 0x22 || (0x24 ≤ b && b ≤ 0x3B) || b = 0x3D || (0x40 ≤ b && b ≤ 0x5F) ||
    (0x61 ≤ b && b ≤ 0x7E) || 0x80 ≤ b

/-- Bytes a query string may hold as they are. -/
def queryByte (b : Nat) : Bool :=
  b = 0x21 || (0x24 ≤ b && b ≤ 0x3B) || b = 0x3D || (0x3F ≤ b && b ≤ 0x7E) || 0x80 ≤ b

/-- The characters an authority may hold, `%` aside. -/
def authorityByte (b : Nat) : Bool :=
  (0x30 ≤ b && b ≤ 0x39) || (0x41 ≤ b && b ≤ 0x5A) || (0x61 ≤ b && b ≤ 0x7A) ||
    [0x21, 0x24, 0x26, 0x27, 0x28, 0x29, 0x2A, 0x2B, 0x2C, 0x2D, 0x2E, 0x3A, 0x3B, 0x3D,
      0x40, 0x5B, 0x5D, 0x5F, 0x7E].contains b

/-- The characters of a scheme name: letters, digits, `+`, `-`, `.` and `~`. -/
def schemeByte (b : Nat) : Bool :=
  (0x30 ≤ b && b ≤ 0x39) || (0x41 ≤ b && b ≤ 0x5A) || (0x61 ≤ b && b ≤ 0x7A) ||
    b = 0x2B || b = 0x2D || b = 0x2E || b = 0x7E

/-- Text of bytes below 0x80, one character each, and of UTF-8 sequences above. -/
def text (bs : List Nat) : String := Utf8.decodeLossy bs

/-- The bytes before a fragment. -/
def beforeFragment (bs : List Nat) : List Nat := bs.takeWhile (· ≠ 0x23)

/-- **A path and query** from the bytes after the authority (or of an origin-form target):
the path up to `?`, the query after it, both up to `#`. An empty path is `/`. -/
def pathAndQuery (bs : List Nat) : Except TargetError Target :=
  let (path, query) := splitFirst 0x3F (beforeFragment bs)
  let query := query.getD []
  if !(path.all pathByte && query.all queryByte) then .error .invalidCharacter
  else .ok ⟨if path.isEmpty then "/" else text path, text query⟩

/-- What an authority scan has seen: colons since the last `@` or `]`, the brackets, a `%`
since the last `@` or `]`, and whether the last byte was `@`. -/
structure AuthorityScan where
  colons : Nat := 0
  opened : Bool := false
  closed : Bool := false
  percent : Bool := false
  endsWithAt : Bool := false

/-- One byte of an authority. -/
def AuthorityScan.step (s : AuthorityScan) (b : Nat) : Except TargetError AuthorityScan :=
  let s := { s with endsWithAt := b = 0x40 }
  if b = 0x3A then
    if s.colons ≥ 8 then .error .invalidAuthority else .ok { s with colons := s.colons + 1 }
  else if b = 0x5B then
    if s.percent || s.opened then .error .invalidAuthority else .ok { s with opened := true }
  else if b = 0x5D then
    if !s.opened || s.closed then .error .invalidAuthority
    else .ok { s with closed := true, colons := 0, percent := false }
  else if b = 0x40 then .ok { s with colons := 0, percent := false }
  else if b = 0x25 then .ok { s with percent := true }
  else if authorityByte b then .ok s
  else .error .invalidCharacter

/-- **An authority** at the start of the bytes, up to the first `/`, `?` or `#`: its length. -/
def authorityLength (bs : List Nat) : Except TargetError Nat := do
  let auth := bs.takeWhile fun b => b ≠ 0x2F && b ≠ 0x3F && b ≠ 0x23
  let s ← auth.foldlM AuthorityScan.step {}
  if s.opened != s.closed then .error .invalidAuthority
  else if s.colons > 1 then .error .invalidAuthority
  else if s.endsWithAt then .error .invalidAuthority
  else if s.percent then .error .invalidAuthority
  else .ok auth.length

/-- Whether bytes start with a text, ASCII letters in any case. -/
def startsWithFolded (bs : List Nat) (start : String) : Bool :=
  let fold (b : Nat) := if 0x41 ≤ b ∧ b ≤ 0x5A then b + 0x20 else b
  (bs.take start.utf8ByteSize).map fold = Utf8.bytes start

/-- The length of a scheme and its `://` at the start of a target, if it has one. -/
def schemeLength? (bs : List Nat) : Except TargetError (Option Nat) :=
  if startsWithFolded bs "http://" then .ok (some 7)
  else if startsWithFolded bs "https://" then .ok (some 8)
  else if bs.length ≤ 3 then .ok none
  else
    let name := bs.takeWhile schemeByte
    let rest := bs.drop name.length
    match rest with
    | 0x3A :: 0x2F :: 0x2F :: _ =>
      if name.length > 64 then .error .schemeTooLong else .ok (some (name.length + 3))
    | _ => .ok none

/-- A target that does not start with `/`: absolute form, or else authority form. -/
def absoluteOrAuthority (bs : List Nat) : Except TargetError Target := do
  match ← schemeLength? bs with
  | none =>
    let n ← authorityLength bs
    if n ≠ bs.length then .error .invalidFormat else .ok ⟨"", ""⟩
  | some k =>
    let rest := bs.drop k
    if rest.isEmpty then .error .empty else
    let n ← authorityLength rest
    if n = 0 then .error .invalidFormat else pathAndQuery (rest.drop n)

/-- **Reads a request target** in any of its four forms. -/
def Target.read (s : String) : Except TargetError Target :=
  let bs := Utf8.bytes s
  if bs.length > 65534 then .error .tooLong
  else match bs with
    | [] => .error .empty
    | [0x2F] => .ok ⟨"/", ""⟩
    | [0x2A] => .ok ⟨"*", ""⟩
    | [b] => do
      let n ← authorityLength [b]
      if n ≠ 1 then .error .invalidCharacter else .ok ⟨"", ""⟩
    | 0x2F :: _ => pathAndQuery bs
    | _ => absoluteOrAuthority bs

/-- **Reads a request**: the method first, then the target. -/
def readRequest (method target : String) : Except RequestError Target :=
  if !Method.isValid method then .error .method
  else (Target.read target).mapError .target

example : (Target.read "/api/v1/search?q=a#top").toOption = some ⟨"/api/v1/search", "q=a"⟩ := by
  decide +kernel
example : (Target.read "/a b").toOption = none := by decide +kernel
example : (readRequest "G ET" "/").toOption = none := by decide +kernel

end Http

end Catalog
