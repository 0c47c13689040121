import Catalog.Json.Basic
import Catalog.Text.Utf8

/-!
# Reading JSON

A reader for the JSON grammar (RFC 8259) over the UTF-8 bytes of a text, one function per
rule. Blanks are space, tab, line feed and carriage return. A string may hold any byte from
0x20 on; the escapes are `\" \\ \/ \b \f \n \r \t` and `\uXXXX`, where a high surrogate must be
followed at once by an escaped low one. A repeated key keeps its last value. Arrays and
objects nest at most 127 deep.

Numbers are classified by their text. An integer without fraction or exponent is a natural
when it fits in 64 bits, a negative integer when it is at least `-2 ^ 63`, and otherwise a
double, as is every number with a fraction or an exponent. The double is computed from a
64-bit significand: integer digits that no longer fit are dropped and counted in the
exponent, fraction digits that no longer fit are dropped, and then `Binary64.ofDecimal`
scales it; a value past the largest double is out of range. An exponent past `2 ^ 31 - 1`
makes the number zero, or out of range when it is positive and the significand is not zero.

A text that is no JSON document is refused with the first thing wrong and where: the line
(from 1) and the column, which counts the bytes of that line read so far. What went wrong is
found either on a byte already read, and the column ends before the next byte, or on the byte
looked at next, and the column counts that byte too.

Nested values cost fuel: every call consumes a byte or leads to one that does, so `parse`
starts with twice the length of the text and more and never runs out first.
-/

namespace Catalog

namespace Json

/-- What is wrong with a text that is no JSON document. -/
inductive SyntaxError where
  | eofWhileParsingList
  | eofWhileParsingObject
  | eofWhileParsingString
  | eofWhileParsingValue
  | expectedColon
  | expectedListCommaOrEnd
  | expectedObjectCommaOrEnd
  | expectedSomeIdent
  | expectedSomeValue
  | invalidEscape
  | invalidNumber
  | numberOutOfRange
  | controlCharacterWhileParsingString
  | keyMustBeAString
  | loneLeadingSurrogateInHexEscape
  | trailingComma
  | trailingCharacters
  | unexpectedEndOfHexEscape
  | recursionLimitExceeded
  deriving DecidableEq, Repr

/-- The description of a syntax error. -/
def SyntaxError.text : SyntaxError → String
  | .eofWhileParsingList => "EOF while parsing a list"
  | .eofWhileParsingObject => "EOF while parsing an object"
  | .eofWhileParsingString => "EOF while parsing a string"
  | .eofWhileParsingValue => "EOF while parsing a value"
  | .expectedColon => "expected `:`"
  | .expectedListCommaOrEnd => "expected `,` or `]`"
  | .expectedObjectCommaOrEnd => "expected `,` or `\x7d`"
  | .expectedSomeIdent => "expected ident"
  | .expectedSomeValue => "expected value"
  | .invalidEscape => "invalid escape"
  | .invalidNumber => "invalid number"
  | .numberOutOfRange => "number out of range"
  | .controlCharacterWhileParsingString =>
    "control character (\\u0000-\\u001F) found while parsing a string"
  | .keyMustBeAString => "key must be a string"
  | .loneLeadingSurrogateInHexEscape => "lone leading surrogate in hex escape"
  | .trailingComma => "trailing comma"
  | .trailingCharacters => "trailing characters"
  | .unexpectedEndOfHexEscape => "unexpected end of hex escape"
  | .recursionLimitExceeded => "recursion limit exceeded"

/-- A syntax error with its place: the line, from 1, and the bytes of that line before it. -/
structure ReadError where
  error : SyntaxError
  line : Nat
  column : Nat
  deriving DecidableEq, Repr

/-- The message of a read error. -/
def ReadError.message (e : ReadError) : String :=
  e.error.text ++ " at line " ++ toString e.line ++ " column " ++ toString e.column

/-- A failure while reading: the error and the number of bytes left after its place. -/
structure Failure where
  error : SyntaxError
  left : Nat

/-- What a reading step gives: a value and the bytes after it, or a failure. -/
abbrev Step (α : Type) := Except Failure (α × List Nat)

/-- A failure placed after the bytes read so far; `rest` is what is left. -/
def fail (e : SyntaxError) (rest : List Nat) : Except Failure α := .error ⟨e, rest.length⟩

/-- A failure placed after the byte looked at next, at the start of `rest`. -/
def failAt (e : SyntaxError) (rest : List Nat) : Except Failure α := .error ⟨e, rest.length - 1⟩

/-- Skips blanks. -/
def skipBlank : List Nat → List Nat
  | b :: rest => if b = 0x20 ∨ b = 0x0A ∨ b = 0x09 ∨ b = 0x0D then skipBlank rest else b :: rest
  | [] => []

/-! ## Numbers -/

/-- The largest 64-bit unsigned integer. -/
def wordMax : Nat := Nat.pow 2 64 - 1

/-- The largest 32-bit signed integer, the bound of exponents. -/
def exponentMax : Nat := Nat.pow 2 31 - 1

/-- Whether a byte is a decimal digit. -/
def isDigit (b : Nat) : Bool := 0x30 ≤ b && b ≤ 0x39

/-- The value of a decimal digit byte. -/
def digitValue (b : Nat) : Nat := b - 0x30

/-- An exponent held to the 32-bit signed range. -/
def saturate (k : Int) : Int :=
  if k > exponentMax then exponentMax
  else if k < -(exponentMax : Int) - 1 then -(exponentMax : Int) - 1
  else k

/-- The double `±sig * 10 ^ k`, or out of range. -/
def fromParts (negative : Bool) (sig : Nat) (k : Int) (rest : List Nat) : Step Number :=
  match Binary64.ofDecimal negative sig k with
  | some x => .ok (.double x, rest)
  | none => fail .numberOutOfRange rest

/-- Zero of a sign, as a double. -/
def signedZero (negative : Bool) : Number := .double (Binary64.pack negative 0 (-1074))

/-- Exponent digits after the first, `exp` the value so far. A digit that takes the value past
`exponentMax` ends the number: zero, or out of range for a positive exponent and a nonzero
significand. -/
def exponentDigits (negative positiveExp : Bool) (sig : Nat) (start : Int) (exp : Nat) :
    List Nat → Step Number
  | b :: rest =>
    if isDigit b then
      if exp * 10 + digitValue b > exponentMax then
        if sig ≠ 0 ∧ positiveExp then fail .numberOutOfRange rest
        else .ok (signedZero negative, rest.dropWhile isDigit)
      else exponentDigits negative positiveExp sig start (exp * 10 + digitValue b) rest
    else
      fromParts negative sig (saturate (if positiveExp then start + exp else start - exp))
        (b :: rest)
  | [] => fromParts negative sig (saturate (if positiveExp then start + exp else start - exp)) []

/-- An exponent after its `e`: an optional sign, then at least one digit. -/
def exponentPart (negative : Bool) (sig : Nat) (start : Int) (cs : List Nat) : Step Number :=
  let (positiveExp, cs) := match cs with
    | 0x2B :: rest => (true, rest)
    | 0x2D :: rest => (false, rest)
    | _ => (true, cs)
  match cs with
  | b :: rest =>
    if isDigit b then exponentDigits negative positiveExp sig start (digitValue b) rest
    else fail .invalidNumber rest
  | [] => fail .eofWhileParsingValue []

/-- The end of a number whose significand is full: the remaining digits are skipped, then
an exponent may follow. -/
def afterOverflow (negative : Bool) (sig : Nat) (k : Int) (cs : List Nat) : Step Number :=
  match cs.dropWhile isDigit with
  | 0x65 :: more => exponentPart negative sig k more
  | 0x45 :: more => exponentPart negative sig k more
  | rest => fromParts negative sig k rest

/-- Fraction digits, each appended to the significand and lowering the exponent while the
significand stays within 64 bits; at least one digit is required. -/
def fractionDigits (negative : Bool) (sig : Nat) (before : Int) (taken : Nat) :
    List Nat → Step Number
  | b :: rest =>
    if isDigit b then
      if sig * 10 + digitValue b > wordMax then afterOverflow negative sig (before - taken) rest
      else fractionDigits negative (sig * 10 + digitValue b) before (taken + 1) rest
    else if taken = 0 then failAt .invalidNumber (b :: rest)
    else if b = 0x65 ∨ b = 0x45 then exponentPart negative sig (before - taken) rest
    else fromParts negative sig (before - taken) (b :: rest)
  | [] =>
    if taken = 0 then failAt .eofWhileParsingValue []
    else fromParts negative sig (before - taken) []

/-- Integer digits past the 64 bits of the significand: each one raises the exponent. -/
def longInteger (negative : Bool) (sig : Nat) (extra : Nat) : List Nat → Step Number
  | b :: rest =>
    if isDigit b then longInteger negative sig (extra + 1) rest
    else if b = 0x2E then fractionDigits negative sig extra 0 rest
    else if b = 0x65 ∨ b = 0x45 then exponentPart negative sig extra rest
    else fromParts negative sig extra (b :: rest)
  | [] => fromParts negative sig extra []

/-- An integer's value: a natural, a negative integer down to `-2 ^ 63`, or else (and for
`-0`) a double. -/
def integerValue (negative : Bool) (sig : Nat) : Number :=
  if !negative then .nat sig
  else if sig = 0 then signedZero true
  else if sig ≤ Nat.pow 2 63 then .int (-(sig : Int))
  else .double ((Binary64.ofRatio true sig 1).getD Binary64.zero)

/-- What follows the integer digits: a fraction, an exponent or the end of the number. -/
def afterInteger (negative : Bool) (sig : Nat) : List Nat → Step Number
  | 0x2E :: more => fractionDigits negative sig 0 0 more
  | 0x65 :: more => exponentPart negative sig 0 more
  | 0x45 :: more => exponentPart negative sig 0 more
  | rest => .ok (integerValue negative sig, rest)

/-- Integer digits after the first, while the significand stays within 64 bits. -/
def integerDigits (negative : Bool) (sig : Nat) : List Nat → Step Number
  | b :: rest =>
    if isDigit b then
      if sig * 10 + digitValue b > wordMax then longInteger negative sig 0 (b :: rest)
      else integerDigits negative (sig * 10 + digitValue b) rest
    else afterInteger negative sig (b :: rest)
  | [] => afterInteger negative sig []

/-- **A number** after its optional minus sign: `0` alone or digits from `1` on, then the
rest. -/
def number (negative : Bool) : List Nat → Step Number
  | b :: rest =>
    if b = 0x30 then
      match rest with
      | c :: _ => if isDigit c then failAt .invalidNumber rest else afterInteger negative 0 rest
      | [] => afterInteger negative 0 []
    else if isDigit b then integerDigits negative (digitValue b) rest
    else fail .invalidNumber rest
  | [] => fail .eofWhileParsingValue []

/-! ## Strings -/

/-- The value of a hex digit byte. -/
def hexValue? (b : Nat) : Option Nat :=
  if isDigit b then some (b - 0x30)
  else if 0x61 ≤ b ∧ b ≤ 0x66 then some (b - 0x57)
  else if 0x41 ≤ b ∧ b ≤ 0x46 then some (b - 0x37)
  else none

/-- Four hex digits: all four are read before they are checked. -/
def hex4 : List Nat → Step Nat
  | a :: b :: c :: d :: rest =>
    match hexValue? a, hexValue? b, hexValue? c, hexValue? d with
    | some a, some b, some c, some d => .ok (((a * 16 + b) * 16 + c) * 16 + d, rest)
    | _, _, _, _ => fail .invalidEscape rest
  | _ => fail .eofWhileParsingString []

/-- Whether a code unit is a high surrogate. -/
def isHighSurrogate (u : Nat) : Bool := 0xD800 ≤ u && u ≤ 0xDBFF

/-- Whether a code unit is a low surrogate. -/
def isLowSurrogate (u : Nat) : Bool := 0xDC00 ≤ u && u ≤ 0xDFFF

/-- A `\u` escape after its `u`: the bytes of its character. A high surrogate must be
followed by `\u` and a low one. -/
def unicodeEscape (cs : List Nat) : Step (List Nat) :=
  match hex4 cs with
  | .error e => .error e
  | .ok (u, rest) =>
    if isLowSurrogate u then fail .loneLeadingSurrogateInHexEscape rest
    else if !isHighSurrogate u then .ok (Utf8.encode u, rest)
    else match rest with
      | 0x5C :: 0x75 :: more =>
        match hex4 more with
        | .error e => .error e
        | .ok (l, rest') =>
          if isLowSurrogate l then
            .ok (Utf8.encode (0x10000 + (u - 0xD800) * 0x400 + (l - 0xDC00)), rest')
          else fail .loneLeadingSurrogateInHexEscape rest'
      | 0x5C :: _ :: more => fail .unexpectedEndOfHexEscape more
      | [0x5C] => fail .eofWhileParsingString []
      | _ :: more => fail .unexpectedEndOfHexEscape more
      | [] => fail .eofWhileParsingString []

/-- An escape after its backslash: the bytes it stands for. -/
def escape : List Nat → Step (List Nat)
  | e :: rest =>
    if e = 0x22 ∨ e = 0x5C ∨ e = 0x2F then .ok ([e], rest)
    else if e = 0x62 then .ok ([0x08], rest)
    else if e = 0x66 then .ok ([0x0C], rest)
    else if e = 0x6E then .ok ([0x0A], rest)
    else if e = 0x72 then .ok ([0x0D], rest)
    else if e = 0x74 then .ok ([0x09], rest)
    else if e = 0x75 then unicodeEscape rest
    else fail .invalidEscape rest
  | [] => fail .eofWhileParsingString []

/-- The bytes of a string after its opening quote up to the closing one, accumulated in
reverse. -/
def stringBytes : Nat → List Nat → List Nat → Step (List Nat)
  | 0, _, cs => fail .eofWhileParsingString cs
  | fuel + 1, acc, b :: rest =>
    if b = 0x22 then .ok (acc.reverse, rest)
    else if b = 0x5C then
      match escape rest with
      | .error e => .error e
      | .ok (bs, rest') => stringBytes fuel (bs.reverse ++ acc) rest'
    else if b < 0x20 then fail .controlCharacterWhileParsingString rest
    else stringBytes fuel (b :: acc) rest
  | _ + 1, _, [] => fail .eofWhileParsingString []

/-- **A string** after its opening quote. -/
def string (cs : List Nat) : Step String :=
  (stringBytes (cs.length + 1) [] cs).map fun (bs, rest) => (Utf8.decodeLossy bs, rest)

/-! ## Values -/

/-- The rest of a literal word after its first letter. -/
def word (result : Json) : List Nat → List Nat → Step Json
  | [], cs => .ok (result, cs)
  | _ :: _, [] => fail .eofWhileParsingValue []
  | e :: es, b :: rest => if b = e then word result es rest else fail .expectedSomeIdent rest

mutual
/-- **A value**, after blanks; `depth` is how many more arrays and objects may open, plus
one. -/
def value : Nat → Nat → List Nat → Step Json
  | 0, _, cs => fail .recursionLimitExceeded cs
  | fuel + 1, depth, cs =>
    match skipBlank cs with
    | [] => failAt .eofWhileParsingValue []
    | b :: rest =>
      if b = 0x6E then word .null [0x75, 0x6C, 0x6C] rest
      else if b = 0x74 then word (.bool true) [0x72, 0x75, 0x65] rest
      else if b = 0x66 then word (.bool false) [0x61, 0x6C, 0x73, 0x65] rest
      else if b = 0x2D then (number true rest).map fun (n, r) => (.num n, r)
      else if isDigit b then (number false (b :: rest)).map fun (n, r) => (.num n, r)
      else if b = 0x22 then (string rest).map fun (s, r) => (.str s, r)
      else if b = 0x5B then
        if depth ≤ 1 then failAt .recursionLimitExceeded (b :: rest)
        else elements fuel (depth - 1) [] true rest
      else if b = 0x7B then
        if depth ≤ 1 then failAt .recursionLimitExceeded (b :: rest)
        else members fuel (depth - 1) [] true rest
      else failAt .expectedSomeValue (b :: rest)

/-- Array elements after the opening bracket, accumulated in reverse; `first` until one is
read. -/
def elements : Nat → Nat → List Json → Bool → List Nat → Step Json
  | 0, _, _, _, cs => fail .recursionLimitExceeded cs
  | fuel + 1, depth, acc, first, cs =>
    match skipBlank cs with
    | [] => failAt .eofWhileParsingList []
    | 0x5D :: rest => .ok (.arr acc.reverse, rest)
    | b :: rest =>
      let start : Except Failure (List Nat) :=
        if first then .ok (b :: rest)
        else if b = 0x2C then
          match skipBlank rest with
          | 0x5D :: more => failAt .trailingComma (0x5D :: more)
          | [] => failAt .eofWhileParsingValue []
          | more => .ok more
        else failAt .expectedListCommaOrEnd (b :: rest)
      match start with
      | .error e => .error e
      | .ok cs' =>
        match value fuel depth cs' with
        | .error e => .error e
        | .ok (v, rest') => elements fuel depth (v :: acc) false rest'

/-- Object members after the opening brace, inserted one by one; `first` until one is
read. -/
def members : Nat → Nat → Fields → Bool → List Nat → Step Json
  | 0, _, _, _, cs => fail .recursionLimitExceeded cs
  | fuel + 1, depth, acc, first, cs =>
    match skipBlank cs with
    | [] => failAt .eofWhileParsingObject []
    | 0x7D :: rest => .ok (.obj acc, rest)
    | b :: rest =>
      let start : Except Failure (List Nat) :=
        if first then .ok (b :: rest)
        else if b = 0x2C then .ok (skipBlank rest)
        else failAt .expectedObjectCommaOrEnd (b :: rest)
      match start with
      | .error e => .error e
      | .ok (0x22 :: more) =>
        match string more with
        | .error e => .error e
        | .ok (key, rest') =>
          match skipBlank rest' with
          | 0x3A :: more' =>
            match value fuel depth more' with
            | .error e => .error e
            | .ok (v, rest'') => members fuel depth (Fields.insert key v acc) false rest''
          | [] => failAt .eofWhileParsingObject []
          | c :: more' => failAt .expectedColon (c :: more')
      | .ok (0x7D :: more) => failAt .trailingComma (0x7D :: more)
      | .ok [] => failAt .eofWhileParsingValue []
      | .ok (c :: more) => failAt .keyMustBeAString (c :: more)
end

/-- The place of the byte offset `offset` in a text: its line and its column. -/
def place (bytes : List Nat) (offset : Nat) : Nat × Nat :=
  let before := bytes.take offset
  let lineStart := before.length - (before.reverse.takeWhile (· ≠ 0x0A)).length
  (1 + before.count 0x0A, offset - lineStart)

/-- The read error of a failure in a text of the given bytes. -/
def locate (bytes : List Nat) (f : Failure) : ReadError :=
  let (line, column) := place bytes (bytes.length - f.left)
  ⟨f.error, line, column⟩

/-- **Reads one JSON document** that fills the whole text, blanks around it allowed, or
gives the first thing wrong with it. -/
def parse (text : String) : Except ReadError Json :=
  let bytes := Utf8.bytes text
  match value (2 * bytes.length + 2) 128 bytes with
  | .error f => .error (locate bytes f)
  | .ok (j, rest) =>
    match skipBlank rest with
    | [] => .ok j
    | more => .error (locate bytes ⟨.trailingCharacters, more.length - 1⟩)

end Json

end Catalog
