import Catalog.Toml.Document
import Catalog.Time.Calendar

/-!
# TOML scalars

Readers for the values that fit on one token: strings, integers, floats and date-times. Each
takes the input at the value's first character and returns what it read with the rest, or
`none` where the text breaks the grammar.

* Strings come in four kinds: basic (`"…"`, with escapes), literal (`'…'`, as written), and
  the multi-line form of each (tripled quotes), where a newline right after the opening
  quotes is dropped, and up to two quotes may stand right before the closing ones. In a
  multi-line basic string a backslash at the end of a line removes the line break and the
  blanks and line breaks after it. The escapes are `\b \t \n \f \r \e \" \\`, `\xHH`,
  `\uHHHH` and `\UHHHHHHHH`, the last three naming a Unicode scalar value. Control characters
  other than tab must be escaped, and so must DEL.
* Integers are decimal (optional sign, no leading zero) or, unsigned, `0x`, `0o` and `0b`
  numerals; single underscores may stand between digits. Any number of digits is read; a
  value too large for a reader is refused only when it is read (`Node.toJson`).
* Floats have a fractional part, an exponent or both, or are `inf` or `nan`, with an optional
  sign; the value is rounded to the nearest double, and one beyond the largest double is
  kept as out of range, again refused only when it is read.
* Date-times follow RFC 3339 with `T`, `t` or a space between date and time, optional
  seconds, and an optional offset; a date or a time alone is a value too. Fields must lie in
  range, the day within its month.
-/

namespace Catalog

namespace Toml

/-- The text being read. -/
abbrev Input := List Char

/-- Skips spaces and tabs. -/
def skipBlank : Input → Input
  | ' ' :: rest => skipBlank rest
  | '\t' :: rest => skipBlank rest
  | cs => cs

/-- A line break: LF or CR LF. -/
def newline? : Input → Option Input
  | '\n' :: rest => some rest
  | '\r' :: '\n' :: rest => some rest
  | _ => none

/-- Drops one line break, if the text starts with one. -/
def dropNewline (cs : Input) : Input := (newline? cs).getD cs

/-! ## Strings -/

/-- The value of a hex digit. -/
def hexDigit? (c : Char) : Option Nat :=
  if c.isDigit then some (c.toNat - 48)
  else if 'a' ≤ c ∧ c ≤ 'f' then some (c.toNat - 87)
  else if 'A' ≤ c ∧ c ≤ 'F' then some (c.toNat - 55)
  else none

/-- The number written by hex digits. -/
def hexNumber? (cs : List Char) : Option Nat :=
  cs.foldlM (fun acc c => (hexDigit? c).map (acc * 16 + ·)) 0

/-- The character of a Unicode scalar value. -/
def scalarValue? (n : Nat) : Option Char :=
  if n < 0xD800 ∨ (0xE000 ≤ n ∧ n ≤ 0x10FFFF) then some (Char.ofNat n) else none

/-- The character of a one-letter escape. -/
def shortEscape? (e : Char) : Option Char :=
  if e = 'b' then some (Char.ofNat 8) else if e = 't' then some '\t'
  else if e = 'n' then some '\n' else if e = 'f' then some (Char.ofNat 12)
  else if e = 'r' then some '\r' else if e = 'e' then some (Char.ofNat 27)
  else if e = '"' then some '"' else if e = '\\' then some '\\'
  else none

/-- An escape after its backslash: the character and the rest. -/
def escape? : Input → Option (Char × Input)
  | 'u' :: a :: b :: c :: d :: rest =>
    ((hexNumber? [a, b, c, d]).bind scalarValue?).map (·, rest)
  | 'U' :: a :: b :: c :: d :: e :: f :: g :: h :: rest =>
    ((hexNumber? [a, b, c, d, e, f, g, h]).bind scalarValue?).map (·, rest)
  | 'x' :: a :: b :: rest => ((hexNumber? [a, b]).bind scalarValue?).map (·, rest)
  | e :: rest => (shortEscape? e).map (·, rest)
  | [] => none

/-- Characters a basic string holds as themselves. -/
def isBasicChar (c : Char) : Bool :=
  c = '\t' || (' ' ≤ c && c ≤ '~' && c ≠ '"' && c ≠ '\\') || c.toNat ≥ 0x80

/-- Characters a literal string holds. -/
def isLiteralChar (c : Char) : Bool :=
  c = '\t' || (' ' ≤ c && c ≤ '~' && c ≠ '\'') || c.toNat ≥ 0x80

/-- The body of a basic string after its opening quote, up to the closing one. -/
def basicString : Nat → List Char → Input → Option (String × Input)
  | 0, _, _ => none
  | fuel + 1, acc, cs =>
    match cs with
    | '"' :: rest => some (String.ofList acc.reverse, rest)
    | '\\' :: rest =>
      match escape? rest with
      | some (c, r) => basicString fuel (c :: acc) r
      | none => none
    | c :: rest => if isBasicChar c then basicString fuel (c :: acc) rest else none
    | [] => none

/-- The body of a literal string after its opening quote, up to the closing one. -/
def literalString (acc : List Char) : Input → Option (String × Input)
  | '\'' :: rest => some (String.ofList acc.reverse, rest)
  | c :: rest => if isLiteralChar c then literalString (c :: acc) rest else none
  | [] => none

/-- After a line-ending backslash: the blanks and line breaks that it removes. -/
def skipContinuation : Input → Input
  | ' ' :: rest => skipContinuation rest
  | '\t' :: rest => skipContinuation rest
  | '\n' :: rest => skipContinuation rest
  | '\r' :: '\n' :: rest => skipContinuation rest
  | cs => cs

/-- The body of a multi-line basic string, up to the closing quotes. -/
def multilineBasic : Nat → List Char → Input → Option (String × Input)
  | 0, _, _ => none
  | fuel + 1, acc, cs =>
    match cs with
    | '"' :: '"' :: '"' :: '"' :: '"' :: '"' :: _ => none
    | '"' :: '"' :: '"' :: '"' :: '"' :: rest => some (String.ofList ('"' :: '"' :: acc).reverse, rest)
    | '"' :: '"' :: '"' :: '"' :: rest => some (String.ofList ('"' :: acc).reverse, rest)
    | '"' :: '"' :: '"' :: rest => some (String.ofList acc.reverse, rest)
    | '"' :: rest => multilineBasic fuel ('"' :: acc) rest
    | '\\' :: rest =>
      match newline? (skipBlank rest) with
      | some _ => multilineBasic fuel acc (skipContinuation rest)
      | none =>
        match escape? rest with
        | some (c, r) => multilineBasic fuel (c :: acc) r
        | none => none
    | '\n' :: rest => multilineBasic fuel ('\n' :: acc) rest
    | '\r' :: '\n' :: rest => multilineBasic fuel ('\n' :: '\r' :: acc) rest
    | c :: rest => if isBasicChar c then multilineBasic fuel (c :: acc) rest else none
    | [] => none

/-- The body of a multi-line literal string, up to the closing quotes. -/
def multilineLiteral (acc : List Char) : Input → Option (String × Input)
  | '\'' :: '\'' :: '\'' :: '\'' :: '\'' :: '\'' :: _ => none
  | '\'' :: '\'' :: '\'' :: '\'' :: '\'' :: rest =>
    some (String.ofList ('\'' :: '\'' :: acc).reverse, rest)
  | '\'' :: '\'' :: '\'' :: '\'' :: rest => some (String.ofList ('\'' :: acc).reverse, rest)
  | '\'' :: '\'' :: '\'' :: rest => some (String.ofList acc.reverse, rest)
  | '\'' :: rest => multilineLiteral ('\'' :: acc) rest
  | '\n' :: rest => multilineLiteral ('\n' :: acc) rest
  | '\r' :: '\n' :: rest => multilineLiteral ('\n' :: '\r' :: acc) rest
  | c :: rest => if isLiteralChar c then multilineLiteral (c :: acc) rest else none
  | [] => none

/-- **A string of any of the four kinds**, from its opening quote. -/
def string? : Input → Option (String × Input)
  | '"' :: '"' :: '"' :: rest =>
    let body := dropNewline rest
    multilineBasic (body.length + 1) [] body
  | '"' :: rest => basicString (rest.length + 1) [] rest
  | '\'' :: '\'' :: '\'' :: rest => multilineLiteral [] (dropNewline rest)
  | '\'' :: rest => literalString [] rest
  | _ => none

/-! ## Numbers -/

/-- The value of a decimal digit. -/
def digitValue (c : Char) : Nat := c.toNat - 48

/-- Digits after the first, with single underscores between them: the digits read, and the
rest from the first character that does not continue the run. -/
def digitRun (isDigit : Char → Bool) (acc : List Char) : Input → List Char × Input
  | '_' :: c :: rest =>
    if isDigit c then digitRun isDigit (c :: acc) rest else (acc.reverse, '_' :: c :: rest)
  | c :: rest => if isDigit c then digitRun isDigit (c :: acc) rest else (acc.reverse, c :: rest)
  | [] => (acc.reverse, [])

/-- A run of digits starting with a digit. -/
def digits? (isDigit : Char → Bool) : Input → Option (List Char × Input)
  | c :: rest => if isDigit c then some (digitRun isDigit [c] rest) else none
  | [] => none

/-- The value of digits in a base. -/
def digitsValue (base : Nat) (ds : List Char) : Nat :=
  ds.foldl (fun acc c => acc * base + ((hexDigit? c).getD 0)) 0

/-- Whether a character is a digit in base 8. -/
def isOctal (c : Char) : Bool := '0' ≤ c && c ≤ '7'

/-- Whether a character is a digit in base 2. -/
def isBinary (c : Char) : Bool := c = '0' || c = '1'

/-- Whether a character is a hex digit. -/
def isHex (c : Char) : Bool := (hexDigit? c).isSome

/-- An unsigned numeral in a base, filling the whole token. -/
def radixInteger? (base : Nat) (isDigit : Char → Bool) (body : Input) : Option Node :=
  match digits? isDigit body with
  | some (ds, []) => some (.integer (digitsValue base ds))
  | _ => none

/-- The double nearest to `±digits * 10 ^ exponent`, or `none` past the largest double. -/
def floatValue (negative : Bool) (ds : List Char) (exponent : Int) : Option Binary64 :=
  let d := digitsValue 10 ds
  if d = 0 then some (Binary64.pack negative 0 (-1074))
  else
    let magnitude := (Binary64.digitCount d : Int) + exponent
    if magnitude > 310 then none
    else if magnitude < -400 then some (Binary64.pack negative 0 (-1074))
    else if 0 ≤ exponent then Binary64.ofRatio negative (d * Nat.pow 10 exponent.toNat) 1
    else Binary64.ofRatio negative d (Nat.pow 10 (-exponent).toNat)

/-- An exponent: optional sign, then digits, filling the rest of the token. -/
def exponent? (cs : Input) : Option Int :=
  let (negative, body) := match cs with
    | '-' :: r => (true, r)
    | '+' :: r => (false, r)
    | r => (false, r)
  match digits? Char.isDigit body with
  | some (ds, []) => some (if negative then -(digitsValue 10 ds : Int) else digitsValue 10 ds)
  | _ => none

/-- A decimal integer or float after its sign. -/
def decimal? (negative : Bool) (body : Input) : Option Node :=
  match body with
  | ['i', 'n', 'f'] => some (.float (some (Binary64.infinity negative)))
  | ['n', 'a', 'n'] => some (.float (some (Binary64.nan negative)))
  | _ =>
    match digits? Char.isDigit body with
    | none => none
    | some (whole, rest) =>
      if whole.length > 1 ∧ whole.head? = some '0' then none
      else match rest with
        | [] =>
          let n : Int := digitsValue 10 whole
          some (.integer (if negative then -n else n))
        | '.' :: more =>
          match digits? Char.isDigit more with
          | some (frac, []) =>
            some (.float (floatValue negative (whole ++ frac) (-(frac.length : Int))))
          | some (frac, e :: expText) =>
            if e = 'e' ∨ e = 'E' then
              (exponent? expText).map fun x =>
                .float (floatValue negative (whole ++ frac) (x - frac.length))
            else none
          | none => none
        | e :: expText =>
          if e = 'e' ∨ e = 'E' then
            (exponent? expText).map fun x => .float (floatValue negative whole x)
          else none

/-- **An integer or float** filling a whole token. -/
def number? (tok : Input) : Option Node :=
  match tok with
  | '0' :: 'x' :: body => radixInteger? 16 isHex body
  | '0' :: 'o' :: body => radixInteger? 8 isOctal body
  | '0' :: 'b' :: body => radixInteger? 2 isBinary body
  | '-' :: body => decimal? true body
  | '+' :: body => decimal? false body
  | body => decimal? false body

/-! ## Date-times -/

/-- Two decimal digits and their value. -/
def twoDigits? : Input → Option (Nat × Input)
  | a :: b :: rest =>
    if a.isDigit ∧ b.isDigit then some (digitValue a * 10 + digitValue b, rest) else none
  | _ => none

/-- A full date `YYYY-MM-DD` with its month from 1 to 12 and its day within the month. -/
def date? : Input → Option Input
  | a :: b :: c :: d :: '-' :: rest =>
    if !(a.isDigit ∧ b.isDigit ∧ c.isDigit ∧ d.isDigit) then none else
    let year := ((digitValue a * 10 + digitValue b) * 10 + digitValue c) * 10 + digitValue d
    match twoDigits? rest with
    | some (month, '-' :: more) =>
      match twoDigits? more with
      | some (day, rest') =>
        if 1 ≤ month ∧ month ≤ 12 ∧ 1 ≤ day ∧ day ≤ Calendar.daysInMonth year month then
          some rest'
        else none
      | none => none
    | _ => none
  | _ => none

/-- A time `HH:MM`, optionally `:SS` and a fraction, with hour, minute and second in range
(a leap second 60 included). -/
def time? (cs : Input) : Option Input :=
  match twoDigits? cs with
  | some (hour, ':' :: rest) =>
    match twoDigits? rest with
    | some (minute, more) =>
      if hour > 23 ∨ minute > 59 then none
      else match more with
        | ':' :: secs =>
          match twoDigits? secs with
          | some (second, '.' :: frac) =>
            if second > 60 then none
            else match frac with
              | c :: _ => if c.isDigit then some (frac.dropWhile Char.isDigit) else none
              | [] => none
          | some (second, rest') => if second > 60 then none else some rest'
          | none => none
        | _ => some more
    | none => none
  | _ => none

/-- A time offset `Z`, `z` or `±HH:MM`, in range. -/
def offset? : Input → Option Input
  | 'Z' :: rest => some rest
  | 'z' :: rest => some rest
  | s :: rest =>
    if s = '+' ∨ s = '-' then
      match twoDigits? rest with
      | some (hours, ':' :: more) =>
        match twoDigits? more with
        | some (minutes, rest') => if hours ≤ 23 ∧ minutes ≤ 59 then some rest' else none
        | none => none
      | _ => none
    else none
  | [] => none

/-- Whether a token reads as a date-time: a date, optionally followed by a time and an
offset, or a time alone. -/
def isDatetime (tok : Input) : Bool :=
  match date? tok with
  | some [] => true
  | some (c :: rest) =>
    (c = 'T' ∨ c = 't' ∨ c = ' ') &&
      match time? rest with
      | some [] => true
      | some more => offset? more == some []
      | none => false
  | none => time? tok == some []

/-- Whether a token starts the way a date (`DDDD-`) or a time (`DD:`) does. -/
def looksLikeDatetime : Input → Bool
  | a :: b :: c :: d :: '-' :: _ => a.isDigit && b.isDigit && c.isDigit && d.isDigit
  | a :: b :: ':' :: _ => a.isDigit && b.isDigit
  | _ => false

/-- Characters of a number or date-time token. -/
def isTokenChar (c : Char) : Bool :=
  c.isAlphanum || c = '_' || c = '+' || c = '-' || c = '.' || c = ':'

/-- The token of a number or date-time, and the rest; a date followed by a space and a digit
continues with the time. -/
def scalarToken (cs : Input) : Input × Input :=
  let tok := cs.takeWhile isTokenChar
  let rest := cs.dropWhile isTokenChar
  match rest with
  | ' ' :: d :: more =>
    if tok.length = 10 ∧ looksLikeDatetime tok ∧ d.isDigit then
      (tok ++ ' ' :: (d :: more).takeWhile isTokenChar, (d :: more).dropWhile isTokenChar)
    else (tok, rest)
  | _ => (tok, rest)

/-- **A number or date-time** at the start of the text. -/
def numberOrDatetime? (cs : Input) : Option (Node × Input) :=
  let (tok, rest) := scalarToken cs
  if tok.isEmpty then none
  else if looksLikeDatetime tok then
    if isDatetime tok then some (.datetime (String.ofList tok), rest) else none
  else (number? tok).map (·, rest)

end Toml

end Catalog
