import Catalog.Toml.Scalar

/-!
# Reading TOML documents

A document is read line by line. A line holds nothing, a comment, a key-value pair, a
`[table]` header or an `[[array]]` header, each with blanks around it and an optional comment
after it, and ends with LF, CR LF or the end of the text. A leading byte order mark is skipped.

Keys are bare (ASCII letters, digits, `-`, `_`) or quoted with either kind of one-line string,
and dotted keys join several with `.`, blanks allowed around the dots, up to 80 parts. A
value stays on its line, except inside an array or an inline table, where blanks, comments
and line breaks may stand between elements and separators, and a trailing comma is allowed.
Arrays and inline tables nest at most 80 deep.

Every pair and header updates the `Document`, which refuses what the document model refuses;
`parse` gives the root table, or `none` for a text that is not a TOML document.

Nesting is read with fuel three times the length of the text: each step down into a value
consumes a character on the way, so the fuel never runs out first.
-/

namespace Catalog

namespace Toml

/-- Characters a comment may hold. -/
def isCommentChar (c : Char) : Bool := c = '\t' || (' ' ≤ c && c ≤ '~') || c.toNat ≥ 0x80

/-- Skips a comment, if one starts here, up to its line break. -/
def skipComment : Input → Input
  | '#' :: rest => rest.dropWhile isCommentChar
  | cs => cs

/-- Skips blanks, comments and line breaks. -/
def skipLayout : Nat → Input → Input
  | 0, cs => cs
  | fuel + 1, cs =>
    let cs := skipComment (skipBlank cs)
    match newline? cs with
    | some rest => skipLayout fuel rest
    | none => cs

/-- Characters of a bare key. -/
def isBareKeyChar (c : Char) : Bool := c.isAlphanum || c = '-' || c = '_'

/-- One part of a key. -/
def simpleKey : Input → Option (String × Input)
  | '"' :: rest => basicString (rest.length + 1) [] rest
  | '\'' :: rest => literalString [] rest
  | cs =>
    let k := cs.takeWhile isBareKeyChar
    if k.isEmpty then none else some (String.ofList k, cs.dropWhile isBareKeyChar)

/-- The parts of a dotted key, accumulated in reverse. -/
def keyParts : Nat → List String → Input → Option (List String × Input)
  | 0, _, _ => none
  | fuel + 1, acc, cs =>
    match simpleKey cs with
    | none => none
    | some (k, rest) =>
      match skipBlank rest with
      | '.' :: more => keyParts fuel (k :: acc) (skipBlank more)
      | _ => some ((k :: acc).reverse, rest)

/-- The most parts a dotted key may have. -/
def maxKeyParts : Nat := 80

/-- The most arrays and inline tables a value may nest. -/
def maxNesting : Nat := 80

/-- A key, plain or dotted, of at most `maxKeyParts` parts. -/
def key? (cs : Input) : Option (DottedKey × Input) := do
  let (parts, rest) ← keyParts (cs.length + 1) [] cs
  if parts.length > maxKeyParts then none
  let k ← DottedKey.ofPath parts
  some (k, rest)

mutual
/-- A value inside `depth` arrays and inline tables. -/
def value : Nat → Nat → Input → Option (Node × Input)
  | 0, _, _ => none
  | fuel + 1, depth, cs =>
    match cs with
    | '"' :: _ => (string? cs).map fun (s, r) => (.string s, r)
    | '\'' :: _ => (string? cs).map fun (s, r) => (.string s, r)
    | '[' :: rest => if depth ≥ maxNesting then none else arrayItems fuel (depth + 1) [] rest
    | '{' :: rest => if depth ≥ maxNesting then none else inlineMembers fuel (depth + 1) [] rest
    | 't' :: 'r' :: 'u' :: 'e' :: rest => some (.boolean true, rest)
    | 'f' :: 'a' :: 'l' :: 's' :: 'e' :: rest => some (.boolean false, rest)
    | _ => numberOrDatetime? cs

/-- The elements of an array after `[` or after a comma. -/
def arrayItems : Nat → Nat → List Node → Input → Option (Node × Input)
  | 0, _, _, _ => none
  | fuel + 1, depth, acc, cs =>
    match skipLayout (cs.length + 1) cs with
    | ']' :: rest => some (.array acc.reverse, rest)
    | cs' =>
      match value fuel depth cs' with
      | none => none
      | some (v, rest) =>
        match skipLayout (rest.length + 1) rest with
        | ',' :: more => arrayItems fuel depth (v :: acc) more
        | ']' :: more => some (.array (v :: acc).reverse, more)
        | _ => none

/-- The members of an inline table after `{` or after a comma. -/
def inlineMembers : Nat → Nat → List (DottedKey × Node) → Input → Option (Node × Input)
  | 0, _, _, _ => none
  | fuel + 1, depth, acc, cs =>
    match skipLayout (cs.length + 1) cs with
    | '}' :: rest => (inlineTable acc.reverse).map (·, rest)
    | cs' =>
      match keyValue fuel depth cs' with
      | none => none
      | some (kv, rest) =>
        match skipLayout (rest.length + 1) rest with
        | ',' :: more => inlineMembers fuel depth (kv :: acc) more
        | '}' :: more => (inlineTable (kv :: acc).reverse).map (·, more)
        | _ => none

/-- A key-value pair: key, `=`, value, blanks between. -/
def keyValue : Nat → Nat → Input → Option ((DottedKey × Node) × Input)
  | 0, _, _ => none
  | fuel + 1, depth, cs =>
    match key? cs with
    | none => none
    | some (k, rest) =>
      match skipBlank rest with
      | '=' :: more => (value fuel depth (skipBlank more)).map fun (v, r) => ((k, v), r)
      | _ => none
end

/-- A header's key between its brackets, and the rest after the closing bracket(s). -/
def headerKey (closing : Input) (cs : Input) : Option (DottedKey × Input) := do
  let (k, rest) ← key? (skipBlank cs)
  let rest := skipBlank rest
  if rest.take closing.length = closing then some (k, rest.drop closing.length) else none

/-- One line's content, up to its trailing blanks and comment. -/
def line (d : Document) (cs : Input) : Option (Document × Input) :=
  match skipBlank cs with
  | '[' :: '[' :: rest => do
    let (k, more) ← headerKey [']', ']'] rest
    let d' ← d.arrayTable k
    some (d', more)
  | '[' :: rest => do
    let (k, more) ← headerKey [']'] rest
    let d' ← d.table k
    some (d', more)
  | [] => some (d, [])
  | c :: rest =>
    if c = '#' ∨ c = '\n' ∨ c = '\r' then some (d, c :: rest)
    else do
      let ((k, v), more) ← keyValue (3 * cs.length + 3) 0 (c :: rest)
      let d' ← d.keyValue k v
      some (d', more)

/-- The lines of a document from the current position. -/
def lines : Nat → Document → Input → Option Document
  | 0, _, _ => none
  | fuel + 1, d, cs =>
    match line d cs with
    | none => none
    | some (d', rest) =>
      match skipComment (skipBlank rest) with
      | [] => some d'
      | rest' =>
        match newline? rest' with
        | some more => lines fuel d' more
        | none => none

/-- **Reads a TOML document**: its root table, or `none` when the text is not one. -/
def parse (text : String) : Option Node :=
  let cs := match text.toList with
    | '\uFEFF' :: rest => rest
    | cs => cs
  (lines (cs.length + 1) {} cs).map fun d => .table .header d.root

end Toml

end Catalog
