import Catalog.Schema.Files
import Catalog.Text.Blank

/-!
# Expanding includes

The schema is one text assembled from files. A line that, trimmed, starts with `\ir ` and
names (trimmed) one of the includable files is replaced by that file's text; every other line
is kept. Lines are split at line feeds, a carriage return before a line feed is dropped, and
a final line feed ends the last line rather than starting an empty one. Each line, kept or
replaced, is followed by a line feed.

* `Schema.lines`: the line split.
* `Schema.expandIncludes`, `Schema.render`.
-/

namespace Catalog

namespace Schema

/-- Splits at line feeds, accumulating the current line in reverse. -/
def splitLines (current : List Char) : List Char → List (List Char)
  | [] => if current.isEmpty then [] else [current.reverse]
  | '\n' :: rest =>
    let line := match current with
      | '\r' :: more => more.reverse
      | _ => current.reverse
    line :: splitLines [] rest
  | c :: rest => splitLines (c :: current) rest

/-- **The lines of a text**, without their line ends. -/
def lines (s : String) : List String := (splitLines [] s.toList).map String.ofList

/-- What a line becomes: an included file's text, or the line itself. -/
def expandLine (line : String) : String :=
  let trimmed := (Text.trim line).toList
  if trimmed.take 4 = ['\\', 'i', 'r', ' '] then
    match includable.lookup (Text.trim (String.ofList (trimmed.drop 4))) with
    | some text => text
    | none => line
  else line

/-- **Expanding includes**: every line expanded and followed by a line feed. -/
def expandIncludes (sql : String) : String :=
  String.join ((lines sql).map fun line => expandLine line ++ "\n")

/-- The whole schema. -/
def render : String := expandIncludes initFile

end Schema

end Catalog
