/-!
# Blank characters and trimming

The blank characters are those of the Unicode `White_Space` property: the ASCII tab, line
feed, vertical tab, form feed, carriage return and space, next line (U+0085), no-break space
(U+00A0), the ogham space mark (U+1680), the spaces U+2000 to U+200A, the line and paragraph
separators (U+2028, U+2029), the narrow no-break space (U+202F), the medium mathematical
space (U+205F) and the ideographic space (U+3000). Zero-width characters such as U+200B and
U+FEFF are not blank.

* `Text.trim`: drops blanks at both ends.
* `Text.isBlank`: the whole text is blank (or empty).
-/

namespace Catalog

namespace Text

/-- **Blank characters**: the Unicode `White_Space` property. -/
def isBlankChar (c : Char) : Bool :=
  let n := c.toNat
  (9 ≤ n && n ≤ 13) || n = 32 || n = 0x85 || n = 0xA0 || n = 0x1680 ||
    (0x2000 ≤ n && n ≤ 0x200A) || n = 0x2028 || n = 0x2029 || n = 0x202F || n = 0x205F ||
    n = 0x3000

/-- Drops blank characters from the front of a list. -/
def dropBlank : List Char → List Char
  | [] => []
  | c :: rest => if isBlankChar c then dropBlank rest else c :: rest

/-- **Trimming**: the text without blank characters at either end. -/
def trim (s : String) : String :=
  String.ofList (dropBlank (dropBlank s.toList).reverse).reverse

/-- Whether a text is empty once trimmed. -/
def isBlank (s : String) : Bool := s.toList.all isBlankChar

example : trim "　 job\n" = "job" := by decide
example : trim "​job" = "​job" := by decide

end Text

end Catalog
