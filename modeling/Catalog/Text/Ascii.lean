/-!
# ASCII case

Case folding that touches the ASCII letters only: `a` to `z` and `A` to `Z` change case, and
every other character, non-ASCII letters included, stays as it is. So `ｊｏｂ` (fullwidth) or
`İ` (dotted capital I) never fold onto an ASCII word.

* `Text.asciiUpper`, `Text.asciiLower`: the folded texts.
* `Text.equalsIgnoringAsciiCase`: equality after folding both sides.
-/

namespace Catalog

namespace Text

/-- Upper case of an ASCII letter; any other character unchanged. -/
def upperChar (c : Char) : Char :=
  if 'a' ≤ c ∧ c ≤ 'z' then Char.ofNat (c.toNat - 32) else c

/-- Lower case of an ASCII letter; any other character unchanged. -/
def lowerChar (c : Char) : Char :=
  if 'A' ≤ c ∧ c ≤ 'Z' then Char.ofNat (c.toNat + 32) else c

/-- The text with its ASCII letters in upper case. -/
def asciiUpper (s : String) : String := String.ofList (s.toList.map upperChar)

/-- The text with its ASCII letters in lower case. -/
def asciiLower (s : String) : String := String.ofList (s.toList.map lowerChar)

/-- **ASCII-insensitive equality**: the texts agree once their ASCII letters share a case. -/
def equalsIgnoringAsciiCase (a b : String) : Bool :=
  a.toList.map lowerChar == b.toList.map lowerChar

example : asciiUpper "jOb" = "JOB" := by decide
example : equalsIgnoringAsciiCase "İnput" "input" = false := by decide

end Text

end Catalog
