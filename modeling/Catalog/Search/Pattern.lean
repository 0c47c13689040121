/-!
# Substring patterns

Name search matches with SQL `LIKE` patterns: `%` stands for any run of characters, `_` for
any one character, and a backslash makes the next character stand for itself. A query is
turned into the pattern of "contains the query": each `\`, `%` and `_` of the query escaped,
the whole wrapped in `%`.

* `containsPattern`: the pattern of a query.
* `Like.compile`, `Like.isMatch`: the meaning of a pattern, for stating what
  `containsPattern` achieves.
-/

namespace Catalog

/-- Whether a character has a meaning of its own in a pattern. -/
def isPatternSpecial (c : Char) : Bool := c = '\\' || c = '%' || c = '_'

/-- A query's characters, each special one preceded by a backslash. -/
def escapePattern : List Char → List Char
  | [] => []
  | c :: rest => if isPatternSpecial c then '\\' :: c :: escapePattern rest
    else c :: escapePattern rest

/-- **The pattern of names containing `query`**: `%`, the escaped query, `%`. -/
def containsPattern (query : String) : String :=
  String.ofList ('%' :: escapePattern query.toList ++ ['%'])

namespace Like

/-- One element of a compiled pattern. -/
inductive Token where
  /-- `%`: any run of characters, the empty one included. -/
  | anyRun
  /-- `_`: any one character. -/
  | anyOne
  /-- A character that stands for itself. -/
  | literal (c : Char)
  deriving DecidableEq, Repr

/-- The tokens of a pattern; `none` when it ends in a lone backslash. -/
def compile : List Char → Option (List Token)
  | [] => some []
  | ['\\'] => none
  | '\\' :: c :: rest => (compile rest).map (.literal c :: ·)
  | '%' :: rest => (compile rest).map (.anyRun :: ·)
  | '_' :: rest => (compile rest).map (.anyOne :: ·)
  | c :: rest => (compile rest).map (.literal c :: ·)

/-- Every suffix of a list, the list itself first and the empty list last. -/
def suffixes : List Char → List (List Char)
  | [] => [[]]
  | c :: rest => (c :: rest) :: suffixes rest

/-- **Whether tokens match a whole text**: `%` matches when the rest of the pattern matches
some suffix of the text. -/
def matchesTokens : List Token → List Char → Bool
  | [], s => s.isEmpty
  | .anyRun :: ps, s => (suffixes s).any (matchesTokens ps)
  | .anyOne :: _, [] => false
  | .anyOne :: ps, _ :: s => matchesTokens ps s
  | .literal _ :: _, [] => false
  | .literal d :: ps, c :: s => c = d && matchesTokens ps s

/-- Whether a pattern matches a whole text; a malformed pattern matches nothing. -/
def isMatch (pattern text : String) : Bool :=
  match compile pattern.toList with
  | some ps => matchesTokens ps text.toList
  | none => false

example : isMatch (containsPattern "a_b") "xxa_byy" = true := by decide
example : isMatch (containsPattern "a_b") "xxacbyy" = false := by decide

end Like

end Catalog
