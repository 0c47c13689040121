import Catalog.Search.Pattern
import Mathlib

/-!
# Substring patterns match substrings

`containsPattern q` is the `LIKE` pattern of the names that contain `q`: a `%`, the query
with a backslash before each `\`, `%` and `_`, and a `%`.  Read as a pattern, the escaped
query is the query's characters as literals and nothing else (`compile_escapePattern_append`):
each backslash the escaping adds is dropped again, and no `%`, `_` or lone backslash of the
query keeps a meaning of its own.  So the pattern is "any run, the query, any run", which
matches a text exactly when the query occurs in it (`containsPattern_matches_iff_infix`).

The proof runs on three facts about `Like.matchesTokens`:

* `matchesTokens_anyRun_iff`: `%` matches when the rest matches some suffix of the text;
* `matchesTokens_literals_append_iff`: literals match exactly a prefix equal to them;
* `matchesTokens_anyRun_single`: a final `%` matches every text.
-/

namespace Catalog

namespace Like

/-! ### Reading a pattern -/

theorem compile_cons_of_not_special {c : Char} (h : isPatternSpecial c = false)
    (rest : List Char) : compile (c :: rest) = (compile rest).map (.literal c :: ·) := by
  simp only [isPatternSpecial, Bool.or_eq_false_iff, decide_eq_false_iff_not] at h
  obtain ⟨⟨hslash, hpercent⟩, hunderscore⟩ := h
  rw [compile.eq_def]
  split <;> simp_all

/-- **An escaped query reads as its own characters**, whatever pattern follows it: the
escaping backslashes are dropped and every character is a literal. -/
theorem compile_escapePattern_append (q rest : List Char) :
    compile (escapePattern q ++ rest) = (compile rest).map (q.map .literal ++ ·) := by
  induction q with
  | nil => simp [escapePattern]
  | cons c q ih =>
    by_cases hc : isPatternSpecial c = true
    · -- a special character comes after a backslash, which makes it a literal
      simp only [escapePattern, hc, if_true, List.cons_append, compile, ih, Option.map_map]
      rfl
    · simp only [escapePattern, hc, Bool.false_eq_true, if_false, List.cons_append,
        compile_cons_of_not_special (Bool.eq_false_iff.mpr hc), ih, Option.map_map]
      rfl

/-! ### Matching -/

theorem suffixes_eq_tails (s : List Char) : suffixes s = s.tails := by
  induction s with
  | nil => rfl
  | cons c rest ih => rw [suffixes, ih, List.tails]

/-- `%` matches a text when the rest of the pattern matches one of its suffixes. -/
theorem matchesTokens_anyRun_iff (ps : List Token) (s : List Char) :
    matchesTokens (.anyRun :: ps) s = true ↔ ∃ t, t <:+ s ∧ matchesTokens ps t = true := by
  simp only [matchesTokens, List.any_eq_true, suffixes_eq_tails, List.mem_tails]

/-- A final `%` matches every text, the empty one included. -/
theorem matchesTokens_anyRun_single (s : List Char) : matchesTokens [.anyRun] s = true :=
  (matchesTokens_anyRun_iff [] s).mpr ⟨[], List.nil_suffix, rfl⟩

/-- **Literals match exactly their own characters** at the front of the text; the rest of
the pattern matches what follows. -/
theorem matchesTokens_literals_append_iff (q : List Char) (ps : List Token) (s : List Char) :
    matchesTokens (q.map .literal ++ ps) s = true ↔
      ∃ u, s = q ++ u ∧ matchesTokens ps u = true := by
  induction q generalizing s with
  | nil => simp
  | cons c q ih =>
    cases s with
    | nil => simp [matchesTokens]
    | cons d s =>
      simp only [List.map_cons, List.cons_append, matchesTokens, Bool.and_eq_true,
        decide_eq_true_eq, ih, List.cons.injEq]
      constructor
      · rintro ⟨rfl, u, rfl, hu⟩
        exact ⟨u, ⟨rfl, rfl⟩, hu⟩
      · rintro ⟨u, ⟨rfl, rfl⟩, hu⟩
        exact ⟨rfl, u, rfl, hu⟩

end Like

/-! ### The pattern of a query -/

open Like in
/-- **The pattern of a query matches exactly the texts that contain it.**  The pattern is a
`%`, an escaped query and a `%`; the escaped query reads as the query's characters, each a
literal, with no wildcard and no lone backslash left.  Under `LIKE` with the backslash as
escape, the pattern then matches a text exactly when the query occurs in it as a contiguous
run of characters. -/
theorem containsPattern_matches_iff_infix (q : String) :
    (∃ e, (containsPattern q).toList = '%' :: e ++ ['%'] ∧
      compile e = some (q.toList.map .literal)) ∧
    ∀ s : String, isMatch (containsPattern q) s = true ↔ q.toList <:+: s.toList := by
  have hescaped := compile_escapePattern_append q.toList []
  simp only [compile, Option.map_some, List.append_nil] at hescaped
  refine ⟨⟨escapePattern q.toList, by simp [containsPattern], hescaped⟩, fun s => ?_⟩
  -- the whole pattern reads as: any run, the query's characters, any run
  have hcompile : compile (containsPattern q).toList =
      some (.anyRun :: q.toList.map .literal ++ [.anyRun]) := by
    simp [containsPattern, compile, compile_escapePattern_append]
  rw [isMatch, hcompile, List.infix_iff_prefix_suffix]
  simp only [List.cons_append, matchesTokens_anyRun_iff, matchesTokens_literals_append_iff,
    matchesTokens_anyRun_single, and_true]
  constructor
  · rintro ⟨t, hsuffix, u, rfl⟩
    exact ⟨q.toList ++ u, List.prefix_append q.toList u, hsuffix⟩
  · rintro ⟨t, ⟨u, rfl⟩, hsuffix⟩
    exact ⟨q.toList ++ u, hsuffix, u, rfl⟩

example : Like.isMatch (containsPattern "raw_") "raw_events" = true := by decide
example : Like.isMatch (containsPattern "raw_") "rawXevents" = false := by decide

end Catalog
