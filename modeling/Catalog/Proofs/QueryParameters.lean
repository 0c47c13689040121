import Catalog.Http.Query
import Catalog.Proofs.Federated

/-!
# What a query string asks for

A search request is read from the pairs of a query string in two steps.  `SearchQuery.ofPairs`
folds the pairs into one value per parameter: a later pair of a scalar key overwrites an
earlier one, and every `facetNames` pair adds its comma-separated names.  So the parameters
are the last value of each scalar key and the facet names of all pairs in order
(`ofPairs_eq`); keys the search does not know change nothing.

`toFull` and `toSimple` then check the parameters one after another and stop at the first one
at fault, which names itself in the error (`toFull_refusal`, `toSimple_refusal`).  The proofs
run on one rule, `RefusedAtFirst`: it holds of a single check whose refusals name it, and it
carries over from checks to the checks that follow them (`RefusedAtFirst.bind`), so a request
is handled one parameter at a time.  A full request is the simple request followed by the
checks of the offset and of the facets (`toFull_eq_toSimple_bind`), so the two agree on every
field they share, and a simple request never looks at the offset, the facets or the facet
names.  A query that passes is not blank, so the service searches it.

The page size is read as a signed 64-bit decimal, so a value of `2 ^ 63` or more is refused
like a word, even though a value above the maximum page is otherwise taken and capped later;
an accepted value above `2 ^ 32 - 1` becomes `2 ^ 32 - 1`.  Under a validated configuration
the page a search asks for, once capped by the maximum, lies between the minimum and the
maximum.

* `SearchQuery.ofPairs_eq`: the last values and the facet names.
* `SearchQuery.toFull_refusal`, `SearchQuery.toSimple_refusal`: the first parameter at fault.
* `SearchQuery.ofPairs_requests`: all of it together, for every list of pairs.
* `parseLimit_some_eq_ok_iff`: the page sizes accepted, through `signed64?_eq_some_iff`.
* `SearchQuery.toFull_pageSize_mem`: every page asks for between the minimum and the maximum.
-/

namespace Catalog

/-! ### Steps of a check -/

namespace Except

variable {ε α β : Type}

@[simp] theorem error_bind (e : ε) (f : α → Except ε β) : (Except.error e >>= f) = .error e :=
  rfl

@[simp] theorem ok_bind (a : α) (f : α → Except ε β) : (Except.ok a >>= f) = f a := rfl

@[simp] theorem pure_eq_ok (a : α) : (pure a : Except ε α) = .ok a := rfl

theorem bind_eq_ok_iff {x : Except ε α} {f : α → Except ε β} {b : β} :
    x >>= f = .ok b ↔ ∃ a, x = .ok a ∧ f a = .ok b := by
  cases x <;> simp

end Except

/-! ### Validated page bounds -/

/-- A configuration that passes validation has a positive minimum page size and a default
between the minimum and the maximum. -/
theorem Config.validate_search {c : Config} (h : c.validate = .ok ()) :
    0 < c.search.minLimit ∧ c.search.minLimit ≤ c.search.defaultLimit ∧
      c.search.defaultLimit ≤ c.search.maxLimit := by
  -- every rule passed, each an `if` that refuses when its condition holds
  simp only [Config.validate, ite_eq_iff, reduceCtorEq, and_false, false_or, and_true] at h
  obtain ⟨-, -, -, -, hmin, hmax, hdefault, -⟩ := h
  omega

namespace Http

/-! ### Collecting the pairs -/

namespace SearchQuery

/-- The value of the last pair with this key, if any. -/
def lastValue (key : String) (pairs : List (String × String)) : Option String :=
  pairs.reverse.lookup key

/-- The facet names of all `facetNames` pairs, in order. -/
def facetNamesOf (pairs : List (String × String)) : List String :=
  (pairs.filter fun p => p.1 = "facetNames").flatMap fun p => facetNameList p.2

/-- One pair overwrites the parameter of its key, or adds to the facet names. -/
theorem add_eq (s : SearchQuery) (k v : String) :
    s.add (k, v) =
      { q := if k = "q" then some v else s.q
        filter := if k = "filter" then some v else s.filter
        sort := if k = "sort" then some v else s.sort
        limit := if k = "limit" then some v else s.limit
        offset := if k = "offset" then some v else s.offset
        namespaceName := if k = "namespace" then some v else s.namespaceName
        facets := if k = "facets" then some v else s.facets
        facetNames := if k = "facetNames" then s.facetNames ++ facetNameList v
          else s.facetNames } := by
  unfold add
  split <;> simp_all

theorem lookup_singleton_or (key k v : String) (o : Option String) :
    ([(k, v)].lookup key).or o = if k = key then some v else o := by
  by_cases h : k = key
  · simp [h]
  · have hne : (key == k) = false := beq_eq_false_iff_ne.mpr (Ne.symm h)
    simp [List.lookup_cons, hne, h]

/-- Folding pairs into parameters: the last pair of each scalar key wins over what was
there, and the facet names of the pairs follow those already collected. -/
theorem foldl_add (s : SearchQuery) (pairs : List (String × String)) :
    pairs.foldl add s =
      { q := (lastValue "q" pairs).or s.q
        filter := (lastValue "filter" pairs).or s.filter
        sort := (lastValue "sort" pairs).or s.sort
        limit := (lastValue "limit" pairs).or s.limit
        offset := (lastValue "offset" pairs).or s.offset
        namespaceName := (lastValue "namespace" pairs).or s.namespaceName
        facets := (lastValue "facets" pairs).or s.facets
        facetNames := s.facetNames ++ facetNamesOf pairs } := by
  induction pairs generalizing s with
  | nil => simp [lastValue, facetNamesOf]
  | cons p rest ih =>
    obtain ⟨k, v⟩ := p
    rw [List.foldl_cons, ih, add_eq]
    -- the first pair is the last one of `pairs.reverse`, so it only counts if no later pair
    -- has its key
    simp only [lastValue, List.reverse_cons, List.lookup_append, Option.or_assoc,
      lookup_singleton_or, facetNamesOf, List.filter_cons]
    by_cases h : k = "facetNames" <;> simp [h]

/-- **The parameters of a query string** are the last value of each scalar key and the facet
names of all `facetNames` pairs, in order; other keys are ignored. -/
theorem ofPairs_eq (pairs : List (String × String)) :
    ofPairs pairs =
      ⟨lastValue "q" pairs, lastValue "filter" pairs, lastValue "sort" pairs,
        lastValue "limit" pairs, lastValue "offset" pairs, lastValue "namespace" pairs,
        lastValue "facets" pairs, facetNamesOf pairs⟩ := by
  simp [ofPairs, foldl_add]

end SearchQuery

/-! ### Each parameter's refusal names it -/

section Refusals

variable {raw : Option String} {e : ApiError}

theorem requiredQuery_refuses (h : requiredQuery raw = .error e) :
    e = .invalidField "q" "q is required and must not be blank." := by
  cases raw with
  | none => exact (Except.error.inj h).symm
  | some q =>
    simp only [requiredQuery] at h
    split at h
    · exact (Except.error.inj h).symm
    · cases h

theorem requiredQuery_eq_ok {q : String} (h : requiredQuery raw = .ok q) :
    raw = some q ∧ Text.isBlank q = false := by
  cases raw with
  | none => cases h
  | some q' =>
    simp only [requiredQuery] at h
    split at h
    · cases h
    · rename_i hblank
      cases h
      simpa using hblank

theorem parseFilter_refuses (h : parseFilter raw = .error e) :
    e = .invalidField "filter" "filter must be one of dataset or job." := by
  cases raw with
  | none => cases h
  | some raw =>
    simp only [parseFilter] at h
    split at h
    · cases h
    · exact (Except.error.inj h).symm

theorem parseSort_refuses (h : parseSort raw = .error e) :
    e = .invalidField "sort" "sort must be one of name or updated_at." := by
  cases raw with
  | none => cases h
  | some raw =>
    simp only [parseSort] at h
    split at h
    · cases h
    · exact (Except.error.inj h).symm

theorem parseLimit_refuses {cfg : SearchSettings} (h : parseLimit cfg raw = .error e) :
    e = .invalidField "limit"
      ("limit must be an integer of at least " ++ toString cfg.minLimit ++ ".") := by
  cases raw with
  | none => cases h
  | some raw =>
    simp only [parseLimit] at h
    split at h
    · split at h
      · exact (Except.error.inj h).symm
      · cases h
    · exact (Except.error.inj h).symm

theorem parseOffset_refuses (h : parseOffset raw = .error e) :
    e = .invalidField "offset" "offset must be a non-negative integer." := by
  cases raw with
  | none => cases h
  | some raw =>
    simp only [parseOffset] at h
    split at h
    · cases h
    · exact (Except.error.inj h).symm

theorem parseFacets_refuses (h : parseFacets raw = .error e) :
    e = .invalidField "facets" "facets must be true or false." := by
  cases raw with
  | none => cases h
  | some raw =>
    simp only [parseFacets] at h
    split at h
    · cases h
    · cases h
    · exact (Except.error.inj h).symm

end Refusals

/-! ### The page size -/

/-- The value of decimal digits, the most significant first. -/
def digitsValue (ds : List Char) : Nat :=
  Nat.ofDigits 10 (ds.map fun c => c.toNat - 48).reverse

theorem digitsValue_cons (c : Char) (ds : List Char) :
    digitsValue (c :: ds) = (c.toNat - 48) * 10 ^ ds.length + digitsValue ds := by
  rw [digitsValue, digitsValue, List.map_cons, List.reverse_cons, Nat.ofDigits_append]
  simp only [List.length_reverse, List.length_map, Nat.ofDigits_singleton]
  ring

theorem foldlM_digit (ds : List Char) (acc : Nat) :
    ds.foldlM (fun acc c => if c.isDigit then some (acc * 10 + (c.toNat - 48)) else none) acc =
      if ds.all Char.isDigit then some (acc * 10 ^ ds.length + digitsValue ds) else none := by
  induction ds generalizing acc with
  | nil => simp [digitsValue]
  | cons c ds ih =>
    by_cases hc : c.isDigit = true
    · simp only [List.foldlM_cons, hc, if_true, Option.bind_eq_bind, Option.bind_some, ih,
        List.all_cons, Bool.true_and, digitsValue_cons, List.length_cons]
      split
      · congr 1
        ring
      · rfl
    · simp [hc]

theorem decimal?_eq_some_iff {ds : List Char} {n : Nat} :
    decimal? ds = some n ↔ ds ≠ [] ∧ ds.all Char.isDigit ∧ n = digitsValue ds := by
  cases ds with
  | nil => simp [decimal?]
  | cons c ds =>
    simp only [decimal?, List.isEmpty_cons, Bool.false_eq_true, if_false, foldlM_digit,
      Nat.zero_mul, Nat.zero_add]
    by_cases hall : (c :: ds).all Char.isDigit = true
    · simp only [hall, if_true, Option.some.injEq, ne_eq, reduceCtorEq, not_false_eq_true,
        true_and]
      exact eq_comm
    · simp [hall]

/-- A decimal numeral of `v`: ASCII digits, with an optional `+` or `-` before them. -/
inductive SignedDecimal : List Char → Int → Prop
  | unsigned {ds : List Char} : ds ≠ [] → ds.all Char.isDigit →
      SignedDecimal ds (digitsValue ds)
  | plus {ds : List Char} : ds ≠ [] → ds.all Char.isDigit →
      SignedDecimal ('+' :: ds) (digitsValue ds)
  | minus {ds : List Char} : ds ≠ [] → ds.all Char.isDigit →
      SignedDecimal ('-' :: ds) (-(digitsValue ds : Int))

theorem signedDecimal_plus_iff {ds : List Char} {v : Int} :
    SignedDecimal ('+' :: ds) v ↔ ds ≠ [] ∧ ds.all Char.isDigit ∧ v = digitsValue ds := by
  constructor
  · intro h
    generalize hcs : '+' :: ds = cs at h
    cases h with
    | unsigned hne hall =>
      subst hcs
      simp at hall
    | plus hne hall =>
      obtain ⟨-, rfl⟩ := List.cons.inj hcs
      exact ⟨hne, hall, rfl⟩
    | minus => exact absurd (List.cons.inj hcs).1 (by decide)
  · rintro ⟨hne, hall, rfl⟩
    exact .plus hne hall

theorem signedDecimal_minus_iff {ds : List Char} {v : Int} :
    SignedDecimal ('-' :: ds) v ↔
      ds ≠ [] ∧ ds.all Char.isDigit ∧ v = -(digitsValue ds : Int) := by
  constructor
  · intro h
    generalize hcs : '-' :: ds = cs at h
    cases h with
    | unsigned hne hall =>
      subst hcs
      simp at hall
    | plus => exact absurd (List.cons.inj hcs).1 (by decide)
    | minus hne hall =>
      obtain ⟨-, rfl⟩ := List.cons.inj hcs
      exact ⟨hne, hall, rfl⟩
  · rintro ⟨hne, hall, rfl⟩
    exact .minus hne hall

theorem signedDecimal_digits_iff {ds : List Char} {v : Int}
    (hplus : ∀ rest, ds ≠ '+' :: rest) (hminus : ∀ rest, ds ≠ '-' :: rest) :
    SignedDecimal ds v ↔ ds ≠ [] ∧ ds.all Char.isDigit ∧ v = digitsValue ds := by
  constructor
  · intro h
    cases h with
    | unsigned hne hall => exact ⟨hne, hall, rfl⟩
    | plus => exact absurd rfl (hplus _)
    | minus => exact absurd rfl (hminus _)
  · rintro ⟨hne, hall, rfl⟩
    exact .unsigned hne hall

theorem natCast_le_two_pow_63 {n : Nat} : (n : Int) ≤ 2 ^ 63 ↔ n ≤ Nat.pow 2 63 := by
  have hbound : ((Nat.pow 2 63 : Nat) : Int) = 2 ^ 63 := by norm_num
  rw [← hbound, Int.ofNat_le]

theorem natCast_lt_two_pow_63 {n : Nat} : (n : Int) < 2 ^ 63 ↔ n < Nat.pow 2 63 := by
  have hbound : ((Nat.pow 2 63 : Nat) : Int) = 2 ^ 63 := by norm_num
  rw [← hbound, Int.ofNat_lt]

/-- Digits read as a value below `2 ^ 63`, as an unsigned or a `+` numeral is. -/
theorem bind_below_two_pow_63_eq_some {ds : List Char} {v : Int} :
    ((decimal? ds).bind fun n => if n < Nat.pow 2 63 then some (n : Int) else none) =
        some v ↔
      (ds ≠ [] ∧ ds.all Char.isDigit ∧ v = digitsValue ds) ∧
        -2 ^ 63 ≤ v ∧ v < 2 ^ 63 := by
  simp only [Option.bind_eq_some_iff, decimal?_eq_some_iff, Option.ite_none_right_eq_some,
    Option.some.injEq]
  constructor
  · rintro ⟨_, ⟨hne, hall, rfl⟩, hlt, rfl⟩
    have := natCast_lt_two_pow_63.mpr hlt
    exact ⟨⟨hne, hall, rfl⟩, by omega, this⟩
  · rintro ⟨⟨hne, hall, rfl⟩, -, hhi⟩
    exact ⟨_, ⟨hne, hall, rfl⟩, natCast_lt_two_pow_63.mp hhi, rfl⟩

/-- **A signed 64-bit decimal** is a decimal numeral, with an optional sign, of a value that
a signed 64-bit word holds. -/
theorem signed64?_eq_some_iff {s : String} {v : Int} :
    signed64? s = some v ↔ SignedDecimal s.toList v ∧ -2 ^ 63 ≤ v ∧ v < 2 ^ 63 := by
  unfold signed64?
  split
  · -- a minus sign: down to `-2 ^ 63`
    rename_i rest hs
    rw [hs, signedDecimal_minus_iff]
    simp only [Option.bind_eq_some_iff, decimal?_eq_some_iff, Option.ite_none_right_eq_some,
      Option.some.injEq]
    constructor
    · rintro ⟨_, ⟨hne, hall, rfl⟩, hle, rfl⟩
      have := natCast_le_two_pow_63.mpr hle
      exact ⟨⟨hne, hall, rfl⟩, by omega, by omega⟩
    · rintro ⟨⟨hne, hall, rfl⟩, hlo, -⟩
      exact ⟨_, ⟨hne, hall, rfl⟩, natCast_le_two_pow_63.mp (by omega), rfl⟩
  · rename_i rest hs
    rw [hs, signedDecimal_plus_iff]
    exact bind_below_two_pow_63_eq_some
  · rename_i cs hminus hplus
    rw [signedDecimal_digits_iff (fun rest h => hplus rest h) (fun rest h => hminus rest h)]
    exact bind_below_two_pow_63_eq_some

/-- A numeral has one value: its sign, if any, fixes the reading and its digits the value. -/
theorem SignedDecimal.unique {ds : List Char} {v w : Int} (hv : SignedDecimal ds v)
    (hw : SignedDecimal ds w) : v = w := by
  rcases ds with _ | ⟨c, rest⟩
  · cases hv with
    | unsigned hne => exact absurd rfl hne
  · by_cases hplus : c = '+'
    · subst hplus
      rw [signedDecimal_plus_iff] at hv hw
      rw [hv.2.2, hw.2.2]
    · by_cases hminus : c = '-'
      · subst hminus
        rw [signedDecimal_minus_iff] at hv hw
        rw [hv.2.2, hw.2.2]
      · have hp : ∀ r, c :: rest ≠ '+' :: r := fun r h => hplus (List.cons.inj h).1
        have hm : ∀ r, c :: rest ≠ '-' :: r := fun r h => hminus (List.cons.inj h).1
        rw [signedDecimal_digits_iff hp hm] at hv hw
        rw [hv.2.2, hw.2.2]

/-- A numeral of `2 ^ 63` or more is no signed 64-bit decimal. -/
theorem signed64?_eq_none_of_le {s : String} {v : Int} (hv : SignedDecimal s.toList v)
    (hbig : 2 ^ 63 ≤ v) : signed64? s = none := by
  cases h : signed64? s with
  | none => rfl
  | some w =>
    obtain ⟨hw, -, hlt⟩ := signed64?_eq_some_iff.mp h
    have hvw := hv.unique hw
    omega

/-- **The page size a request gives** is accepted exactly when, trimmed, it is a decimal
numeral, with an optional sign, of a value at least the minimum and below `2 ^ 63`; it is that
value, or `2 ^ 32 - 1` when larger. -/
theorem parseLimit_some_eq_ok_iff {cfg : SearchSettings} {raw : String} {n : Nat} :
    parseLimit cfg (some raw) = .ok n ↔
      ∃ v : Int, SignedDecimal (Text.trim raw).toList v ∧ cfg.minLimit ≤ v ∧ v < 2 ^ 63 ∧
        n = min v.toNat halfWordMax := by
  simp only [parseLimit]
  constructor
  · intro h
    split at h
    · rename_i v hv
      split at h
      · cases h
      · rename_i hmin
        cases h
        obtain ⟨hdec, -, hhi⟩ := signed64?_eq_some_iff.mp hv
        exact ⟨v, hdec, by omega, hhi, rfl⟩
    · cases h
  · rintro ⟨v, hdec, hmin, hhi, rfl⟩
    have hv : signed64? (Text.trim raw) = some v :=
      signed64?_eq_some_iff.mpr ⟨hdec, by omega, hhi⟩
    simp [hv, show ¬ v < cfg.minLimit by omega]

/-- A page size of `2 ^ 63` or more is refused, as a page size below the minimum is. -/
theorem parseLimit_of_two_pow_63_le {cfg : SearchSettings} {raw : String} {v : Int}
    (hv : SignedDecimal (Text.trim raw).toList v) (hbig : 2 ^ 63 ≤ v) :
    parseLimit cfg (some raw) = .error (.invalidField "limit"
      ("limit must be an integer of at least " ++ toString cfg.minLimit ++ ".")) := by
  simp only [parseLimit, signed64?_eq_none_of_le hv hbig]

theorem minLimit_le_of_parseLimit {cfg : SearchSettings} {raw : Option String} {n : Nat}
    (hword : cfg.minLimit ≤ halfWordMax) (hdefault : cfg.minLimit ≤ cfg.defaultLimit)
    (h : parseLimit cfg raw = .ok n) : cfg.minLimit ≤ n := by
  cases raw with
  | none =>
    cases h
    exact hdefault
  | some raw =>
    obtain ⟨v, -, hmin, -, rfl⟩ := parseLimit_some_eq_ok_iff.mp h
    omega

/-! ### The first parameter at fault -/

/-- The name of the first check that fails. -/
def firstInvalid (checks : List (String × Bool)) : Option String :=
  (checks.find? fun c => !c.2).map Prod.fst

theorem firstInvalid_append (l₁ l₂ : List (String × Bool)) :
    firstInvalid (l₁ ++ l₂) = (firstInvalid l₁).or (firstInvalid l₂) := by
  simp [firstInvalid, List.find?_append, Option.map_or]

/-- A result of checks run in order: it passes when no check fails, and otherwise it is a bad
request naming the first check that fails. -/
def RefusedAtFirst {ρ : Type} (checks : List (String × Bool)) : Except ApiError ρ → Prop
  | .ok _ => firstInvalid checks = none
  | .error e => ∃ f m, firstInvalid checks = some f ∧ e = .invalidField f m

/-- Refused at the first failing check: with status `400`, code `INVALID_REQUEST` and that
check's name as the one field, and exactly when some check fails. -/
theorem RefusedAtFirst.iff {ρ : Type} {checks : List (String × Bool)} {x : Except ApiError ρ}
    (h : RefusedAtFirst checks x) :
    (∀ e, x = .error e → ∃ f, firstInvalid checks = some f ∧
        e.status = 400 ∧ e.code = "INVALID_REQUEST" ∧ e.fields = some [f]) ∧
      ((∃ r, x = .ok r) ↔ firstInvalid checks = none) := by
  cases x with
  | error e =>
    obtain ⟨f, m, hf, rfl⟩ := h
    refine ⟨fun e' he' => ?_, ?_⟩
    · cases he'
      exact ⟨f, hf, rfl, rfl, rfl⟩
    · simp [hf]
  | ok r => exact ⟨fun e he => (by cases he), fun _ => h, fun _ => ⟨r, rfl⟩⟩

namespace RefusedAtFirst

variable {α β : Type} {c : String × Bool} {l₁ l₂ : List (String × Bool)}

/-- One check, whose refusals name it. -/
theorem single {f : String} {x : Except ApiError α}
    (h : ∀ e, x = .error e → ∃ m, e = .invalidField f m) :
    RefusedAtFirst [(f, x.isOk)] x := by
  cases x with
  | error e =>
    obtain ⟨m, rfl⟩ := h e rfl
    exact ⟨f, m, rfl, rfl⟩
  | ok a => rfl

/-- Checks followed by more checks: a refusal of the first ones stops the rest. -/
theorem bind {x : Except ApiError α} {g : α → Except ApiError β}
    (hx : RefusedAtFirst l₁ x) (hg : ∀ a, RefusedAtFirst l₂ (g a)) :
    RefusedAtFirst (l₁ ++ l₂) (x >>= g) := by
  cases x with
  | error e =>
    obtain ⟨f, m, hf, rfl⟩ := hx
    exact ⟨f, m, by rw [firstInvalid_append, hf]; rfl, rfl⟩
  | ok a =>
    -- the first checks all passed, so the rest decide
    have hnone : firstInvalid l₁ = none := hx
    have hrest := hg a
    rw [Except.ok_bind]
    cases hga : g a with
    | error e =>
      rw [hga] at hrest
      obtain ⟨f, m, hf, rfl⟩ := hrest
      exact ⟨f, m, by rw [firstInvalid_append, hnone, hf]; rfl, rfl⟩
    | ok b =>
      rw [hga] at hrest
      show firstInvalid (l₁ ++ l₂) = none
      rw [firstInvalid_append, hnone, hrest]
      rfl

theorem bind_cons {x : Except ApiError α} {g : α → Except ApiError β}
    (hx : RefusedAtFirst [c] x) (hg : ∀ a, RefusedAtFirst l₂ (g a)) :
    RefusedAtFirst (c :: l₂) (x >>= g) :=
  bind hx hg

theorem map {x : Except ApiError α} (g : α → β) (hx : RefusedAtFirst l₁ x) :
    RefusedAtFirst l₁ (g <$> x) := by
  cases x with
  | error e => exact hx
  | ok a => exact hx

end RefusedAtFirst

namespace SearchQuery

/-- Whether each parameter of a simple request passes, in the order they are checked. -/
def simpleChecks (s : SearchQuery) (cfg : SearchSettings) : List (String × Bool) :=
  [("q", (requiredQuery s.q).isOk), ("filter", (parseFilter s.filter).isOk),
    ("sort", (parseSort s.sort).isOk), ("limit", (parseLimit cfg s.limit).isOk)]

/-- Whether each parameter of a full request passes, in the order they are checked. -/
def fullChecks (s : SearchQuery) (cfg : SearchSettings) : List (String × Bool) :=
  s.simpleChecks cfg ++
    [("offset", (parseOffset s.offset).isOk), ("facets", (parseFacets s.facets).isOk)]

/-- **A full request is a simple one** with its offset and facets checked after it. -/
theorem toFull_eq_toSimple_bind (s : SearchQuery) (cfg : SearchSettings) :
    s.toFull cfg = (do
      let r ← s.toSimple cfg
      let offset ← parseOffset s.offset
      let facets ← parseFacets s.facets
      return { query := r.query, filter := r.filter, sort := r.sort, limit := r.limit, offset,
               namespaceName := r.namespaceName, facets,
               facetNames := if s.facetNames.isEmpty then none else some s.facetNames }) := by
  simp only [toFull, toSimple, bind_assoc, pure_bind]

/-- **A simple request** is refused for the first of its query, filter, sort and limit that is
at fault, with that parameter's name. -/
theorem toSimple_refusal (s : SearchQuery) (cfg : SearchSettings) :
    RefusedAtFirst (s.simpleChecks cfg) (s.toSimple cfg) := by
  -- one check per step of the request, each refusing with its own name
  unfold toSimple simpleChecks
  refine .bind_cons (.single fun e h => ⟨_, requiredQuery_refuses h⟩) fun query => ?_
  refine .bind_cons (.single fun e h => ⟨_, parseFilter_refuses h⟩) fun filter => ?_
  refine .bind_cons (.single fun e h => ⟨_, parseSort_refuses h⟩) fun sort => ?_
  exact .map _ (.single fun e h => ⟨_, parseLimit_refuses h⟩)

/-- **A full request** is refused for the first of its query, filter, sort, limit, offset and
facets that is at fault, with that parameter's name. -/
theorem toFull_refusal (s : SearchQuery) (cfg : SearchSettings) :
    RefusedAtFirst (s.fullChecks cfg) (s.toFull cfg) := by
  rw [toFull_eq_toSimple_bind, fullChecks]
  refine .bind (toSimple_refusal s cfg) fun r => ?_
  refine .bind_cons (.single fun e h => ⟨_, parseOffset_refuses h⟩) fun offset => ?_
  exact .map _ (.single fun e h => ⟨_, parseFacets_refuses h⟩)

/-- **A simple request passes** exactly when its query, filter, sort and limit do, and it
carries what they give. -/
theorem toSimple_eq_ok_iff {s : SearchQuery} {cfg : SearchSettings} {r : SimpleSearchRequest} :
    s.toSimple cfg = .ok r ↔
      requiredQuery s.q = .ok r.query ∧ parseFilter s.filter = .ok r.filter ∧
        parseSort s.sort = .ok r.sort ∧ parseLimit cfg s.limit = .ok r.limit ∧
        r.namespaceName = parseNamespace s.namespaceName := by
  obtain ⟨query, filter, sort, limit, ns⟩ := r
  simp only [toSimple, Except.bind_eq_ok_iff, Except.pure_eq_ok, Except.ok.injEq,
    SimpleSearchRequest.mk.injEq]
  constructor
  · rintro ⟨_, hq, _, hf, _, hs, _, hl, rfl, rfl, rfl, rfl, rfl⟩
    exact ⟨hq, hf, hs, hl, rfl⟩
  · rintro ⟨hq, hf, hs, hl, rfl⟩
    exact ⟨_, hq, _, hf, _, hs, _, hl, rfl, rfl, rfl, rfl, rfl⟩

/-- **A full request passes** exactly when the simple request of its parameters does and its
offset and facets do; the facet names are all those given, if any. -/
theorem toFull_eq_ok_iff {s : SearchQuery} {cfg : SearchSettings} {r : FullSearchRequest} :
    s.toFull cfg = .ok r ↔
      s.toSimple cfg = .ok ⟨r.query, r.filter, r.sort, r.limit, r.namespaceName⟩ ∧
        parseOffset s.offset = .ok r.offset ∧ parseFacets s.facets = .ok r.facets ∧
        r.facetNames = (if s.facetNames.isEmpty then none else some s.facetNames) := by
  obtain ⟨query, filter, sort, limit, offset, ns, facets, names⟩ := r
  simp only [toFull_eq_toSimple_bind, Except.bind_eq_ok_iff, Except.pure_eq_ok, Except.ok.injEq,
    FullSearchRequest.mk.injEq]
  constructor
  · rintro ⟨⟨_, _, _, _, _⟩, hr, _, ho, _, hc, rfl, rfl, rfl, rfl, rfl, rfl, rfl, rfl⟩
    exact ⟨hr, ho, hc, rfl⟩
  · rintro ⟨hr, ho, hc, rfl⟩
    exact ⟨_, hr, _, ho, _, hc, rfl, rfl, rfl, rfl, rfl, rfl, rfl, rfl⟩

/-- **A query string's search requests.**  The parameters are the last value of each of `q`,
`filter`, `sort`, `limit`, `offset`, `namespace` and `facets` and the facet names of all
`facetNames` pairs in order; nothing else counts.  A full request is refused, with status
`400`, code `INVALID_REQUEST` and the one field at fault, for the first of `q`, `filter`,
`sort`, `limit`, `offset` and `facets` that is invalid, and passes when none is.  A request
that passes has a query that is not blank, so the service searches it rather than refusing
it; it names facets only when some were given; and the simple request of the same pairs
passes with the same query, filter, sort, limit and namespace.  The simple request reads
neither the offset nor the facets nor their names: it is refused for the first of `q`,
`filter`, `sort` and `limit` at fault. -/
theorem ofPairs_requests (pairs : List (String × String)) (cfg : SearchSettings) :
    ofPairs pairs =
        ⟨lastValue "q" pairs, lastValue "filter" pairs, lastValue "sort" pairs,
          lastValue "limit" pairs, lastValue "offset" pairs, lastValue "namespace" pairs,
          lastValue "facets" pairs, facetNamesOf pairs⟩ ∧
      (∀ e, (ofPairs pairs).toFull cfg = .error e →
        ∃ f, firstInvalid ((ofPairs pairs).fullChecks cfg) = some f ∧
          e.status = 400 ∧ e.code = "INVALID_REQUEST" ∧ e.fields = some [f]) ∧
      ((∃ r, (ofPairs pairs).toFull cfg = .ok r) ↔
        firstInvalid ((ofPairs pairs).fullChecks cfg) = none) ∧
      (∀ r, (ofPairs pairs).toFull cfg = .ok r →
        Text.trim r.query ≠ "" ∧
          (∀ {α β : Type} (maxLimit : Nat) (ds : Collection α) (js : Collection β),
            FullSearch.answer maxLimit ds js r = FullSearch.search maxLimit ds js r) ∧
          r.facetNames =
            (if (facetNamesOf pairs).isEmpty then none else some (facetNamesOf pairs)) ∧
          (ofPairs pairs).toSimple cfg =
            .ok ⟨r.query, r.filter, r.sort, r.limit, r.namespaceName⟩) ∧
      (∀ o f n, { ofPairs pairs with offset := o, facets := f, facetNames := n }.toSimple cfg =
        (ofPairs pairs).toSimple cfg) ∧
      (∀ e, (ofPairs pairs).toSimple cfg = .error e →
        ∃ f, firstInvalid ((ofPairs pairs).simpleChecks cfg) = some f ∧
          e.status = 400 ∧ e.code = "INVALID_REQUEST" ∧ e.fields = some [f]) ∧
      ((∃ r, (ofPairs pairs).toSimple cfg = .ok r) ↔
        firstInvalid ((ofPairs pairs).simpleChecks cfg) = none) := by
  obtain ⟨hfullErr, hfullOk⟩ := (toFull_refusal (ofPairs pairs) cfg).iff
  obtain ⟨hsimpleErr, hsimpleOk⟩ := (toSimple_refusal (ofPairs pairs) cfg).iff
  refine ⟨ofPairs_eq pairs, hfullErr, hfullOk, fun r hr => ?_, fun _ _ _ => rfl, hsimpleErr,
    hsimpleOk⟩
  obtain ⟨hsimple, -, -, hnames⟩ := toFull_eq_ok_iff.mp hr
  -- the query passed the first check, so it is not blank
  have hquery := (requiredQuery_eq_ok (toSimple_eq_ok_iff.mp hsimple).1).2
  have htrim : Text.trim r.query ≠ "" := by
    rw [Ne, Text.trim_eq_empty_iff, hquery]
    decide
  refine ⟨htrim, fun maxLimit ds js => ?_, ?_, hsimple⟩
  · rw [FullSearch.answer, if_neg (by rw [hquery]; decide)]
  · rw [hnames, ofPairs_eq]

/-- A repeated query keeps its last value, facet names from two pairs are joined, an unknown
key is ignored, and a limit above the maximum passes as given. -/
theorem ofPairs_requests_repeated_keys :
    (ofPairs [("q", "orders"), ("facetNames", "schema, ownership"), ("q", "analytics"),
        ("limit", "150"), ("facetNames", "dataQualityMetrics"), ("color", "red")]).toFull
        default =
      .ok ⟨"analytics", none, .updatedAt, 150, 0, none, true,
        some ["schema", "ownership", "dataQualityMetrics"]⟩ ∧
    Text.trim "analytics" ≠ "" ∧
    (ofPairs [("q", "orders"), ("facetNames", "schema, ownership"), ("q", "analytics"),
        ("limit", "150"), ("facetNames", "dataQualityMetrics"), ("color", "red")]).toSimple
        default = .ok ⟨"analytics", none, .updatedAt, 150, none⟩ := by
  have hfull : (ofPairs [("q", "orders"), ("facetNames", "schema, ownership"),
      ("q", "analytics"), ("limit", "150"), ("facetNames", "dataQualityMetrics"),
      ("color", "red")]).toFull default =
      .ok ⟨"analytics", none, .updatedAt, 150, 0, none, true,
        some ["schema", "ownership", "dataQualityMetrics"]⟩ := by
    rfl
  obtain ⟨htrim, -, -, hsimple⟩ := (ofPairs_requests _ default).2.2.2.1 _ hfull
  exact ⟨hfull, htrim, hsimple⟩

/-- **Every page asks for at least one row.**  Under a configuration that passes validation,
whose minimum is a 32-bit value as the configuration reads it, a simple request that passes
asks for a page size that, capped by the maximum as the search caps it, lies between the
minimum and the maximum; so it is at least `1`. -/
theorem toSimple_pageSize_mem {c : Config} (hvalid : c.validate = .ok ())
    (hword : c.search.minLimit ≤ halfWordMax) {s : SearchQuery} {r : SimpleSearchRequest}
    (h : s.toSimple c.search = .ok r) :
    1 ≤ c.search.minLimit ∧ c.search.minLimit ≤ min r.limit c.search.maxLimit ∧
      min r.limit c.search.maxLimit ≤ c.search.maxLimit := by
  obtain ⟨hpos, hdefault, hmax⟩ := Config.validate_search hvalid
  have hlimit := minLimit_le_of_parseLimit hword hdefault (toSimple_eq_ok_iff.mp h).2.2.2.1
  omega

/-- The page size of a full request that passes is bounded as that of a simple one. -/
theorem toFull_pageSize_mem {c : Config} (hvalid : c.validate = .ok ())
    (hword : c.search.minLimit ≤ halfWordMax) {s : SearchQuery} {r : FullSearchRequest}
    (h : s.toFull c.search = .ok r) :
    1 ≤ c.search.minLimit ∧ c.search.minLimit ≤ min r.limit c.search.maxLimit ∧
      min r.limit c.search.maxLimit ≤ c.search.maxLimit :=
  toSimple_pageSize_mem hvalid hword (toFull_eq_ok_iff.mp h).1

end SearchQuery

/-- **The page size, end to end.**  Under a configuration that passes validation, whose
minimum is a 32-bit value as the configuration reads it: no page size gives the default; a
given one is accepted exactly when, trimmed, it is a decimal numeral, with an optional sign, of
a value at least the minimum and below `2 ^ 63`, and it is that value or `2 ^ 32 - 1` when
larger.  So a numeral of `2 ^ 63` or more is refused, with the message of a page size below
the minimum, although it is above it.  Every request that passes, simple or full, asks for a
page that, capped by the maximum, lies between the minimum and the maximum, so it is at
least `1`. -/
theorem pageSize_accepted_below_two_pow_63 {c : Config} (hvalid : c.validate = .ok ())
    (hword : c.search.minLimit ≤ halfWordMax) :
    parseLimit c.search none = .ok c.search.defaultLimit ∧
    (∀ raw n, parseLimit c.search (some raw) = .ok n ↔
      ∃ v : Int, SignedDecimal (Text.trim raw).toList v ∧ c.search.minLimit ≤ v ∧
        v < 2 ^ 63 ∧ n = min v.toNat halfWordMax) ∧
    (∀ raw (v : Int), SignedDecimal (Text.trim raw).toList v → 2 ^ 63 ≤ v →
      parseLimit c.search (some raw) = .error (.invalidField "limit"
        ("limit must be an integer of at least " ++ toString c.search.minLimit ++ "."))) ∧
    (∀ (s : SearchQuery) (r : SimpleSearchRequest), s.toSimple c.search = .ok r →
      1 ≤ c.search.minLimit ∧ c.search.minLimit ≤ min r.limit c.search.maxLimit ∧
        min r.limit c.search.maxLimit ≤ c.search.maxLimit) ∧
    (∀ (s : SearchQuery) (r : FullSearchRequest), s.toFull c.search = .ok r →
      1 ≤ c.search.minLimit ∧ c.search.minLimit ≤ min r.limit c.search.maxLimit ∧
        min r.limit c.search.maxLimit ≤ c.search.maxLimit) :=
  ⟨rfl, fun _ _ => parseLimit_some_eq_ok_iff,
    fun _ _ hv hbig => parseLimit_of_two_pow_63_le hv hbig,
    fun _ _ h => SearchQuery.toSimple_pageSize_mem hvalid hword h,
    fun _ _ h => SearchQuery.toFull_pageSize_mem hvalid hword h⟩

/-- Under the least configuration that passes, `9223372036854775808` (that is `2 ^ 63`) is
refused as a page size. -/
theorem pageSize_two_pow_63_refused :
    let c : Config := ⟨⟨"a", "b", "info"⟩, ⟨⟨"d", 1⟩⟩, default, default⟩
    c.validate = .ok () ∧ c.search.minLimit ≤ halfWordMax ∧
      SignedDecimal (Text.trim "9223372036854775808").toList (2 ^ 63) ∧
      parseLimit c.search (some "9223372036854775808") =
        .error (.invalidField "limit" "limit must be an integer of at least 1.") := by
  intro c
  have hvalid : c.validate = .ok () := by decide
  have hword : c.search.minLimit ≤ halfWordMax := by decide
  have hdigits : (Text.trim "9223372036854775808").toList = "9223372036854775808".toList := by
    decide
  have hdec : SignedDecimal (Text.trim "9223372036854775808").toList (2 ^ 63) := by
    rw [hdigits]
    have hvalue : (digitsValue "9223372036854775808".toList : Int) = 2 ^ 63 := by decide
    exact hvalue ▸ .unsigned (by decide) (by decide)
  have hmessage : "limit must be an integer of at least " ++ toString c.search.minLimit ++ "." =
      "limit must be an integer of at least 1." := by
    decide
  have hrefused := (pageSize_accepted_below_two_pow_63 hvalid hword).2.2.1 _ _ hdec (by norm_num)
  rw [hmessage] at hrefused
  exact ⟨hvalid, hword, hdec, hrefused⟩

end Http

end Catalog
