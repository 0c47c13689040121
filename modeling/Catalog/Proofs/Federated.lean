import Catalog.Search.Federated
import Catalog.Proofs.Paging

/-!
# What a federated search does

`FullSearch.search` reads two collections.  With a filter it reads a page of the one
collection, skipped when the page is empty, and then counts it; the other collection is never
called.  Without a filter it counts datasets, then jobs, places the page with `Budget.ofPage`,
and reads each collection's part, skipped when that part is empty.  The total is the sum of
the counts, and a sum beyond 64 bits aborts the search.

The statements here hold for every request and every pair of collections:

* `FullSearch.answer_calls`: the calls, in order, by collection and window
  (`FullSearch.plan`), and what every read carries (`FullSearch.Carries`): the request's text,
  namespace, sort and facets, and never an empty page.  A blank query is refused before any
  call.
* `FullSearch.search_fails_only_on_count_sum`: the sum of the counts is the only place a
  search can fail; every step of the two splits stays in 64 bits.
* `FullSearch.search_numbered_pages`: over collections of numbered rows, the rows of a page;
  with an even page size, every row is on exactly one page (`Budget.ofPage_even_pages_tile`).
* `FullSearch.larger_limit_extends_page`: over collections of ordered rows
  (`FullSearch.ofRows`), a page with a larger limit extends each collection's part of the
  smaller page.
-/

namespace Catalog

/-! ### Facet selection -/

namespace SearchParams

variable {p : SearchParams} {ns : List String}

theorem facetSelection_eq_disabled_iff :
    p.facetSelection = .disabled ↔ p.includeFacets = false := by
  obtain ⟨_, _, _, _, _, facets, names⟩ := p
  cases facets <;> rcases names with _ | _ | ⟨n, rest⟩ <;> simp [facetSelection]

theorem facetSelection_eq_named_iff :
    p.facetSelection = .named ns ↔ p.includeFacets = true ∧ p.facetNames = some ns ∧ ns ≠ [] := by
  obtain ⟨_, _, _, _, _, facets, names⟩ := p
  cases facets <;> rcases names with _ | _ | ⟨n, rest⟩ <;> simp [facetSelection]
  -- the names the request gives are never empty
  rintro rfl
  exact List.cons_ne_nil n rest

theorem names_facetSelection_eq_some_iff :
    p.facetSelection.names = some ns ↔ p.facetSelection = .named ns := by
  cases p.facetSelection <;> simp [FacetSelection.names]

end SearchParams

/-! ### Blank queries -/

namespace Text

theorem dropBlank_eq_nil_iff (l : List Char) : dropBlank l = [] ↔ l.all isBlankChar = true := by
  induction l with
  | nil => simp [dropBlank]
  | cons c rest ih =>
    by_cases hc : isBlankChar c = true
    · simp [dropBlank, hc, ih]
    · simp [dropBlank, hc]

theorem isBlankChar_of_dropBlank_eq_cons {l rest : List Char} {c : Char}
    (h : dropBlank l = c :: rest) : isBlankChar c = false := by
  induction l with
  | nil => simp [dropBlank] at h
  | cons d ds ih =>
    by_cases hd : isBlankChar d = true
    · simp only [dropBlank, hd, if_true] at h
      exact ih h
    · simp only [dropBlank, hd] at h
      obtain ⟨rfl, -⟩ := List.cons.inj h
      simpa using hd

/-- What is left after dropping blanks is blank only when nothing is left. -/
theorem all_dropBlank_iff (l : List Char) :
    (dropBlank l).all isBlankChar = true ↔ dropBlank l = [] := by
  cases h : dropBlank l with
  | nil => simp
  | cons c rest => simp [isBlankChar_of_dropBlank_eq_cons h]

/-- **A text trims to nothing exactly when it is blank.** -/
theorem trim_eq_empty_iff (s : String) : trim s = "" ↔ isBlank s = true := by
  rw [trim, String.ofList_eq_empty_iff, List.reverse_eq_nil_iff, dropBlank_eq_nil_iff,
    List.all_reverse, all_dropBlank_iff, dropBlank_eq_nil_iff, isBlank]

end Text

namespace FullSearch

variable {α β : Type}

/-! ### Reads -/

/-- A call without the texts it carries: the collection, and for a read its window. -/
def Call.shape : Call → Side × Option Window
  | .count side => (side, none)
  | .search side p => (side, some ⟨p.limit, p.offset⟩)

/-- The read of a window, unless the window is empty. -/
def readOf (side : Side) (w : Window) : List (Side × Option Window) :=
  if 0 < w.limit then [(side, some w)] else []

/-- The parameters of a read carry the request: its text, namespace, sort and facets, the
facet names only when facets are on, and a page that is not empty. -/
structure Carries (req : FullSearchRequest) (p : SearchParams) : Prop where
  limit_pos : 0 < p.limit
  query : p.query = req.query
  namespaceName : p.namespaceName = req.namespaceName
  sort : p.sort = req.sort
  includeFacets : p.includeFacets = req.facets
  facetNames : p.facetNames = if req.facets then req.facetNames else none

/-- The facets a read loads follow from the request alone: none when facets are off, the named
ones when the request names some, and all of them otherwise. -/
theorem Carries.facetSelection {req : FullSearchRequest} {p : SearchParams} (h : Carries req p) :
    (p.facetSelection = .disabled ↔ req.facets = false) ∧
      ∀ ns, (p.facetSelection = .named ns ↔
          req.facets = true ∧ req.facetNames = some ns ∧ ns ≠ []) ∧
        (p.facetSelection.names = some ns ↔
          req.facets = true ∧ req.facetNames = some ns ∧ ns ≠ []) := by
  have hnamed : ∀ ns, p.facetSelection = .named ns ↔
      req.facets = true ∧ req.facetNames = some ns ∧ ns ≠ [] := by
    intro ns
    rw [SearchParams.facetSelection_eq_named_iff, h.includeFacets, h.facetNames]
    cases req.facets <;> simp
  refine ⟨?_, fun ns => ⟨hnamed ns, ?_⟩⟩
  · rw [SearchParams.facetSelection_eq_disabled_iff, h.includeFacets]
  · rw [SearchParams.names_facetSelection_eq_some_iff, hnamed]

variable (req : FullSearchRequest)

theorem fetch_shapes (c : Collection α) (side : Side) (w : Window) :
    (fetch c side (paramsFor req w)).2.map Call.shape = readOf side w := by
  unfold fetch readOf
  by_cases hw : w.limit = 0
  · simp [paramsFor, hw]
  · simp [paramsFor, hw, Call.shape, Nat.pos_of_ne_zero hw]

theorem carries_of_mem_fetch {c : Collection α} {side side' : Side} {w : Window}
    {p : SearchParams} (h : Call.search side' p ∈ (fetch c side (paramsFor req w)).2) :
    Carries req p := by
  unfold fetch at h
  split at h
  · simp at h
  · rename_i hlimit
    simp only [List.mem_singleton, Call.search.injEq] at h
    obtain ⟨-, rfl⟩ := h
    exact ⟨Nat.pos_of_ne_zero hlimit, rfl, rfl, rfl, rfl, rfl⟩

/-- A filtered search reads its page unless the page is empty, then counts. -/
theorem fetch_then_count (c : Collection α) (side : Side) (w : Window) :
    ((fetch c side (paramsFor req w)).2 ++ [Call.count side]).map Call.shape =
        readOf side w ++ [(side, none)] ∧
      ∀ side' p, Call.search side' p ∈ (fetch c side (paramsFor req w)).2 ++ [Call.count side] →
        Carries req p := by
  refine ⟨by simp [fetch_shapes, Call.shape], ?_⟩
  intro side' p hp
  rcases List.mem_append.mp hp with hp | hp
  · exact carries_of_mem_fetch req hp
  · simp at hp

/-! ### The three branches -/

variable (maxLimit : Nat) (ds : Collection α) (js : Collection β)

theorem search_of_dataset (h : req.filter = some .dataset) :
    search maxLimit ds js req =
      .ok (⟨ds.count,
          (fetch ds .datasets (paramsFor req ⟨min req.limit maxLimit, req.offset⟩)).1, []⟩,
        (fetch ds .datasets (paramsFor req ⟨min req.limit maxLimit, req.offset⟩)).2 ++
          [.count .datasets]) := by
  simp only [search, h]

theorem search_of_job (h : req.filter = some .job) :
    search maxLimit ds js req =
      .ok (⟨js.count, [],
          (fetch js .jobs (paramsFor req ⟨min req.limit maxLimit, req.offset⟩)).1⟩,
        (fetch js .jobs (paramsFor req ⟨min req.limit maxLimit, req.offset⟩)).2 ++
          [.count .jobs]) := by
  simp only [search, h]

theorem search_of_none (h : req.filter = none) (hsum : ds.count + js.count < 2 ^ 64) :
    search maxLimit ds js req =
      .ok (⟨ds.count + js.count,
          (fetch ds .datasets (paramsFor req
            (Budget.ofPage (min req.limit maxLimit) req.offset ds.count js.count).datasets)).1,
          (fetch js .jobs (paramsFor req
            (Budget.ofPage (min req.limit maxLimit) req.offset ds.count js.count).jobs)).1⟩,
        [.count .datasets, .count .jobs] ++
          (fetch ds .datasets (paramsFor req
            (Budget.ofPage (min req.limit maxLimit) req.offset ds.count js.count).datasets)).2 ++
          (fetch js .jobs (paramsFor req
            (Budget.ofPage (min req.limit maxLimit) req.offset ds.count js.count).jobs)).2) := by
  have hfits : ds.count + js.count < Nat.pow 2 64 := hsum
  simp only [search, h, hfits, if_true]

theorem search_of_none_of_le (h : req.filter = none) (hsum : 2 ^ 64 ≤ ds.count + js.count) :
    search maxLimit ds js req =
      .error (.countOverflow ([.count .datasets, .count .jobs] ++
          (fetch ds .datasets (paramsFor req
            (Budget.ofPage (min req.limit maxLimit) req.offset ds.count js.count).datasets)).2 ++
          (fetch js .jobs (paramsFor req
            (Budget.ofPage (min req.limit maxLimit) req.offset ds.count js.count).jobs)).2)) := by
  have hover : ¬ ds.count + js.count < Nat.pow 2 64 := Nat.not_lt.mpr hsum
  simp only [search, h, hover, if_false]

/-! ### The calls -/

/-- **The calls of a search**, by collection and window.  With a filter: a read of the page
unless it is empty, then a count of that collection.  Without: a count of datasets, a count of
jobs, then a read of each collection's part of the page (`Budget.ofPage`) unless it is
empty. -/
def plan (req : FullSearchRequest) (d j : Nat) : List (Side × Option Window) :=
  match req.filter with
  | some .dataset => readOf .datasets ⟨min req.limit maxLimit, req.offset⟩ ++ [(.datasets, none)]
  | some .job => readOf .jobs ⟨min req.limit maxLimit, req.offset⟩ ++ [(.jobs, none)]
  | none =>
    [(.datasets, none), (.jobs, none)] ++
      readOf .datasets (Budget.ofPage (min req.limit maxLimit) req.offset d j).datasets ++
      readOf .jobs (Budget.ofPage (min req.limit maxLimit) req.offset d j).jobs

/-- With no filter, the calls are both counts and then the reads of the two parts of the
page: those of the plan, every read carrying the request. -/
theorem noFilter_calls (h : req.filter = none) :
    (([.count .datasets, .count .jobs] ++
        (fetch ds .datasets (paramsFor req
          (Budget.ofPage (min req.limit maxLimit) req.offset ds.count js.count).datasets)).2 ++
        (fetch js .jobs (paramsFor req
          (Budget.ofPage (min req.limit maxLimit) req.offset ds.count js.count).jobs)).2) :
        List Call).map Call.shape = plan maxLimit req ds.count js.count ∧
      ∀ side p, Call.search side p ∈ ([.count .datasets, .count .jobs] ++
        (fetch ds .datasets (paramsFor req
          (Budget.ofPage (min req.limit maxLimit) req.offset ds.count js.count).datasets)).2 ++
        (fetch js .jobs (paramsFor req
          (Budget.ofPage (min req.limit maxLimit) req.offset ds.count js.count).jobs)).2 :
        List Call) → Carries req p := by
  refine ⟨?_, ?_⟩
  · simp only [List.map_append, fetch_shapes, plan, h]
    rfl
  · intro side p hp
    rcases List.mem_append.mp hp with hp | hp
    · rcases List.mem_append.mp hp with hp | hp
      · simp at hp
      · exact carries_of_mem_fetch req hp
    · exact carries_of_mem_fetch req hp

/-- A search that answers has made the calls of its plan, and every read carries the
request. -/
theorem calls_of_search_eq_ok {r : FullSearchResults α β} {calls : List Call}
    (h : search maxLimit ds js req = .ok (r, calls)) :
    calls.map Call.shape = plan maxLimit req ds.count js.count ∧
      ∀ side p, Call.search side p ∈ calls → Carries req p := by
  rcases hfilter : req.filter with _ | _ | _
  · -- no filter: the counts fit, so the search answers with the calls of its plan
    have hsum : ds.count + js.count < 2 ^ 64 := by
      apply Nat.lt_of_not_le
      intro hover
      rw [search_of_none_of_le req maxLimit ds js hfilter hover] at h
      cases h
    rw [search_of_none req maxLimit ds js hfilter hsum] at h
    obtain ⟨-, rfl⟩ := Prod.mk.inj (Except.ok.inj h)
    exact noFilter_calls req maxLimit ds js hfilter
  · rw [search_of_dataset req maxLimit ds js hfilter] at h
    obtain ⟨-, rfl⟩ := Prod.mk.inj (Except.ok.inj h)
    simpa only [plan, hfilter] using fetch_then_count req ds .datasets _
  · rw [search_of_job req maxLimit ds js hfilter] at h
    obtain ⟨-, rfl⟩ := Prod.mk.inj (Except.ok.inj h)
    simpa only [plan, hfilter] using fetch_then_count req js .jobs _

/-- **The search answers** unless it has no filter and the two counts do not fit in 64 bits
together; then it fails on their sum, keeping the calls of its plan, every read carrying the
request. -/
theorem search_eq_ok_or :
    (∃ r calls, search maxLimit ds js req = .ok (r, calls)) ∨
      (req.filter = none ∧ 2 ^ 64 ≤ ds.count + js.count ∧
        ∃ calls, search maxLimit ds js req = .error (.countOverflow calls) ∧
          calls.map Call.shape = plan maxLimit req ds.count js.count ∧
          ∀ side p, Call.search side p ∈ calls → Carries req p) := by
  rcases hfilter : req.filter with _ | _ | _
  · by_cases hsum : ds.count + js.count < 2 ^ 64
    · exact .inl ⟨_, _, search_of_none req maxLimit ds js hfilter hsum⟩
    · have hover := Nat.le_of_not_lt hsum
      exact .inr ⟨rfl, hover, _, search_of_none_of_le req maxLimit ds js hfilter hover,
        noFilter_calls req maxLimit ds js hfilter⟩
  · exact .inl ⟨_, _, search_of_dataset req maxLimit ds js hfilter⟩
  · exact .inl ⟨_, _, search_of_job req maxLimit ds js hfilter⟩

/-- **The calls of a full search.**  A query that trims to nothing is refused as an invalid
request, whatever the collections hold.  Any other query is searched: the calls are those of
the plan, in its order, so a filter keeps the search off the other collection and no read is
made of an empty page; every read carries the request's text, namespace, sort and facets, and
loads no facets, the named ones or all of them as the request asks.  The search answers with
these calls, except with no filter when the two counts overflow 64 bits: then it fails on
their sum, after the same calls. -/
theorem answer_calls :
    (Text.trim req.query = "" →
      answer maxLimit ds js req = .error (.refused (.invalidRequest "query must not be blank."))) ∧
    (Text.trim req.query ≠ "" →
      ∃ calls, calls.map Call.shape = plan maxLimit req ds.count js.count ∧
        (∀ side p, Call.search side p ∈ calls → Carries req p ∧
          (p.facetSelection = .disabled ↔ req.facets = false) ∧
          ∀ ns, (p.facetSelection = .named ns ↔
              req.facets = true ∧ req.facetNames = some ns ∧ ns ≠ []) ∧
            (p.facetSelection.names = some ns ↔
              req.facets = true ∧ req.facetNames = some ns ∧ ns ≠ [])) ∧
        ((∃ r, answer maxLimit ds js req = .ok (r, calls)) ∨
          (req.filter = none ∧ 2 ^ 64 ≤ ds.count + js.count ∧
            answer maxLimit ds js req = .error (.countOverflow calls)))) := by
  refine ⟨fun hblank => ?_, fun hquery => ?_⟩
  · rw [answer, if_pos ((Text.trim_eq_empty_iff _).mp hblank)]
    rfl
  · have hsearch : answer maxLimit ds js req = search maxLimit ds js req := by
      rw [answer, if_neg (fun h => hquery ((Text.trim_eq_empty_iff _).mpr h))]
    rw [hsearch]
    -- either outcome has made the calls of the plan, each read carrying the request
    have hfacets : ∀ {calls : List Call}, (∀ side p, Call.search side p ∈ calls → Carries req p) →
        ∀ side p, Call.search side p ∈ calls → Carries req p ∧
          (p.facetSelection = .disabled ↔ req.facets = false) ∧
          ∀ ns, (p.facetSelection = .named ns ↔
              req.facets = true ∧ req.facetNames = some ns ∧ ns ≠ []) ∧
            (p.facetSelection.names = some ns ↔
              req.facets = true ∧ req.facetNames = some ns ∧ ns ≠ []) :=
      fun hcarry side p hp => ⟨hcarry side p hp, (hcarry side p hp).facetSelection⟩
    rcases search_eq_ok_or req maxLimit ds js with
      ⟨r, calls, h⟩ | ⟨hfilter, hover, calls, h, hplan, hcarry⟩
    · obtain ⟨hplan, hcarry⟩ := calls_of_search_eq_ok req maxLimit ds js h
      exact ⟨calls, hplan, hfacets hcarry, .inl ⟨r, h⟩⟩
    · exact ⟨calls, hplan, hfacets hcarry, .inr ⟨hfilter, hover, h⟩⟩

/-- A blank query is refused; a page of ten datasets after five is one read, then a count. -/
theorem answer_calls_dataset_page :
    Text.trim " " = "" ∧
      answer 100 (.numbered "dataset" 40) (.numbered "job" 40)
          { query := " ", filter := some .dataset, sort := .updatedAt, limit := 10, offset := 5,
            namespaceName := none, facets := true, facetNames := none } =
        .error (.refused (.invalidRequest "query must not be blank.")) ∧
      Text.trim "analytics" ≠ "" ∧
      ∃ r calls, answer 100 (.numbered "dataset" 40) (.numbered "job" 40)
          { query := "analytics", filter := some .dataset, sort := .updatedAt, limit := 10,
            offset := 5, namespaceName := none, facets := true, facetNames := none } =
        .ok (r, calls) ∧ calls.map Call.shape = [(.datasets, some ⟨10, 5⟩), (.datasets, none)] := by
  refine ⟨by decide, (answer_calls
    { query := " ", filter := some .dataset, sort := .updatedAt, limit := 10, offset := 5,
      namespaceName := none, facets := true, facetNames := none } 100 _ _).1 (by decide),
    by decide, ?_⟩
  obtain ⟨calls, hplan, -, ⟨r, h⟩ | ⟨hfilter, -, -⟩⟩ := (answer_calls
    { query := "analytics", filter := some .dataset, sort := .updatedAt, limit := 10, offset := 5,
      namespaceName := none, facets := true, facetNames := none } 100
    (.numbered "dataset" 40) (.numbered "job" 40)).2 (by decide)
  · exact ⟨r, calls, h, hplan⟩
  · cases hfilter

/-! ### Where a search can fail -/

/-- **A search fails only on the sum of its counts.**  It fails exactly when it has no filter
and the two counts reach `2 ^ 64` together, and then on the overflow of that sum.  No other
step can fail: for a page and an offset of 32 bits, every sum and difference the two splits of
the page form without saturation stays below `2 ^ 64`, whatever the counts; so counts of at
most `2 ^ 63 - 1` rows always give an answer. -/
theorem search_fails_only_on_count_sum (hlimit : req.limit < 2 ^ 32)
    (hoffset : req.offset < 2 ^ 32) :
    ((∃ e, search maxLimit ds js req = .error e) ↔
        req.filter = none ∧ 2 ^ 64 ≤ ds.count + js.count) ∧
      (∀ e, search maxLimit ds js req = .error e → ∃ calls, e = .countOverflow calls) ∧
      (req.filter = none →
        (Split.run req.offset ds.count js.count).WithinWords ∧
          (Split.run (min req.limit maxLimit) (ds.count - (split req.offset ds.count js.count).first)
            (js.count - (split req.offset ds.count js.count).second)).WithinWords) ∧
      (ds.count ≤ 2 ^ 63 - 1 → js.count ≤ 2 ^ 63 - 1 →
        ∃ r, search maxLimit ds js req = .ok r) := by
  have hfails : ∀ e, search maxLimit ds js req = .error e →
      req.filter = none ∧ 2 ^ 64 ≤ ds.count + js.count ∧ ∃ calls, e = .countOverflow calls := by
    intro e he
    rcases search_eq_ok_or req maxLimit ds js with
      ⟨r, calls, h⟩ | ⟨hfilter, hover, calls, h, -, -⟩
    · rw [h] at he
      cases he
    · rw [h] at he
      cases he
      exact ⟨hfilter, hover, calls, rfl⟩
  refine ⟨⟨?_, ?_⟩, fun e he => (hfails e he).2.2, fun _ => ⟨?_, ?_⟩, ?_⟩
  · rintro ⟨e, he⟩
    exact ⟨(hfails e he).1, (hfails e he).2.1⟩
  · rintro ⟨hfilter, hover⟩
    exact ⟨_, search_of_none_of_le req maxLimit ds js hfilter hover⟩
  · exact Split.run_withinWords _ _ (by omega)
  · exact Split.run_withinWords _ _ (by omega)
  · intro hd hj
    rcases search_eq_ok_or req maxLimit ds js with ⟨r, calls, h⟩ | ⟨-, hover, -⟩
    · exact ⟨_, h⟩
    · omega

/-- One more row than 64 bits hold, over a search with no filter: the search fails. -/
theorem search_fails_past_64_bits :
    (10 : Nat) < 2 ^ 32 ∧ (0 : Nat) < 2 ^ 32 ∧
      ∃ e, search 100 (.numbered "dataset" (2 ^ 64 - 1)) (.numbered "job" 1)
        { query := "analytics", filter := none, sort := .updatedAt, limit := 10, offset := 0,
          namespaceName := none, facets := true, facetNames := none } = .error e :=
  ⟨by decide, by decide, ((search_fails_only_on_count_sum
    { query := "analytics", filter := none, sort := .updatedAt, limit := 10, offset := 0,
      namespaceName := none, facets := true, facetNames := none } 100
    (.numbered "dataset" (2 ^ 64 - 1)) (.numbered "job" 1) (by decide) (by decide)).1.2
    ⟨rfl, by decide⟩)⟩

/-! ### Collections of numbered rows -/

/-- The rows `label-i` for `lo ≤ i < hi`. -/
def rowsBetween (label : String) (lo hi : Nat) : List String :=
  (List.range' lo (hi - lo)).map fun i => label ++ "-" ++ toString i

@[simp] theorem length_rowsBetween (label : String) (lo hi : Nat) :
    (rowsBetween label lo hi).length = hi - lo := by
  simp [rowsBetween]

@[simp] theorem numbered_count (label : String) (n : Nat) :
    (Collection.numbered label n).count = n := rfl

/-- A read of numbered rows gives the rows of its window that the collection holds. -/
theorem fetch_numbered (label : String) (n : Nat) (side : Side) (w : Window) :
    (fetch (.numbered label n) side (paramsFor req w)).1 =
      rowsBetween label w.offset (min (w.offset + w.limit) n) := by
  unfold fetch
  by_cases hw : w.limit = 0
  · -- an empty page reads nothing, and its window holds no row either
    have hempty : min (w.offset + w.limit) n - w.offset = 0 := by omega
    rw [rowsBetween, hempty]
    simp [paramsFor, hw]
  · simp only [paramsFor, hw, if_false, Collection.numbered, rowsBetween]
    congr 2
    omega

/-- With no filter, each collection shows its window from `Budget.ofPage` whole, since the
window lies inside the collection. -/
theorem search_numbered_of_none (ad aj : Nat) (h : req.filter = none) (hsum : ad + aj < 2 ^ 64) :
    ∃ calls, search maxLimit (.numbered "dataset" ad) (.numbered "job" aj) req =
      .ok (⟨ad + aj,
        rowsBetween "dataset" (Budget.ofPage (min req.limit maxLimit) req.offset ad aj).datasets.offset
          ((Budget.ofPage (min req.limit maxLimit) req.offset ad aj).datasets.offset +
            (Budget.ofPage (min req.limit maxLimit) req.offset ad aj).datasets.limit),
        rowsBetween "job" (Budget.ofPage (min req.limit maxLimit) req.offset ad aj).jobs.offset
          ((Budget.ofPage (min req.limit maxLimit) req.offset ad aj).jobs.offset +
            (Budget.ofPage (min req.limit maxLimit) req.offset ad aj).jobs.limit)⟩, calls) := by
  have hdatasets := Budget.ofPage_datasets_end_le (min req.limit maxLimit) req.offset ad aj
  have hjobs := Budget.ofPage_jobs_end_le (min req.limit maxLimit) req.offset ad aj
  rw [search_of_none req maxLimit _ _ h hsum]
  simp only [numbered_count, fetch_numbered, Nat.min_eq_left hdatasets, Nat.min_eq_left hjobs]
  exact ⟨_, rfl⟩

/-- **The pages of numbered rows.**  Over `ad` datasets and `aj` jobs numbered from `0`, a
filtered page shows the one collection's rows from the offset on, at most the page size of
them, and counts that collection.  A page with no filter shows, in each collection, the rows
of its window from `Budget.ofPage`, and counts both: the offsets skip the first `o` rows of
the two together, and the page holds as many rows as remain after them, up to its size. -/
theorem search_numbered_pages (ad aj : Nat) (hsum : ad + aj < 2 ^ 64) :
    ∃ r calls, search maxLimit (.numbered "dataset" ad) (.numbered "job" aj) req = .ok (r, calls) ∧
      match req.filter with
      | some .dataset =>
        r.totalCount = ad ∧ r.jobs = [] ∧
          r.datasets = rowsBetween "dataset" req.offset
            (min (req.offset + min req.limit maxLimit) ad)
      | some .job =>
        r.totalCount = aj ∧ r.datasets = [] ∧
          r.jobs = rowsBetween "job" req.offset (min (req.offset + min req.limit maxLimit) aj)
      | none =>
        r.totalCount = ad + aj ∧
          r.datasets = rowsBetween "dataset" (split req.offset ad aj).first
            ((split req.offset ad aj).first + (split (min req.limit maxLimit)
              (ad - (split req.offset ad aj).first) (aj - (split req.offset ad aj).second)).first) ∧
          r.jobs = rowsBetween "job" (split req.offset ad aj).second
            ((split req.offset ad aj).second + (split (min req.limit maxLimit)
              (ad - (split req.offset ad aj).first) (aj - (split req.offset ad aj).second)).second) ∧
          (split req.offset ad aj).first ≤ ad ∧ (split req.offset ad aj).second ≤ aj ∧
          (split req.offset ad aj).first + (split req.offset ad aj).second =
            min req.offset (ad + aj) ∧
          r.datasets.length + r.jobs.length = min (min req.limit maxLimit) (ad + aj - req.offset) ∧
          (ad + aj ≤ req.offset → r.datasets = [] ∧ r.jobs = []) := by
  rcases hfilter : req.filter with _ | _ | _
  · obtain ⟨calls, hcalls⟩ := search_numbered_of_none req maxLimit ad aj hfilter hsum
    have hlimits := Budget.ofPage_limits (min req.limit maxLimit) req.offset ad aj
    have hlength : (rowsBetween "dataset" (split req.offset ad aj).first
          ((split req.offset ad aj).first +
            (Budget.ofPage (min req.limit maxLimit) req.offset ad aj).datasets.limit)).length +
        (rowsBetween "job" (split req.offset ad aj).second
          ((split req.offset ad aj).second +
            (Budget.ofPage (min req.limit maxLimit) req.offset ad aj).jobs.limit)).length =
        min (min req.limit maxLimit) (ad + aj - req.offset) := by
      simp only [length_rowsBetween]
      omega
    refine ⟨_, calls, hcalls, rfl, rfl, rfl, split_first_le _ ad aj, split_second_le _ ad aj,
      split_first_add_second _ ad aj, hlength, fun hpast => ?_⟩
    -- past the end the page holds no row
    rw [Nat.sub_eq_zero_of_le hpast, Nat.min_zero, Nat.add_eq_zero_iff] at hlength
    exact ⟨List.eq_nil_of_length_eq_zero hlength.1, List.eq_nil_of_length_eq_zero hlength.2⟩
  · refine ⟨_, _, search_of_dataset req maxLimit _ _ hfilter, ?_⟩
    exact ⟨rfl, rfl, fetch_numbered req "dataset" ad .datasets ⟨min req.limit maxLimit, req.offset⟩⟩
  · refine ⟨_, _, search_of_job req maxLimit _ _ hfilter, ?_⟩
    exact ⟨rfl, rfl, fetch_numbered req "job" aj .jobs ⟨min req.limit maxLimit, req.offset⟩⟩

/-- The second page of ten over a hundred datasets and a hundred jobs shows datasets and
jobs `5` to `9`. -/
theorem search_numbered_second_page :
    100 + 100 < 2 ^ 64 ∧
      ∃ r calls, search 100 (.numbered "dataset" 100) (.numbered "job" 100)
        { query := "analytics", filter := none, sort := .updatedAt, limit := 10, offset := 10,
          namespaceName := none, facets := true, facetNames := none } = .ok (r, calls) ∧
        r.datasets = rowsBetween "dataset" 5 10 ∧ r.jobs = rowsBetween "job" 5 10 := by
  refine ⟨by decide, ?_⟩
  obtain ⟨r, calls, h, -, hdatasets, hjobs, -⟩ := search_numbered_pages
    { query := "analytics", filter := none, sort := .updatedAt, limit := 10, offset := 10,
      namespaceName := none, facets := true, facetNames := none } 100 100 100 (by decide)
  refine ⟨r, calls, h, ?_, ?_⟩
  · rw [hdatasets]
    congr 1
  · rw [hjobs]
    congr 1

/-- Numbered rows have different names: the number is read back from its digits. -/
theorem numberedRow_injective (label : String) :
    Function.Injective fun i : Nat => label ++ "-" ++ toString i := by
  intro a b h
  have hlists := congrArg String.toList h
  simp only [String.toList_append] at hlists
  have hdigits : (toString a).toList = (toString b).toList := List.append_cancel_left hlists
  have hvalue := congrArg (fun ds => Nat.ofDigitChars 10 ds 0) hdigits
  simpa [Nat.toString_eq_ofList_toDigits] using hvalue

theorem mem_rowsBetween {label : String} {lo hi i : Nat} :
    label ++ "-" ++ toString i ∈ rowsBetween label lo hi ↔ lo ≤ i ∧ i < hi := by
  simp only [rowsBetween, List.mem_map, List.mem_range'_1]
  constructor
  · rintro ⟨k, hk, hname⟩
    rw [numberedRow_injective label hname] at hk
    omega
  · intro hwindow
    exact ⟨i, by omega, rfl⟩

/-- **A numbered row is on a page** with no filter exactly when it lies in its collection's
window from `Budget.ofPage`. -/
theorem mem_search_numbered (ad aj i : Nat) (h : req.filter = none) (hsum : ad + aj < 2 ^ 64) :
    ((∃ r calls, search maxLimit (.numbered "dataset" ad) (.numbered "job" aj) req =
          .ok (r, calls) ∧ "dataset-" ++ toString i ∈ r.datasets) ↔
        (Budget.ofPage (min req.limit maxLimit) req.offset ad aj).datasets.offset ≤ i ∧
          i < (Budget.ofPage (min req.limit maxLimit) req.offset ad aj).datasets.offset +
            (Budget.ofPage (min req.limit maxLimit) req.offset ad aj).datasets.limit) ∧
      ((∃ r calls, search maxLimit (.numbered "dataset" ad) (.numbered "job" aj) req =
          .ok (r, calls) ∧ "job-" ++ toString i ∈ r.jobs) ↔
        (Budget.ofPage (min req.limit maxLimit) req.offset ad aj).jobs.offset ≤ i ∧
          i < (Budget.ofPage (min req.limit maxLimit) req.offset ad aj).jobs.offset +
            (Budget.ofPage (min req.limit maxLimit) req.offset ad aj).jobs.limit) := by
  obtain ⟨calls, hcalls⟩ := search_numbered_of_none req maxLimit ad aj h hsum
  have hdataset : "dataset-" ++ toString i = "dataset" ++ "-" ++ toString i := rfl
  have hjob : "job-" ++ toString i = "job" ++ "-" ++ toString i := rfl
  -- the search answers with one page, whose rows are the two windows
  refine ⟨⟨?_, fun hwindow => ⟨_, calls, hcalls, ?_⟩⟩, ⟨?_, fun hwindow => ⟨_, calls, hcalls, ?_⟩⟩⟩
  · rintro ⟨r, calls', hr, hmem⟩
    rw [hcalls] at hr
    obtain ⟨rfl, -⟩ := Prod.mk.inj (Except.ok.inj hr)
    rw [hdataset] at hmem
    exact mem_rowsBetween.mp hmem
  · rw [hdataset]
    exact mem_rowsBetween.mpr hwindow
  · rintro ⟨r, calls', hr, hmem⟩
    rw [hcalls] at hr
    obtain ⟨rfl, -⟩ := Prod.mk.inj (Except.ok.inj hr)
    rw [hjob] at hmem
    exact mem_rowsBetween.mp hmem
  · rw [hjob]
    exact mem_rowsBetween.mpr hwindow

/-! ### Larger pages -/

/-- A collection that pages through one ordered list of rows: a read skips the offset and
returns at most the limit of the rows after it. -/
def ofRows (rows : List α) : Collection α where
  count := rows.length
  search p := (rows.drop p.offset).take p.limit

@[simp] theorem ofRows_count (rows : List α) : (ofRows rows).count = rows.length := rfl

/-- The numbered rows are one ordered list, paged through. -/
theorem numbered_eq_ofRows (label : String) (n : Nat) :
    Collection.numbered label n = ofRows (rowsBetween label 0 n) := by
  unfold Collection.numbered ofRows
  congr 1
  · simp
  · funext p
    rw [rowsBetween, ← List.map_drop, ← List.map_take, List.drop_range']
    congr 1
    -- the page stops at its limit or at the last row, whichever comes first
    by_cases hend : n - 0 - p.offset ≤ p.limit
    · rw [List.take_range'_of_length_le hend]
      congr 1 <;> omega
    · rw [List.take_range'_of_length_ge (by omega)]
      congr 1 <;> omega

/-- A read of ordered rows is the window of its parameters, an empty one included. -/
theorem fetch_ofRows (rows : List α) (side : Side) (w : Window) :
    (fetch (ofRows rows) side (paramsFor req w)).1 = (rows.drop w.offset).take w.limit := by
  unfold fetch
  by_cases hw : w.limit = 0
  · simp [paramsFor, hw]
  · simp [paramsFor, hw, ofRows]

/-- **A larger limit extends every page.**  A larger total never takes rows from either side
of a split; so a page of at least as many rows keeps each collection's offset and gives it at
least as many rows; and over collections of ordered rows, with or without a filter, each
collection's part of the smaller page is a prefix of its part of the larger one: no row shown
is dropped. -/
theorem larger_limit_extends_page {L L' : Nat} (h : L ≤ L') :
    (∀ a b, (split L a b).first ≤ (split L' a b).first ∧
      (split L a b).second ≤ (split L' a b).second) ∧
    (∀ o d j, (Budget.ofPage L' o d j).datasets.offset = (Budget.ofPage L o d j).datasets.offset ∧
      (Budget.ofPage L' o d j).jobs.offset = (Budget.ofPage L o d j).jobs.offset ∧
      (Budget.ofPage L o d j).datasets.limit ≤ (Budget.ofPage L' o d j).datasets.limit ∧
      (Budget.ofPage L o d j).jobs.limit ≤ (Budget.ofPage L' o d j).jobs.limit) ∧
    (∀ maxLimit (ds : List α) (js : List β) (req : FullSearchRequest),
      ds.length + js.length < 2 ^ 64 →
      ∃ r calls r' calls',
        search maxLimit (ofRows ds) (ofRows js) { req with limit := L } = .ok (r, calls) ∧
        search maxLimit (ofRows ds) (ofRows js) { req with limit := L' } = .ok (r', calls') ∧
        r.datasets <+: r'.datasets ∧ r.jobs <+: r'.jobs) := by
  refine ⟨fun a b => ⟨split_first_mono a b h, split_second_mono a b h⟩,
    fun o d j => Budget.ofPage_limit_mono o d j h, ?_⟩
  intro maxLimit ds js req hsum
  -- the page size is the limit clamped by the maximum, which keeps the order
  have hclamp : min L maxLimit ≤ min L' maxLimit := by omega
  obtain ⟨query, filter, sort, limit, offset, namespaceName, facets, facetNames⟩ := req
  rcases filter with _ | _ | _
  · -- no filter: each collection reads at its own offset, the larger page further on
    have hmono := Budget.ofPage_limit_mono offset ds.length js.length hclamp
    refine ⟨_, _, _, _, search_of_none _ maxLimit _ _ rfl hsum,
      search_of_none _ maxLimit _ _ rfl hsum, ?_, ?_⟩
    · simp only [fetch_ofRows, ofRows_count, hmono.1]
      exact List.take_prefix_take_left hmono.2.2.1
    · simp only [fetch_ofRows, ofRows_count, hmono.2.1]
      exact List.take_prefix_take_left hmono.2.2.2
  · refine ⟨_, _, _, _, search_of_dataset _ maxLimit _ _ rfl,
      search_of_dataset _ maxLimit _ _ rfl, ?_, List.prefix_refl []⟩
    simp only [fetch_ofRows]
    exact List.take_prefix_take_left hclamp
  · refine ⟨_, _, _, _, search_of_job _ maxLimit _ _ rfl,
      search_of_job _ maxLimit _ _ rfl, List.prefix_refl [], ?_⟩
    simp only [fetch_ofRows]
    exact List.take_prefix_take_left hclamp

/-- Over three datasets and a hundred jobs, the page of ten extends the page of five. -/
theorem larger_limit_extends_page_of_five :
    5 ≤ 10 ∧ (rowsBetween "dataset" 0 3).length + (rowsBetween "job" 0 100).length < 2 ^ 64 ∧
      ∃ r calls r' calls',
        search 100 (.numbered "dataset" 3) (.numbered "job" 100)
          { query := "analytics", filter := none, sort := .updatedAt, limit := 5, offset := 2,
            namespaceName := none, facets := true, facetNames := none } = .ok (r, calls) ∧
        search 100 (.numbered "dataset" 3) (.numbered "job" 100)
          { query := "analytics", filter := none, sort := .updatedAt, limit := 10, offset := 2,
            namespaceName := none, facets := true, facetNames := none } = .ok (r', calls') ∧
        r.datasets <+: r'.datasets ∧ r.jobs <+: r'.jobs := by
  refine ⟨by decide, by simp, ?_⟩
  rw [numbered_eq_ofRows, numbered_eq_ofRows]
  exact (larger_limit_extends_page (by decide : 5 ≤ 10)).2.2 100
    (rowsBetween "dataset" 0 3) (rowsBetween "job" 0 100)
    { query := "analytics", filter := none, sort := .updatedAt, limit := 0, offset := 2,
      namespaceName := none, facets := true, facetNames := none } (by simp)

end FullSearch

namespace Budget

/-- **Pages tile the rows.**  When `k * L` is even, page `k + 1` starts in each collection
where page `k` ends.  So with an even page size every dataset and every job lies in the
window of exactly one page; and over collections of numbered rows, searching with no filter
and a page size of `L` at offsets `0, L, 2 * L, …` shows every dataset and every job on
exactly one page. -/
theorem ofPage_even_pages_tile (L d j : Nat) :
    (∀ k, k * L % 2 = 0 →
      (ofPage L ((k + 1) * L) d j).datasets.offset =
          (ofPage L (k * L) d j).datasets.offset + (ofPage L (k * L) d j).datasets.limit ∧
        (ofPage L ((k + 1) * L) d j).jobs.offset =
          (ofPage L (k * L) d j).jobs.offset + (ofPage L (k * L) d j).jobs.limit) ∧
    (L % 2 = 0 → 0 < L →
      (∀ i < d, ∃! k, (ofPage L (k * L) d j).datasets.offset ≤ i ∧
        i < (ofPage L (k * L) d j).datasets.offset + (ofPage L (k * L) d j).datasets.limit) ∧
      (∀ i < j, ∃! k, (ofPage L (k * L) d j).jobs.offset ≤ i ∧
        i < (ofPage L (k * L) d j).jobs.offset + (ofPage L (k * L) d j).jobs.limit)) ∧
    (L % 2 = 0 → 0 < L → d + j < 2 ^ 64 →
      ∀ (maxLimit : Nat) (req : FullSearchRequest), req.filter = none →
        min req.limit maxLimit = L →
        (∀ i < d, ∃! k, ∃ r calls, FullSearch.search maxLimit (.numbered "dataset" d)
            (.numbered "job" j) { req with offset := k * L } = .ok (r, calls) ∧
          "dataset-" ++ toString i ∈ r.datasets) ∧
        (∀ i < j, ∃! k, ∃ r calls, FullSearch.search maxLimit (.numbered "dataset" d)
            (.numbered "job" j) { req with offset := k * L } = .ok (r, calls) ∧
          "job-" ++ toString i ∈ r.jobs)) := by
  obtain ⟨hnext, hwindows⟩ := ofPage_windows_tile L d j
  refine ⟨hnext, hwindows, fun heven hpos hsum maxLimit req hfilter hlimit => ?_⟩
  -- page `k` is the search at offset `k * L`, whose rows are the windows of `ofPage L (k * L)`
  have hpage := fun k i => FullSearch.mem_search_numbered { req with offset := k * L } maxLimit
    d j i hfilter hsum
  simp only [hlimit] at hpage
  obtain ⟨hdatasets, hjobs⟩ := hwindows heven hpos
  refine ⟨fun i hi => ?_, fun i hi => ?_⟩
  · exact (existsUnique_congr fun k => (hpage k i).1).mpr (hdatasets i hi)
  · exact (existsUnique_congr fun k => (hpage k i).2).mpr (hjobs i hi)

/-- Pages of two rows over three datasets and five jobs: the second page starts where the
first ends, and each dataset is on one page. -/
theorem ofPage_pages_of_two_tile :
    1 * 2 % 2 = 0 ∧
      (ofPage 2 ((1 + 1) * 2) 3 5).datasets.offset =
        (ofPage 2 (1 * 2) 3 5).datasets.offset + (ofPage 2 (1 * 2) 3 5).datasets.limit ∧
      2 % 2 = 0 ∧ 0 < 2 ∧
      ∀ i < 3, ∃! k, (ofPage 2 (k * 2) 3 5).datasets.offset ≤ i ∧
        i < (ofPage 2 (k * 2) 3 5).datasets.offset + (ofPage 2 (k * 2) 3 5).datasets.limit :=
  ⟨by decide, ((ofPage_even_pages_tile 2 3 5).1 1 (by decide)).1, by decide, by decide,
    ((ofPage_even_pages_tile 2 3 5).2.1 (by decide) (by decide)).1⟩

end Budget

end Catalog
