import Catalog.Lineage.Statistics
import Catalog.Proofs.Utf8Order

/-!
# Lineage statistics are sets

`LineageStatistics.ofEdges` reads a dataset's edges once and collects, per direction, the jobs,
their namespaces and their job types, each into a strictly increasing list (`sortedSet`,
built by `insertSorted`).  Only an `io_type` of exactly `OUTPUT` (the dataset is produced) or
exactly `INPUT` (it is consumed) counts.

The main statement, `LineageStatistics.ofEdges_set_semantics`: per direction, the job count is
the number of distinct job UUIDs of the direction's edges, and the namespaces and job types are
those of the edges, strictly increasing (`IsSortedSetOf`); job types are there over all time
and absent for one version.  So the statistics depend only on which recognised edges there
are: reordering the edges, repeating some, or adding edges of any other `io_type` changes
nothing.

The proof rests on two facts of `sortedSet`: it holds exactly the elements of its input, in
strictly increasing order (`mem_sortedSet`, `pairwise_sortedSet`), and a strictly increasing
list is fixed by its elements (`sortedSet_congr`).  Strings are ordered by code point, which is
the byte order of their UTF-8 form (`Utf8.lt_iff_bytes_lt`), so the namespaces and job types
increase byte by byte as well (`pairwise_bytes_sortedSet`).
-/

namespace Catalog

/-! ### Sorted sets -/

/-- `l` lists the elements satisfying `P`, each once, in strictly increasing order. -/
def IsSortedSetOf {α : Type} [LT α] (l : List α) (P : α → Prop) : Prop :=
  l.Pairwise (· < ·) ∧ ∀ a, a ∈ l ↔ P a

section SortedSet

variable {α : Type} [LinearOrder α]

theorem mem_insertSorted (x a : α) (l : List α) : a ∈ insertSorted x l ↔ a = x ∨ a ∈ l := by
  induction l with
  | nil => simp [insertSorted]
  | cons y ys ih =>
    unfold insertSorted
    split_ifs with hxy hlt
    · subst hxy
      simp
    · simp
    · simp only [List.mem_cons, ih]
      tauto

theorem pairwise_insertSorted (x : α) {l : List α} (hl : l.Pairwise (· < ·)) :
    (insertSorted x l).Pairwise (· < ·) := by
  induction l with
  | nil => simp [insertSorted]
  | cons y ys ih =>
    rw [List.pairwise_cons] at hl
    obtain ⟨hhead, hrest⟩ := hl
    unfold insertSorted
    split_ifs with hxy hlt
    · exact List.pairwise_cons.mpr ⟨hhead, hrest⟩
    · refine List.pairwise_cons.mpr ⟨fun z hz => ?_, List.pairwise_cons.mpr ⟨hhead, hrest⟩⟩
      rcases List.mem_cons.mp hz with rfl | hz
      · exact hlt
      · exact lt_trans hlt (hhead z hz)
    · -- `x` goes after `y`, which is smaller than it
      have hgt : y < x := lt_of_le_of_ne (not_lt.mp hlt) (Ne.symm hxy)
      refine List.pairwise_cons.mpr ⟨fun z hz => ?_, ih hrest⟩
      rcases (mem_insertSorted x z ys).mp hz with rfl | hz
      · exact hgt
      · exact hhead z hz

theorem mem_foldl_insertSorted (a : α) (xs acc : List α) :
    a ∈ xs.foldl (fun acc x => insertSorted x acc) acc ↔ a ∈ acc ∨ a ∈ xs := by
  induction xs generalizing acc with
  | nil => simp
  | cons x xs ih =>
    rw [List.foldl_cons, ih, mem_insertSorted, List.mem_cons]
    tauto

theorem pairwise_foldl_insertSorted (xs : List α) {acc : List α} (hacc : acc.Pairwise (· < ·)) :
    (xs.foldl (fun acc x => insertSorted x acc) acc).Pairwise (· < ·) := by
  induction xs generalizing acc with
  | nil => exact hacc
  | cons x xs ih => exact ih (pairwise_insertSorted x hacc)

@[simp] theorem mem_sortedSet (a : α) (xs : List α) : a ∈ sortedSet xs ↔ a ∈ xs := by
  simp [sortedSet, mem_foldl_insertSorted]

theorem pairwise_sortedSet (xs : List α) : (sortedSet xs).Pairwise (· < ·) :=
  pairwise_foldl_insertSorted xs List.Pairwise.nil

/-- **A sorted set is fixed by its elements**: lists with the same elements, in any order and
with any repetition, give one sorted set. -/
theorem sortedSet_congr {xs ys : List α} (h : ∀ a, a ∈ xs ↔ a ∈ ys) :
    sortedSet xs = sortedSet ys :=
  (pairwise_sortedSet xs).eq_of_mem_iff (pairwise_sortedSet ys) (by simpa using h)

theorem isSortedSetOf_sortedSet (xs : List α) {P : α → Prop} (h : ∀ a, a ∈ xs ↔ P a) :
    IsSortedSetOf (sortedSet xs) P :=
  ⟨pairwise_sortedSet xs, by simpa using h⟩

theorem length_sortedSet (xs : List α) : (sortedSet xs).length = xs.toFinset.card := by
  have hset : (sortedSet xs).toFinset = xs.toFinset := by
    ext a
    simp
  rw [← hset, List.toFinset_card_of_nodup (pairwise_sortedSet xs).nodup]

end SortedSet

/-- A sorted set of texts increases strictly in the byte order of their UTF-8 form too. -/
theorem pairwise_bytes_sortedSet (xs : List String) :
    (sortedSet xs).Pairwise fun a b => Utf8.bytes a < Utf8.bytes b :=
  (pairwise_sortedSet xs).imp fun h => (Utf8.lt_iff_bytes_lt _ _).mp h

/-! ### Edges by direction -/

/-- The `io_type` of a direction. -/
def IoType.text : IoType → String
  | .output => "OUTPUT"
  | .input => "INPUT"

namespace LineageEdge

theorem io_eq_some_iff (e : LineageEdge) (d : IoType) : e.io = some d ↔ e.ioType = d.text := by
  unfold io
  cases d <;> split_ifs with hout hin <;> simp_all [IoType.text]

theorem io_ne_none_iff (e : LineageEdge) :
    e.io ≠ none ↔ e.ioType = "OUTPUT" ∨ e.ioType = "INPUT" := by
  rw [Option.ne_none_iff_exists']
  constructor
  · rintro ⟨d, hd⟩
    cases d <;> simp_all [io_eq_some_iff, IoType.text]
  · rintro (h | h)
    · exact ⟨.output, (io_eq_some_iff e .output).mpr h⟩
    · exact ⟨.input, (io_eq_some_iff e .input).mpr h⟩

end LineageEdge

theorem Uuid.value_injective : Function.Injective Uuid.value := by
  rintro ⟨a⟩ ⟨b⟩ h
  simpa using h

namespace LineageStatistics

/-- The distinct jobs on one side: producing for `output`, consuming for `input`. -/
def jobCount (s : LineageStatistics) : IoType → Nat
  | .output => s.inEdges
  | .input => s.outEdges

/-- The namespaces on one side. -/
def namespaces (s : LineageStatistics) : IoType → List String
  | .output => s.producingNamespaces
  | .input => s.consumingNamespaces

/-- The job types on one side. -/
def jobTypes (s : LineageStatistics) : IoType → Option (List String)
  | .output => s.producingJobTypes
  | .input => s.consumingJobTypes

section Sides

variable (edges : List LineageEdge) (scope : StatisticsScope) (d : IoType)

/-- The edges of one direction. -/
abbrev side : List LineageEdge := edges.filter fun e => e.io = some d

theorem jobCount_ofEdges :
    (ofEdges edges scope).jobCount d =
      (sortedSet ((side edges d).map fun e => e.jobUuid.value)).length := by
  cases d <;> rfl

theorem namespaces_ofEdges :
    (ofEdges edges scope).namespaces d =
      sortedSet ((side edges d).map LineageEdge.namespaceName) := by
  cases d <;> rfl

theorem jobTypes_ofEdges :
    (ofEdges edges scope).jobTypes d =
      if scope = .allTime then some (sortedSet ((side edges d).filterMap LineageEdge.jobType))
      else none := by
  cases d <;> rfl

end Sides

/-- Counting distinct UUIDs by their values counts distinct UUIDs. -/
theorem length_sortedSet_values (l : List LineageEdge) :
    (sortedSet (l.map fun e => e.jobUuid.value)).length =
      (l.map LineageEdge.jobUuid).toFinset.card := by
  have himage : (l.map fun e => e.jobUuid.value).toFinset =
      (l.map LineageEdge.jobUuid).toFinset.image Uuid.value := by
    ext n
    simp
  rw [length_sortedSet, himage, Finset.card_image_of_injective _ Uuid.value_injective]

/-- **One direction of the statistics**: its distinct jobs, its namespaces, and over all time
its job types, as sets. -/
theorem ofEdges_side (edges : List LineageEdge) (scope : StatisticsScope) (d : IoType) :
    (ofEdges edges scope).jobCount d =
        ((edges.filter fun e => e.ioType = d.text).map LineageEdge.jobUuid).toFinset.card ∧
      IsSortedSetOf ((ofEdges edges scope).namespaces d)
        (fun n => ∃ e ∈ edges, e.ioType = d.text ∧ e.namespaceName = n) ∧
      (match (ofEdges edges scope).jobTypes d with
        | some ts => scope = .allTime ∧
            IsSortedSetOf ts (fun t => ∃ e ∈ edges, e.ioType = d.text ∧ e.jobType = some t)
        | none => scope = .version) := by
  have hside : side edges d = edges.filter fun e => e.ioType = d.text := by
    simp only [side, LineageEdge.io_eq_some_iff]
  refine ⟨?_, ?_, ?_⟩
  · rw [jobCount_ofEdges, length_sortedSet_values, hside]
  · rw [namespaces_ofEdges]
    exact isSortedSetOf_sortedSet _ fun n => by simp [LineageEdge.io_eq_some_iff, and_assoc]
  · rw [jobTypes_ofEdges]
    cases scope with
    | allTime =>
      refine ⟨rfl, isSortedSetOf_sortedSet _ fun t => ?_⟩
      simp [LineageEdge.io_eq_some_iff, and_assoc]
    | version => rfl

/-- **Only the recognised edges count**: edge lists with the same edges of `io_type` `OUTPUT`
or `INPUT`, in any order, any number of times, give the same statistics. -/
theorem ofEdges_congr {edges edges' : List LineageEdge} (scope : StatisticsScope)
    (h : ∀ e, e.ioType = "OUTPUT" ∨ e.ioType = "INPUT" → (e ∈ edges' ↔ e ∈ edges)) :
    ofEdges edges' scope = ofEdges edges scope := by
  have hside : ∀ d e, e ∈ side edges' d ↔ e ∈ side edges d := by
    intro d e
    simp only [side, List.mem_filter, decide_eq_true_eq]
    -- an edge with a direction is a recognised one, which both lists share
    refine and_congr_left fun hd => h e ((LineageEdge.io_ne_none_iff e).mp ?_)
    simp [hd]
  have hmap : ∀ {β : Type} [LinearOrder β] (d : IoType) (f : LineageEdge → β),
      sortedSet ((side edges' d).map f) = sortedSet ((side edges d).map f) := by
    intro β _ d f
    exact sortedSet_congr fun a => by simp only [List.mem_map, hside]
  have hfilterMap : ∀ d, sortedSet ((side edges' d).filterMap LineageEdge.jobType) =
      sortedSet ((side edges d).filterMap LineageEdge.jobType) := by
    intro d
    exact sortedSet_congr fun a => by simp only [List.mem_filterMap, hside]
  simp only [side] at hmap hfilterMap
  simp only [ofEdges, hmap, hfilterMap]

/-- The namespaces and job types increase byte by byte in their UTF-8 form. -/
theorem ofEdges_bytes_increasing (edges : List LineageEdge) (scope : StatisticsScope)
    (d : IoType) :
    ((ofEdges edges scope).namespaces d).Pairwise (fun a b => Utf8.bytes a < Utf8.bytes b) ∧
      ∀ ts, (ofEdges edges scope).jobTypes d = some ts →
        ts.Pairwise (fun a b => Utf8.bytes a < Utf8.bytes b) := by
  refine ⟨?_, fun ts hts => ?_⟩
  · rw [namespaces_ofEdges]
    exact pairwise_bytes_sortedSet _
  · rw [jobTypes_ofEdges] at hts
    split_ifs at hts
    cases hts
    exact pairwise_bytes_sortedSet _

/-- **Lineage statistics are sets.**  Per direction, the number of distinct jobs, and the
strictly increasing namespaces and (over all time) job types of the edges whose `io_type` is
exactly that direction's, increasing also in the byte order of their UTF-8 form; so only the
set of recognised edges matters. -/
theorem ofEdges_set_semantics (edges : List LineageEdge) (scope : StatisticsScope) :
    (∀ d : IoType,
      (ofEdges edges scope).jobCount d =
          ((edges.filter fun e => e.ioType = d.text).map LineageEdge.jobUuid).toFinset.card ∧
        IsSortedSetOf ((ofEdges edges scope).namespaces d)
          (fun n => ∃ e ∈ edges, e.ioType = d.text ∧ e.namespaceName = n) ∧
        (match (ofEdges edges scope).jobTypes d with
          | some ts => scope = .allTime ∧
              IsSortedSetOf ts (fun t => ∃ e ∈ edges, e.ioType = d.text ∧ e.jobType = some t)
          | none => scope = .version)) ∧
    (∀ d : IoType,
      ((ofEdges edges scope).namespaces d).Pairwise (fun a b => Utf8.bytes a < Utf8.bytes b) ∧
        ∀ ts, (ofEdges edges scope).jobTypes d = some ts →
          ts.Pairwise (fun a b => Utf8.bytes a < Utf8.bytes b)) ∧
    (∀ edges' : List LineageEdge,
      (∀ e, e.ioType = "OUTPUT" ∨ e.ioType = "INPUT" → (e ∈ edges' ↔ e ∈ edges)) →
        ofEdges edges' scope = ofEdges edges scope) :=
  ⟨ofEdges_side edges scope, ofEdges_bytes_increasing edges scope,
    fun _ h => ofEdges_congr scope h⟩

/-- A writer and a reader; read backwards, twice, and after an edge typed `output` in lower
case, they give the same statistics. -/
theorem ofEdges_reordered_with_unknown_type :
    let edges : List LineageEdge :=
      [⟨"OUTPUT", ⟨1⟩, "ingest", some "BATCH"⟩, ⟨"INPUT", ⟨2⟩, "reporting", some "STREAM"⟩]
    let edges' : List LineageEdge := ⟨"output", ⟨3⟩, "ingest", none⟩ :: (edges.reverse ++ edges)
    (∀ e, e.ioType = "OUTPUT" ∨ e.ioType = "INPUT" → (e ∈ edges' ↔ e ∈ edges)) ∧
      ofEdges edges' .allTime = ofEdges edges .allTime := by
  intro edges edges'
  have h : ∀ e, e.ioType = "OUTPUT" ∨ e.ioType = "INPUT" → (e ∈ edges' ↔ e ∈ edges) := by
    intro e he
    simp only [edges', List.mem_cons, List.mem_append, List.mem_reverse]
    constructor
    · rintro (rfl | h | h)
      · simp at he
      · exact h
      · exact h
    · exact fun h => .inr (.inr h)
  exact ⟨h, (ofEdges_set_semantics edges .allTime).2.2 edges' h⟩

end LineageStatistics

end Catalog
