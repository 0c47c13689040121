import Catalog.Facet.Latest
import Mathlib

/-!
# The latest facet wins

`latestByName` reduces stored dataset facet rows to one document per owner and name, in two
passes.  The first keeps a winner per owner and name: a row replaces the winner unless the
winner is strictly later (`Winners.record`).  The second files the winners under their owners
(`insertOwner`), owners ordered by UUID and names sorted.

The main statement, `latestByName_latest_wins`: an owner has a document under a name exactly
when some row has that owner and name, and the document is the one of the row greatest in the
order of (creation instant, position in the list) (`LatestAt`); every owner filed has
documents; and when the rows come in the order of their instants, as storage gives them, an
owner's documents are its timeline of rows folded with the last write winning
(`foldTimeline`), the rule for job facets.

The proof rests on:

* `Winners.lookup_record_self`, `Winners.lookup_record_of_ne`: what recording a row does;
* `Winners.Sound`: the invariant of the first pass, kept by every row (`Winners.Sound.record`);
* `LatestAt.unique`: a key has at most one latest row, so the invariant pins the winner;
* `lookup_foldl_fileWinner`: filing winners keeps, for each owner and name, the last winner;
* `Json.Fields.Sorted.eq_of_lookup_eq`: two sorted member lists with the same values are equal.
-/

namespace Catalog

/-! ### Association lists -/

section Lookup

variable {κ ν : Type} [BEq κ] [LawfulBEq κ]

theorem lookup_cons_eq_ite [DecidableEq κ] (k k' : κ) (v : ν) (l : List (κ × ν)) :
    ((k', v) :: l).lookup k = if k = k' then some v else l.lookup k := by
  rw [List.lookup_cons]
  split
  · rename_i hb
    rw [if_pos (beq_iff_eq.mp hb)]
  · rename_i hb
    rw [if_neg (fun h => by simp [h] at hb)]

theorem mem_of_lookup_eq_some {l : List (κ × ν)} {k : κ} {v : ν} (h : l.lookup k = some v) :
    (k, v) ∈ l := by
  obtain ⟨l₁, l₂, rfl, -⟩ := List.lookup_eq_some_iff.mp h
  simp

theorem lookup_eq_none_of_not_mem {l : List (κ × ν)} {k : κ} (h : k ∉ l.map Prod.fst) :
    l.lookup k = none := by
  rw [List.lookup_eq_none_iff]
  intro p hp
  rw [bne_iff_ne]
  rintro rfl
  exact h (List.mem_map_of_mem hp)

/-- With each key once, the last entry of a key is also its first. -/
theorem lookup_reverse_of_nodup [DecidableEq κ] {l : List (κ × ν)} (h : (l.map Prod.fst).Nodup) (k : κ) :
    l.reverse.lookup k = l.lookup k := by
  induction l with
  | nil => rfl
  | cons e l ih =>
    obtain ⟨key, v⟩ := e
    rw [List.map_cons, List.nodup_cons] at h
    rw [List.reverse_cons, List.lookup_append, ih h.2, lookup_cons_eq_ite, lookup_cons_eq_ite]
    by_cases hk : k = key
    · subst hk
      simp [lookup_eq_none_of_not_mem h.1]
    · simp [hk]

end Lookup

/-! ### Sorted members -/

namespace Json.Fields

/-- Members whose keys strictly increase, so that each key occurs once. -/
def Sorted (m : Fields) : Prop := m.Pairwise (fun x y => x.1 < y.1)

theorem lookup_insert (key k : String) (value : Json) (m : Fields) :
    (insert key value m).lookup k = if k = key then some value else m.lookup k := by
  induction m with
  | nil => by_cases hk : k = key <;> simp [insert, hk]
  | cons e rest ih =>
    obtain ⟨k', v⟩ := e
    by_cases hkey : key = k'
    · subst hkey
      by_cases hk : k = key <;> simp [insert, hk, lookup_cons_eq_ite]
    · by_cases hlt : key < k'
      · by_cases hk : k = key <;> simp [insert, hkey, hlt, hk, lookup_cons_eq_ite]
      · -- the member stays in front, and the key goes further on
        by_cases hk : k = key
        · subst hk
          simp [insert, hkey, hlt, ih, lookup_cons_eq_ite]
        · simp [insert, hkey, hlt, hk, ih, lookup_cons_eq_ite]

theorem insert_ne_nil (key : String) (value : Json) (m : Fields) : insert key value m ≠ [] := by
  cases m with
  | nil => simp [insert]
  | cons e rest =>
    obtain ⟨k', v⟩ := e
    unfold insert
    split_ifs <;> simp

theorem mem_insert {key : String} {value : Json} {m : Fields} {x : String × Json}
    (h : x ∈ insert key value m) : x.1 = key ∨ x ∈ m := by
  induction m with
  | nil =>
    simp only [insert, List.mem_singleton] at h
    exact .inl (by rw [h])
  | cons e rest ih =>
    obtain ⟨k', v⟩ := e
    unfold insert at h
    split_ifs at h with hkey hlt
    · rcases List.mem_cons.mp h with rfl | h
      · exact .inl rfl
      · exact .inr (List.mem_cons_of_mem _ h)
    · rcases List.mem_cons.mp h with rfl | h
      · exact .inl rfl
      · exact .inr h
    · rcases List.mem_cons.mp h with rfl | h
      · exact .inr List.mem_cons_self
      · exact (ih h).imp id (List.mem_cons_of_mem _)

theorem Sorted.insert {m : Fields} (hm : Sorted m) (key : String) (value : Json) :
    Sorted (Fields.insert key value m) := by
  induction m with
  | nil => simp [Sorted, Fields.insert]
  | cons e rest ih =>
    obtain ⟨k', v⟩ := e
    rw [Sorted, List.pairwise_cons] at hm
    obtain ⟨hhead, hrest⟩ := hm
    unfold Fields.insert
    split_ifs with hkey hlt
    · subst hkey
      exact List.pairwise_cons.mpr ⟨hhead, hrest⟩
    · refine List.pairwise_cons.mpr ⟨fun y hy => ?_, List.pairwise_cons.mpr ⟨hhead, hrest⟩⟩
      rcases List.mem_cons.mp hy with rfl | hy
      · exact hlt
      · exact lt_trans hlt (hhead y hy)
    · -- the key goes after this member, which is smaller than it
      have hgt : k' < key := lt_of_le_of_ne (not_lt.mp hlt) (Ne.symm hkey)
      refine List.pairwise_cons.mpr ⟨fun y hy => ?_, ih hrest⟩
      rcases mem_insert hy with hy | hy
      · rw [hy]
        exact hgt
      · exact hhead y hy

theorem Sorted.lookup_tail {k : String} {v : Json} {rest : Fields}
    (h : Sorted ((k, v) :: rest)) : rest.lookup k = none := by
  rw [List.lookup_eq_none_iff]
  intro p hp
  rw [bne_iff_ne]
  exact ne_of_lt ((List.pairwise_cons.mp h).1 p hp)

theorem Sorted.head_le {k k' : String} {v v' : Json} {rest : Fields}
    (h : Sorted ((k', v') :: rest)) (hk : ((k', v') :: rest).lookup k = some v) : k' ≤ k := by
  rcases List.mem_cons.mp (mem_of_lookup_eq_some hk) with heq | hmem
  · rw [(Prod.mk.inj heq).1]
  · exact le_of_lt ((List.pairwise_cons.mp h).1 _ hmem)

/-- **Sorted members are their values**: two sorted member lists that give every key the same
value are equal. -/
theorem Sorted.eq_of_lookup_eq {m₁ m₂ : Fields} (h₁ : Sorted m₁) (h₂ : Sorted m₂)
    (h : ∀ k, m₁.lookup k = m₂.lookup k) : m₁ = m₂ := by
  induction m₁ generalizing m₂ with
  | nil =>
    cases m₂ with
    | nil => rfl
    | cons e rest =>
      obtain ⟨k, v⟩ := e
      have hk := h k
      simp at hk
  | cons e₁ r₁ ih =>
    cases m₂ with
    | nil =>
      obtain ⟨k, v⟩ := e₁
      have hk := h k
      simp at hk
    | cons e₂ r₂ =>
      obtain ⟨k₁, v₁⟩ := e₁
      obtain ⟨k₂, v₂⟩ := e₂
      -- the first keys agree, since each is at most the other
      have hle₁ : k₂ ≤ k₁ := h₂.head_le (v := v₁) (by rw [← h k₁]; simp)
      have hle₂ : k₁ ≤ k₂ := h₁.head_le (v := v₂) (by rw [h k₂]; simp)
      obtain rfl : k₁ = k₂ := le_antisymm hle₂ hle₁
      have hv : v₁ = v₂ := by simpa [lookup_cons_eq_ite] using h k₁
      subst hv
      have hrest : ∀ k, r₁.lookup k = r₂.lookup k := by
        intro k
        by_cases hk : k = k₁
        · subst hk
          rw [h₁.lookup_tail, h₂.lookup_tail]
        · simpa [lookup_cons_eq_ite, hk] using h k
      rw [ih (List.pairwise_cons.mp h₁).2 (List.pairwise_cons.mp h₂).2 hrest]

end Json.Fields

/-! ### Timelines -/

theorem foldTimeline_append (l : List (String × Json)) (name : String) (doc : Json) :
    foldTimeline (l ++ [(name, doc)]) = Json.Fields.insert name doc (foldTimeline l) := by
  rw [foldTimeline, List.foldl_append]
  rfl

/-- **The last write wins**: a timeline's document of a name is the last one it gives. -/
theorem lookup_foldTimeline (l : List (String × Json)) (k : String) :
    (foldTimeline l).lookup k = l.reverse.lookup k := by
  induction l using List.reverseRecOn with
  | nil => rfl
  | append_singleton l e ih =>
    obtain ⟨name, doc⟩ := e
    rw [foldTimeline_append, Json.Fields.lookup_insert, ih, List.reverse_append,
      List.reverse_singleton, List.singleton_append, lookup_cons_eq_ite]

theorem sorted_foldTimeline (l : List (String × Json)) : Json.Fields.Sorted (foldTimeline l) := by
  induction l using List.reverseRecOn with
  | nil => exact List.Pairwise.nil
  | append_singleton l e ih =>
    obtain ⟨name, doc⟩ := e
    rw [foldTimeline_append]
    exact ih.insert name doc

/-! ### Filing documents by owner -/

/-- Documents filed by owner: owners strictly increase by UUID, and every owner has
documents, its names strictly increasing. -/
structure FiledByOwner (acc : List (Uuid × FacetMap)) : Prop where
  owners_sorted : acc.Pairwise (fun p q => p.1.value < q.1.value)
  nonempty : ∀ p ∈ acc, p.2 ≠ []
  names_sorted : ∀ p ∈ acc, Json.Fields.Sorted p.2

theorem FiledByOwner.nil : FiledByOwner [] := ⟨List.Pairwise.nil, by simp, by simp⟩

/-- A filed entry is new, the owner's documents with one more, or untouched. -/
theorem mem_insertOwner {owner : Uuid} {name : String} {doc : Json}
    {acc : List (Uuid × FacetMap)} {p : Uuid × FacetMap} (h : p ∈ insertOwner owner name doc acc) :
    p = (owner, [(name, doc)]) ∨
      (∃ m, (owner, m) ∈ acc ∧ p = (owner, Json.Fields.insert name doc m)) ∨ p ∈ acc := by
  induction acc with
  | nil => exact .inl (List.mem_singleton.mp h)
  | cons e rest ih =>
    obtain ⟨o, m⟩ := e
    unfold insertOwner at h
    split_ifs at h with hsame hlt
    · subst hsame
      rcases List.mem_cons.mp h with rfl | h
      · exact .inr (.inl ⟨m, List.mem_cons_self, rfl⟩)
      · exact .inr (.inr (List.mem_cons_of_mem _ h))
    · rcases List.mem_cons.mp h with rfl | h
      · exact .inl rfl
      · exact .inr (.inr h)
    · rcases List.mem_cons.mp h with rfl | h
      · exact .inr (.inr List.mem_cons_self)
      · rcases ih h with hnew | ⟨m', hm', hp⟩ | hold
        · exact .inl hnew
        · exact .inr (.inl ⟨m', List.mem_cons_of_mem _ hm', hp⟩)
        · exact .inr (.inr (List.mem_cons_of_mem _ hold))

theorem owners_sorted_insertOwner {acc : List (Uuid × FacetMap)}
    (h : acc.Pairwise (fun p q => p.1.value < q.1.value)) (owner : Uuid) (name : String)
    (doc : Json) :
    (insertOwner owner name doc acc).Pairwise (fun p q => p.1.value < q.1.value) := by
  induction acc with
  | nil => simp [insertOwner]
  | cons e rest ih =>
    obtain ⟨o, m⟩ := e
    obtain ⟨hhead, hrest⟩ := List.pairwise_cons.mp h
    unfold insertOwner
    split_ifs with hsame hlt
    · subst hsame
      exact List.pairwise_cons.mpr ⟨hhead, hrest⟩
    · refine List.pairwise_cons.mpr ⟨fun q hq => ?_, h⟩
      rcases List.mem_cons.mp hq with rfl | hq
      · exact hlt
      · exact Nat.lt_trans hlt (hhead q hq)
    · -- the owner goes after this one, whose UUID is smaller
      have hne : owner.value ≠ o.value := fun hv => hsame (by cases owner; cases o; simp_all)
      refine List.pairwise_cons.mpr ⟨fun q hq => ?_, ih hrest⟩
      rcases mem_insertOwner hq with rfl | ⟨m', hm', rfl⟩ | hq
      · dsimp only
        omega
      · dsimp only
        omega
      · exact hhead q hq

theorem FiledByOwner.insertOwner {acc : List (Uuid × FacetMap)} (h : FiledByOwner acc)
    (owner : Uuid) (name : String) (doc : Json) :
    FiledByOwner (insertOwner owner name doc acc) where
  owners_sorted := owners_sorted_insertOwner h.owners_sorted owner name doc
  nonempty p hp := by
    rcases mem_insertOwner hp with rfl | ⟨m, -, rfl⟩ | hp
    · simp
    · exact Json.Fields.insert_ne_nil name doc m
    · exact h.nonempty p hp
  names_sorted p hp := by
    rcases mem_insertOwner hp with rfl | ⟨m, hm, rfl⟩ | hp
    · simp [Json.Fields.Sorted]
    · exact (h.names_sorted _ hm).insert name doc
    · exact h.names_sorted p hp

/-- Filing a document changes only its owner's documents, by one insertion. -/
theorem lookup_insertOwner {acc : List (Uuid × FacetMap)}
    (h : acc.Pairwise (fun p q => p.1.value < q.1.value)) (owner o : Uuid) (name : String)
    (doc : Json) :
    (insertOwner owner name doc acc).lookup o =
      if o = owner then some (Json.Fields.insert name doc ((acc.lookup owner).getD []))
      else acc.lookup o := by
  induction acc with
  | nil => by_cases ho : o = owner <;> simp [insertOwner, ho, Json.Fields.insert]
  | cons e rest ih =>
    obtain ⟨o', m⟩ := e
    obtain ⟨hhead, hrest⟩ := List.pairwise_cons.mp h
    by_cases hsame : owner = o'
    · subst hsame
      rw [insertOwner, if_pos rfl]
      by_cases ho : o = owner <;> simp [ho, lookup_cons_eq_ite]
    · by_cases hlt : owner.value < o'.value
      · -- a new owner before all others: it had no documents
        have hnone : rest.lookup owner = none := by
          rw [List.lookup_eq_none_iff]
          intro q hq
          rw [bne_iff_ne]
          rintro rfl
          exact absurd (Nat.lt_trans hlt (hhead q hq)) (Nat.lt_irrefl _)
        rw [insertOwner, if_neg hsame, if_pos hlt]
        by_cases ho : o = owner <;>
          simp [ho, hsame, hnone, lookup_cons_eq_ite, Json.Fields.insert]
      · rw [insertOwner, if_neg hsame, if_neg hlt]
        by_cases ho : o = owner
        · subst ho
          simp [hsame, ih hrest, lookup_cons_eq_ite]
        · by_cases ho' : o = o'
          · subst ho'
            simp [ho]
          · simp [ho, ho', ih hrest, lookup_cons_eq_ite]

/-- Filing a winner: its document under its owner and name. -/
def fileWinner (acc : List (Uuid × FacetMap)) (e : (Uuid × String) × (Int × Json)) :
    List (Uuid × FacetMap) :=
  insertOwner e.1.1 e.1.2 e.2.2 acc

theorem latestByName_eq_foldl_fileWinner (rows : List FacetRow) :
    latestByName rows = (rows.foldl Winners.record []).foldl fileWinner [] := rfl

theorem FiledByOwner.foldl_fileWinner (w : Winners) {acc : List (Uuid × FacetMap)}
    (h : FiledByOwner acc) : FiledByOwner (w.foldl fileWinner acc) := by
  induction w generalizing acc with
  | nil => exact h
  | cons e w ih => exact ih (h.insertOwner e.1.1 e.1.2 e.2.2)

theorem lookup_getD_nil (m : Option Json.Fields) (n : String) :
    (m.getD []).lookup n = m.bind (·.lookup n) := by
  cases m <;> rfl

/-- **Filing keeps the last winner** of each owner and name. -/
theorem lookup_foldl_fileWinner (w : Winners) {acc : List (Uuid × FacetMap)}
    (h : FiledByOwner acc) (o : Uuid) (n : String) :
    ((w.foldl fileWinner acc).lookup o).bind (·.lookup n) =
      ((w.reverse.lookup (o, n)).map (·.2)).or ((acc.lookup o).bind (·.lookup n)) := by
  induction w generalizing acc with
  | nil => simp
  | cons e w ih =>
    obtain ⟨⟨owner, name⟩, t, doc⟩ := e
    have hfiled : FiledByOwner (fileWinner acc ((owner, name), t, doc)) :=
      h.insertOwner owner name doc
    rw [List.foldl_cons, ih hfiled, List.reverse_cons,
      List.lookup_append, Option.map_or, Option.or_assoc]
    congr 1
    -- the winner just filed shows under its own owner and name only
    rw [fileWinner, lookup_insertOwner h.owners_sorted]
    dsimp only
    rw [lookup_cons_eq_ite, List.lookup_nil]
    by_cases ho : o = owner
    · subst ho
      by_cases hn : n = name
      · subst hn
        simp [Json.Fields.lookup_insert]
      · simp [Json.Fields.lookup_insert, hn, lookup_getD_nil]
    · simp [ho]

/-! ### The winner of each owner and name -/

/-- Row `i` of `rows`, `r`, is the latest of its owner and name: every row with the same owner
and name is at an earlier instant, or at the same instant and no later in the list. -/
def LatestAt (rows : List FacetRow) (i : Nat) (r : FacetRow) : Prop :=
  rows[i]? = some r ∧ ∀ j s, rows[j]? = some s → s.owner = r.owner → s.name = r.name →
    s.createdAt.instant < r.createdAt.instant ∨
      (s.createdAt.instant = r.createdAt.instant ∧ j ≤ i)

theorem getElem?_append_singleton_eq_some {α : Type} {rows : List α} {row s : α} {j : Nat} :
    (rows ++ [row])[j]? = some s ↔
      (j < rows.length ∧ rows[j]? = some s) ∨ (j = rows.length ∧ s = row) := by
  rw [List.getElem?_append]
  by_cases hj : j < rows.length
  · rw [if_pos hj]
    constructor
    · intro h
      exact .inl ⟨hj, h⟩
    · rintro (⟨-, h⟩ | ⟨rfl, -⟩)
      · exact h
      · exact absurd hj (Nat.lt_irrefl _)
  · rw [if_neg hj, List.getElem?_singleton]
    constructor
    · intro h
      split_ifs at h with h0
      · exact .inr ⟨by omega, (Option.some.inj h).symm⟩
    · rintro (⟨hlt, -⟩ | ⟨rfl, rfl⟩)
      · exact absurd hlt hj
      · simp

namespace LatestAt

variable {rows : List FacetRow} {i i' : Nat} {r r' : FacetRow}

/-- **A key has one latest row.** -/
theorem unique (h : LatestAt rows i r) (h' : LatestAt rows i' r') (ho : r'.owner = r.owner)
    (hn : r'.name = r.name) : i = i' ∧ r = r' := by
  have hi : i = i' := by
    have h₁ := h.2 i' r' h'.1 ho hn
    have h₂ := h'.2 i r h.1 ho.symm hn.symm
    omega
  subst hi
  exact ⟨rfl, Option.some.inj (h.1.symm.trans h'.1)⟩

theorem instant_le (h : LatestAt rows i r) {s : FacetRow} (hs : s ∈ rows) (ho : s.owner = r.owner)
    (hn : s.name = r.name) : s.createdAt.instant ≤ r.createdAt.instant := by
  obtain ⟨j, hj⟩ := List.mem_iff_getElem?.mp hs
  rcases h.2 j s hj ho hn with hlt | ⟨heq, -⟩
  · exact le_of_lt hlt
  · exact le_of_eq heq

/-- A latest row stays latest after a row that is not of its key, or is strictly earlier. -/
theorem append (h : LatestAt rows i r) {row : FacetRow}
    (hrow : row.owner = r.owner → row.name = r.name →
      row.createdAt.instant < r.createdAt.instant) :
    LatestAt (rows ++ [row]) i r := by
  have hi : i < rows.length := (List.getElem?_eq_some_iff.mp h.1).1
  refine ⟨by rw [List.getElem?_append_left hi]; exact h.1, fun j s hs ho hn => ?_⟩
  rcases getElem?_append_singleton_eq_some.mp hs with ⟨-, hs⟩ | ⟨-, rfl⟩
  · exact h.2 j s hs ho hn
  · exact .inl (hrow ho hn)

/-- The row appended is latest when no earlier row of its key is later. -/
theorem last {row : FacetRow}
    (hall : ∀ s ∈ rows, s.owner = row.owner → s.name = row.name →
      s.createdAt.instant ≤ row.createdAt.instant) :
    LatestAt (rows ++ [row]) rows.length row := by
  refine ⟨by simp, fun j s hs ho hn => ?_⟩
  rcases getElem?_append_singleton_eq_some.mp hs with ⟨hj, hs⟩ | ⟨hj, rfl⟩
  · have hle := hall s (List.mem_of_getElem? hs) ho hn
    rcases lt_or_eq_of_le hle with hlt | heq
    · exact .inl hlt
    · exact .inr ⟨heq, le_of_lt hj⟩
  · exact .inr ⟨rfl, le_of_eq hj⟩

end LatestAt

namespace Winners

/-- Giving one key a new value. -/
theorem lookup_map_replace (w : Winners) (key : Uuid × String) (new : Int × Json)
    (k : Uuid × String) :
    (w.map fun e => if e.1 = key then (e.1, new) else e).lookup k =
      if k = key then (w.lookup k).map (fun _ => new) else w.lookup k := by
  induction w with
  | nil => simp
  | cons e w ih =>
    obtain ⟨k', v⟩ := e
    rw [List.map_cons]
    by_cases hk' : k' = key
    · subst hk'
      by_cases hk : k = k' <;> simp [hk, ih, lookup_cons_eq_ite]
    · by_cases hk : k = key
      · subst hk
        have hne : k ≠ k' := Ne.symm hk'
        simp [hk', hne, ih, lookup_cons_eq_ite]
      · by_cases hk'' : k = k' <;> simp [hk', hk, hk'', ih, lookup_cons_eq_ite]

theorem map_fst_map_replace (w : Winners) (key : Uuid × String) (new : Int × Json) :
    (w.map fun e => if e.1 = key then (e.1, new) else e).map Prod.fst = w.map Prod.fst := by
  rw [List.map_map]
  refine List.map_congr_left (fun e _ => ?_)
  rw [Function.comp_apply]
  split <;> rfl

variable (w : Winners) (row : FacetRow)

/-! The three ways a row is recorded: as the first of its key, over a winner no later than
it, or not at all under a strictly later winner. -/

theorem record_of_none (hw : w.lookup (row.owner, row.name) = none) :
    w.record row = w ++ [((row.owner, row.name), (row.createdAt.instant, row.document))] := by
  unfold record
  simp only [hw]

theorem record_of_le {t : Int} {d : Json} (hw : w.lookup (row.owner, row.name) = some (t, d))
    (hle : t ≤ row.createdAt.instant) :
    w.record row = w.map fun e =>
      if e.1 = (row.owner, row.name) then (e.1, (row.createdAt.instant, row.document)) else e := by
  unfold record
  simp only [hw, if_pos hle]

theorem record_of_lt {t : Int} {d : Json} (hw : w.lookup (row.owner, row.name) = some (t, d))
    (hlt : row.createdAt.instant < t) : w.record row = w := by
  unfold record
  simp only [hw, if_neg (not_le.mpr hlt)]

theorem lookup_record_of_none (hw : w.lookup (row.owner, row.name) = none) :
    (w.record row).lookup (row.owner, row.name) =
      some (row.createdAt.instant, row.document) := by
  rw [record_of_none w row hw, List.lookup_append, hw, lookup_cons_eq_ite, if_pos rfl]
  rfl

/-- **Recording a row** makes it the winner of its key unless the winner is strictly later. -/
theorem lookup_record_of_some {t : Int} {d : Json}
    (hw : w.lookup (row.owner, row.name) = some (t, d)) :
    (w.record row).lookup (row.owner, row.name) =
      if t ≤ row.createdAt.instant then some (row.createdAt.instant, row.document)
      else some (t, d) := by
  by_cases hle : t ≤ row.createdAt.instant
  · rw [record_of_le w row hw hle, lookup_map_replace, if_pos rfl, hw, if_pos hle]
    rfl
  · rw [record_of_lt w row hw (lt_of_not_ge hle), hw, if_neg hle]

theorem lookup_record_of_ne {k : Uuid × String} (hk : k ≠ (row.owner, row.name)) :
    (w.record row).lookup k = w.lookup k := by
  cases hw : w.lookup (row.owner, row.name) with
  | none =>
    rw [record_of_none w row hw, List.lookup_append, lookup_cons_eq_ite, if_neg hk,
      List.lookup_nil, Option.or_none]
  | some e =>
    obtain ⟨t, d⟩ := e
    by_cases hle : t ≤ row.createdAt.instant
    · rw [record_of_le w row hw hle, lookup_map_replace, if_neg hk]
    · rw [record_of_lt w row hw (lt_of_not_ge hle)]

theorem nodup_record (h : (w.map Prod.fst).Nodup) : ((w.record row).map Prod.fst).Nodup := by
  cases hw : w.lookup (row.owner, row.name) with
  | none =>
    rw [record_of_none w row hw, List.map_append, List.map_singleton]
    refine List.Nodup.append h (List.nodup_singleton _) ?_
    -- the key is new, since it had no winner
    intro k hk hk'
    rw [List.mem_singleton.mp hk'] at hk
    obtain ⟨p, hp, hfst⟩ := List.mem_map.mp hk
    have hne := List.lookup_eq_none_iff.mp hw p hp
    rw [bne_iff_ne] at hne
    exact hne hfst.symm
  | some e =>
    obtain ⟨t, d⟩ := e
    by_cases hle : t ≤ row.createdAt.instant
    · rw [record_of_le w row hw hle, map_fst_map_replace]
      exact h
    · rw [record_of_lt w row hw (lt_of_not_ge hle)]
      exact h

theorem lookup_record_ne_none : (w.record row).lookup (row.owner, row.name) ≠ none := by
  cases hw : w.lookup (row.owner, row.name) with
  | none => simp [lookup_record_of_none w row hw]
  | some e =>
    obtain ⟨t, d⟩ := e
    rw [lookup_record_of_some w row hw]
    split <;> simp

/-- What the winners after some rows say: each key is held once; a key has no winner exactly
when no row has it; and a key's winner is its latest row. -/
structure Sound (rows : List FacetRow) (w : Winners) : Prop where
  nodup : (w.map Prod.fst).Nodup
  lookup_eq_none_iff : ∀ k, w.lookup k = none ↔ ∀ r ∈ rows, (r.owner, r.name) ≠ k
  latest : ∀ k t d, w.lookup k = some (t, d) →
    ∃ i r, LatestAt rows i r ∧ (r.owner, r.name) = k ∧ r.createdAt.instant = t ∧
      r.document = d

theorem Sound.nil : Sound [] [] := ⟨List.nodup_nil, by simp, by simp⟩

variable {w row}

/-- **Recording a row keeps the winners sound.** -/
theorem Sound.record {rows : List FacetRow} (h : Sound rows w) :
    Sound (rows ++ [row]) (w.record row) where
  nodup := nodup_record w row h.nodup
  lookup_eq_none_iff k := by
    by_cases hk : k = (row.owner, row.name)
    · -- the row's own key has a winner now, and a row
      subst hk
      refine ⟨fun hnone => absurd hnone (lookup_record_ne_none w row), fun hall => ?_⟩
      exact absurd rfl (hall row (List.mem_append_right rows (List.mem_singleton_self row)))
    · rw [lookup_record_of_ne w row hk, h.lookup_eq_none_iff k]
      constructor
      · intro hall r hr
        rcases List.mem_append.mp hr with hr | hr
        · exact hall r hr
        · rw [List.mem_singleton.mp hr]
          exact Ne.symm hk
      · intro hall r hr
        exact hall r (List.mem_append_left _ hr)
  latest k t d hsome := by
    by_cases hk : k = (row.owner, row.name)
    · subst hk
      cases hw : w.lookup (row.owner, row.name) with
      | none =>
        -- the first row of its key
        rw [lookup_record_of_none w row hw] at hsome
        obtain ⟨rfl, rfl⟩ := Prod.mk.inj (Option.some.inj hsome)
        refine ⟨rows.length, row, LatestAt.last (fun s hs ho hn => ?_), rfl, rfl, rfl⟩
        exact absurd (by rw [ho, hn]) ((h.lookup_eq_none_iff _).mp hw s hs)
      | some e =>
        obtain ⟨t₀, d₀⟩ := e
        obtain ⟨i, r, hr, hkey, rfl, rfl⟩ := h.latest _ t₀ d₀ hw
        obtain ⟨hro, hrn⟩ := Prod.mk.inj hkey
        rw [lookup_record_of_some w row hw] at hsome
        split_ifs at hsome with hle
        · -- the row wins: every earlier row of its key is no later than the old winner
          obtain ⟨rfl, rfl⟩ := Prod.mk.inj (Option.some.inj hsome)
          refine ⟨rows.length, row, LatestAt.last (fun s hs ho hn => ?_), rfl, rfl, rfl⟩
          exact le_trans (hr.instant_le hs (ho.trans hro.symm) (hn.trans hrn.symm)) hle
        · -- the old winner is strictly later and stays
          obtain ⟨rfl, rfl⟩ := Prod.mk.inj (Option.some.inj hsome)
          exact ⟨i, r, hr.append (fun _ _ => lt_of_not_ge hle), hkey, rfl, rfl⟩
    · rw [lookup_record_of_ne w row hk] at hsome
      obtain ⟨i, r, hr, hkey, ht, hd⟩ := h.latest k t d hsome
      refine ⟨i, r, hr.append (fun ho hn => ?_), hkey, ht, hd⟩
      exact absurd (by rw [← hkey, ho, hn]) hk

end Winners

theorem sound_foldl_record (rows : List FacetRow) :
    Winners.Sound rows (rows.foldl Winners.record []) := by
  induction rows using List.reverseRecOn with
  | nil => exact Winners.Sound.nil
  | append_singleton rows row ih =>
    rw [List.foldl_append, List.foldl_cons, List.foldl_nil]
    exact ih.record

/-- **The winner of a key is its latest row.** -/
theorem winners_lookup_eq_some_iff (rows : List FacetRow) (k : Uuid × String) (t : Int)
    (d : Json) :
    (rows.foldl Winners.record []).lookup k = some (t, d) ↔
      ∃ i r, LatestAt rows i r ∧ (r.owner, r.name) = k ∧ r.createdAt.instant = t ∧
        r.document = d := by
  have hsound := sound_foldl_record rows
  refine ⟨hsound.latest k t d, ?_⟩
  rintro ⟨i, r, hr, rfl, rfl, rfl⟩
  -- the key has a winner, which is a latest row of it, hence this one
  cases hw : (rows.foldl Winners.record []).lookup (r.owner, r.name) with
  | none =>
    exact absurd rfl ((hsound.lookup_eq_none_iff _).mp hw r (List.mem_of_getElem? hr.1))
  | some e =>
    obtain ⟨t', d'⟩ := e
    obtain ⟨i', r', hr', hkey, rfl, rfl⟩ := hsound.latest _ t' d' hw
    obtain ⟨ho, hn⟩ := Prod.mk.inj hkey
    obtain ⟨-, rfl⟩ := hr.unique hr' ho hn
    rfl

/-- Rows in the order of their instants: every row wins over the rows before it. -/
theorem winners_lookup_of_sorted {rows : List FacetRow}
    (hsorted : rows.Pairwise (fun r s => r.createdAt.instant ≤ s.createdAt.instant))
    (k : Uuid × String) :
    (rows.foldl Winners.record []).lookup k =
      (rows.reverse.map fun r => ((r.owner, r.name), (r.createdAt.instant, r.document))).lookup k := by
  induction rows using List.reverseRecOn generalizing k with
  | nil => rfl
  | append_singleton rows row ih =>
    obtain ⟨hrows, -, hbefore⟩ := List.pairwise_append.mp hsorted
    rw [List.foldl_append, List.foldl_cons, List.foldl_nil, List.reverse_append,
      List.reverse_singleton, List.singleton_append, List.map_cons, lookup_cons_eq_ite]
    by_cases hk : k = (row.owner, row.name)
    · subst hk
      cases hw : (rows.foldl Winners.record []).lookup (row.owner, row.name) with
      | none =>
        rw [Winners.lookup_record_of_none _ _ hw]
        simp
      | some e =>
        obtain ⟨t, d⟩ := e
        -- a winner so far is an earlier row, so it is no later than this one
        have hle : t ≤ row.createdAt.instant := by
          rw [ih hrows] at hw
          obtain ⟨s, hs, hfs⟩ := List.mem_map.mp (mem_of_lookup_eq_some hw)
          obtain ⟨-, hts⟩ := Prod.mk.inj hfs
          rw [← (Prod.mk.inj hts).1]
          exact hbefore s (List.mem_reverse.mp hs) row (List.mem_singleton_self row)
        rw [Winners.lookup_record_of_some _ _ hw, if_pos hle]
        simp
    · rw [Winners.lookup_record_of_ne _ _ hk, ih hrows]
      simp [hk]

/-- An owner's rows, as a timeline of names and documents, give a name the value of the first
row of that owner and name. -/
theorem lookup_rowsOf (l : List FacetRow) (o : Uuid) (n : String) :
    ((l.filter (·.owner = o)).map fun r => (r.name, r.document)).lookup n =
      ((l.map fun r => ((r.owner, r.name), (r.createdAt.instant, r.document))).lookup
        (o, n)).map (·.2) := by
  induction l with
  | nil => rfl
  | cons r l ih =>
    by_cases ho : r.owner = o
    · by_cases hn : n = r.name
      · simp [ho, hn]
      · simp [ho, hn, ih, lookup_cons_eq_ite]
    · have hne : (o, n) ≠ (r.owner, r.name) := fun h => ho (Prod.mk.inj h).1.symm
      simp [ho, hne, ih, lookup_cons_eq_ite]

/-! ### The latest documents -/

/-- An owner's document under a name is the one of its last winner. -/
theorem latestByName_lookup_bind (rows : List FacetRow) (o : Uuid) (n : String) :
    ((latestByName rows).lookup o).bind (·.lookup n) =
      ((rows.foldl Winners.record []).lookup (o, n)).map (·.2) := by
  rw [latestByName_eq_foldl_fileWinner, lookup_foldl_fileWinner _ FiledByOwner.nil,
    lookup_reverse_of_nodup (sound_foldl_record rows).nodup]
  simp

theorem filedByOwner_latestByName (rows : List FacetRow) : FiledByOwner (latestByName rows) :=
  FiledByOwner.foldl_fileWinner _ FiledByOwner.nil

/-- An owner has a document under a name exactly when some row has that owner and name. -/
theorem latestByName_has_document_iff (rows : List FacetRow) (o : Uuid) (n : String) :
    (∃ m d, (latestByName rows).lookup o = some m ∧ m.lookup n = some d) ↔
      ∃ r ∈ rows, r.owner = o ∧ r.name = n := by
  -- a document exists exactly when the key has a winner, that is when a row has the key
  have hwinner : ((latestByName rows).lookup o).bind (·.lookup n) ≠ none ↔
      ∃ r ∈ rows, (r.owner, r.name) = (o, n) := by
    rw [latestByName_lookup_bind, Ne, Option.map_eq_none_iff,
      (sound_foldl_record rows).lookup_eq_none_iff]
    push Not
    rfl
  constructor
  · rintro ⟨m, d, hm, hd⟩
    obtain ⟨r, hr, hkey⟩ := hwinner.mp (by rw [hm]; simp [hd])
    exact ⟨r, hr, (Prod.mk.inj hkey).1, (Prod.mk.inj hkey).2⟩
  · rintro ⟨r, hr, rfl, rfl⟩
    obtain ⟨d, hd⟩ := Option.ne_none_iff_exists'.mp (hwinner.mpr ⟨r, hr, rfl⟩)
    obtain ⟨m, hm, hmd⟩ := Option.bind_eq_some_iff.mp hd
    exact ⟨m, d, hm, hmd⟩

/-- An owner's document under a name is the one of the latest row of that owner and name. -/
theorem latestByName_document_eq_some_iff (rows : List FacetRow) (o : Uuid) (n : String)
    (d : Json) :
    ((latestByName rows).lookup o).bind (·.lookup n) = some d ↔
      ∃ i r, LatestAt rows i r ∧ r.owner = o ∧ r.name = n ∧ r.document = d := by
  rw [latestByName_lookup_bind, Option.map_eq_some_iff]
  constructor
  · rintro ⟨⟨t, d'⟩, hw, rfl⟩
    obtain ⟨i, r, hr, hkey, -, hd⟩ := (winners_lookup_eq_some_iff rows _ t d').mp hw
    exact ⟨i, r, hr, (Prod.mk.inj hkey).1, (Prod.mk.inj hkey).2, hd⟩
  · rintro ⟨i, r, hr, rfl, rfl, rfl⟩
    exact ⟨(r.createdAt.instant, r.document),
      (winners_lookup_eq_some_iff rows _ _ _).mpr ⟨i, r, hr, rfl, rfl, rfl⟩, rfl⟩

/-- **Storage order is a timeline**: with rows in the order of their instants, an owner's
documents are its rows folded with the last write winning. -/
theorem latestByName_eq_foldTimeline {rows : List FacetRow}
    (hsorted : rows.Pairwise (fun r s => r.createdAt.instant ≤ s.createdAt.instant)) (o : Uuid) :
    ((latestByName rows).lookup o).getD [] =
      foldTimeline ((rows.filter (·.owner = o)).map fun r => (r.name, r.document)) := by
  -- both sides are sorted members, so their values decide
  have hleft : Json.Fields.Sorted (((latestByName rows).lookup o).getD []) := by
    cases hm : (latestByName rows).lookup o with
    | none => exact List.Pairwise.nil
    | some m =>
      exact (filedByOwner_latestByName rows).names_sorted (o, m) (mem_of_lookup_eq_some hm)
  refine Json.Fields.Sorted.eq_of_lookup_eq hleft (sorted_foldTimeline _) (fun n => ?_)
  rw [lookup_getD_nil, latestByName_lookup_bind, lookup_foldTimeline, ← List.map_reverse,
    ← List.filter_reverse, lookup_rowsOf, winners_lookup_of_sorted hsorted]

/-- **The latest facet wins.**  Filed by owner, with owners and names in order and no owner
without documents, an owner has a document under a name exactly when some row has that
owner and name; the document is the one of the row greatest in the order of creation
instant, then position in the list.  When the rows come in the order of their instants, an
owner's documents are its timeline folded with the last write winning. -/
theorem latestByName_latest_wins (rows : List FacetRow) :
    FiledByOwner (latestByName rows) ∧
    (∀ o n, (∃ m d, (latestByName rows).lookup o = some m ∧ m.lookup n = some d) ↔
      ∃ r ∈ rows, r.owner = o ∧ r.name = n) ∧
    (∀ o n d, ((latestByName rows).lookup o).bind (·.lookup n) = some d ↔
      ∃ i r, LatestAt rows i r ∧ r.owner = o ∧ r.name = n ∧ r.document = d) ∧
    (rows.Pairwise (fun r s => r.createdAt.instant ≤ s.createdAt.instant) →
      ∀ o, ((latestByName rows).lookup o).getD [] =
        foldTimeline ((rows.filter (·.owner = o)).map fun r => (r.name, r.document))) :=
  ⟨filedByOwner_latestByName rows, latestByName_has_document_iff rows,
    latestByName_document_eq_some_iff rows, fun hsorted => latestByName_eq_foldTimeline hsorted⟩

/-- Two schemas of one dataset version stored at the same instant, written with different
offsets: in storage order the later row wins, as in its timeline. -/
theorem latestByName_schema_timeline :
    let rows : List FacetRow :=
      [⟨⟨7⟩, "DATASET", "schema", .str "v1", ⟨2024, 1, 1, 0, 0, 0, 0, 0⟩⟩,
        ⟨⟨7⟩, "DATASET", "schema", .str "v2", ⟨2024, 1, 1, 1, 0, 0, 0, 60⟩⟩]
    rows.Pairwise (fun r s => r.createdAt.instant ≤ s.createdAt.instant) ∧
      ((latestByName rows).lookup ⟨7⟩).getD [] =
        foldTimeline ((rows.filter (·.owner = ⟨7⟩)).map fun r => (r.name, r.document)) :=
  ⟨by decide, (latestByName_latest_wins _).2.2.2 (by decide) _⟩

end Catalog
