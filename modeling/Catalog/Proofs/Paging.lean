import Catalog.Proofs.Split

/-!
# Pages of a federated search

`Budget.ofPage L o d j` places a page of `L` rows after `o` rows over `d` datasets and `j`
jobs: the offset is split first, over all the rows, then the limit over the rows after each
offset.  Each collection's window `[offset, offset + limit)` lies inside its rows, and the two
windows hold `min L (d + j - o)` rows together.

Pages taken one after another, at offsets `0, L, 2 * L, …`, meet end to end when the earlier
offset is even: the next page starts in each collection where this page ends
(`split_first_add`).  So with an even page size every dataset and every job is on exactly one
page.  With an odd page size they need not meet: an odd offset gives its odd row to datasets,
and so does the odd limit placed after it, while the next, even, offset splits evenly.  Over
`100` datasets and `100` jobs, pages of one row show dataset `1` twice and job `0` never.

* `Budget.ofPage_datasets_end_le`, `Budget.ofPage_jobs_end_le`: windows inside the rows.
* `Budget.ofPage_limits`: the page is full as far as rows remain after the offset.
* `Budget.ofPage_limit_mono`: a larger page keeps the offsets and no limit shrinks.
* `Budget.ofPage_withinWords`: both splits stay in 64 bits, and the offsets fit the counts.
* `Budget.ofPage_next_offsets`: consecutive pages meet after an even offset.
* `Budget.ofPage_windows_tile`: with an even page size each row is in exactly one page's
  window.
-/

namespace Catalog

/-! ### Windows laid end to end -/

section Windows

variable {start len : Nat → Nat}

theorem start_mono (hnext : ∀ k, start (k + 1) = start k + len k) {k k' : Nat} (h : k ≤ k') :
    start k ≤ start k' := by
  induction h with
  | refl => exact Nat.le_refl _
  | step _ ih =>
    rw [hnext]
    omega

/-- **Windows laid end to end** from `0` hold every position before the start of some
window in exactly one of them. -/
theorem existsUnique_window (hzero : start 0 = 0) (hnext : ∀ k, start (k + 1) = start k + len k)
    {i K : Nat} (hi : i < start K) : ∃! k, start k ≤ i ∧ i < start k + len k := by
  have hexists : ∀ K, i < start K → ∃ k, start k ≤ i ∧ i < start k + len k := by
    intro K
    induction K with
    | zero => omega
    | succ K ih =>
      intro hK
      by_cases hbefore : i < start K
      · exact ih hbefore
      · exact ⟨K, by omega, by rw [← hnext]; exact hK⟩
  obtain ⟨k, hk⟩ := hexists K hi
  refine ⟨k, hk, ?_⟩
  intro k' hk'
  -- a later window starts after the end of an earlier one
  rcases Nat.lt_trichotomy k' k with hlt | heq | hgt
  · have hlater := start_mono hnext (Nat.succ_le_of_lt hlt)
    rw [hnext] at hlater
    omega
  · exact heq
  · have hlater := start_mono hnext (Nat.succ_le_of_lt hgt)
    rw [hnext] at hlater
    omega

end Windows

namespace Budget

/-! ### One page -/

section Page

variable (L o d j : Nat)

@[simp] theorem ofPage_datasets_offset : (ofPage L o d j).datasets.offset = (split o d j).first :=
  rfl

@[simp] theorem ofPage_jobs_offset : (ofPage L o d j).jobs.offset = (split o d j).second := rfl

@[simp] theorem ofPage_datasets_limit :
    (ofPage L o d j).datasets.limit =
      (split L (d - (split o d j).first) (j - (split o d j).second)).first := rfl

@[simp] theorem ofPage_jobs_limit :
    (ofPage L o d j).jobs.limit =
      (split L (d - (split o d j).first) (j - (split o d j).second)).second := rfl

theorem ofPage_datasets_end_le :
    (ofPage L o d j).datasets.offset + (ofPage L o d j).datasets.limit ≤ d := by
  have hoffset := split_first_le o d j
  have hlimit := split_first_le L (d - (split o d j).first) (j - (split o d j).second)
  simp only [ofPage_datasets_offset, ofPage_datasets_limit]
  omega

theorem ofPage_jobs_end_le : (ofPage L o d j).jobs.offset + (ofPage L o d j).jobs.limit ≤ j := by
  have hoffset := split_second_le o d j
  have hlimit := split_second_le L (d - (split o d j).first) (j - (split o d j).second)
  simp only [ofPage_jobs_offset, ofPage_jobs_limit]
  omega

/-- **A page is full** as far as rows remain after its offset. -/
theorem ofPage_limits :
    (ofPage L o d j).datasets.limit + (ofPage L o d j).jobs.limit = min L (d + j - o) := by
  have hoffsets := split_first_add_second o d j
  have hfirst := split_first_le o d j
  have hsecond := split_second_le o d j
  have hlimits := split_first_add_second L (d - (split o d j).first) (j - (split o d j).second)
  simp only [ofPage_datasets_limit, ofPage_jobs_limit]
  omega

/-- **A larger page keeps its offsets** and gives each collection at least the rows it had:
the offsets do not depend on the page size, and the rows left after them are split
monotonically. -/
theorem ofPage_limit_mono {L L' : Nat} (h : L ≤ L') :
    (ofPage L' o d j).datasets.offset = (ofPage L o d j).datasets.offset ∧
      (ofPage L' o d j).jobs.offset = (ofPage L o d j).jobs.offset ∧
      (ofPage L o d j).datasets.limit ≤ (ofPage L' o d j).datasets.limit ∧
      (ofPage L o d j).jobs.limit ≤ (ofPage L' o d j).jobs.limit :=
  ⟨rfl, rfl, split_first_mono _ _ h, split_second_mono _ _ h⟩

end Page

/-! ### Sixty-four bits -/

/-- **Placing a page stays in 64 bits.**  For a page size and an offset below `2 ^ 64`, and
whatever the two counts, the split of the offset and the split of the page over the rows
left take no step outside a 64-bit word: no odd row is taken back that was not moved, and no
sum they form without saturation reaches `2 ^ 64`.  Each offset is at most its collection's
count, so the rows left after it are an exact difference. -/
theorem ofPage_withinWords {L o : Nat} (d j : Nat) (hL : L < 2 ^ 64) (ho : o < 2 ^ 64) :
    (Split.run o d j).WithinWords ∧
      (ofPage L o d j).datasets.offset ≤ d ∧ (ofPage L o d j).jobs.offset ≤ j ∧
      (Split.run L (d - (ofPage L o d j).datasets.offset)
        (j - (ofPage L o d j).jobs.offset)).WithinWords :=
  ⟨Split.run_withinWords d j ho, split_first_le o d j, split_second_le o d j,
    Split.run_withinWords _ _ hL⟩

/-- At the top of the 64-bit range, with every count and the page and offset all
`2 ^ 64 - 1`, both splits stay in 64 bits. -/
theorem ofPage_withinWords_at_top :
    2 ^ 64 - 1 < 2 ^ 64 ∧
      (Split.run (2 ^ 64 - 1) (2 ^ 64 - 1) (2 ^ 64 - 1)).WithinWords ∧
      (ofPage (2 ^ 64 - 1) (2 ^ 64 - 1) (2 ^ 64 - 1) (2 ^ 64 - 1)).datasets.offset ≤
        2 ^ 64 - 1 ∧
      (ofPage (2 ^ 64 - 1) (2 ^ 64 - 1) (2 ^ 64 - 1) (2 ^ 64 - 1)).jobs.offset ≤ 2 ^ 64 - 1 ∧
      (Split.run (2 ^ 64 - 1)
        (2 ^ 64 - 1 - (ofPage (2 ^ 64 - 1) (2 ^ 64 - 1) (2 ^ 64 - 1) (2 ^ 64 - 1)).datasets.offset)
        (2 ^ 64 - 1 -
          (ofPage (2 ^ 64 - 1) (2 ^ 64 - 1) (2 ^ 64 - 1) (2 ^ 64 - 1)).jobs.offset)).WithinWords :=
  have htop : 2 ^ 64 - 1 < 2 ^ 64 := by norm_num
  ⟨htop, ofPage_withinWords (2 ^ 64 - 1) (2 ^ 64 - 1) htop htop⟩

/-! ### Consecutive pages -/

/-- **Consecutive pages meet** when the earlier offset is even: the page after `o + L` rows
starts, in each collection, where the page after `o` rows ends. -/
theorem ofPage_next_offsets {L o : Nat} (d j : Nat) (h : o % 2 = 0) :
    (ofPage L (o + L) d j).datasets.offset =
        (ofPage L o d j).datasets.offset + (ofPage L o d j).datasets.limit ∧
      (ofPage L (o + L) d j).jobs.offset =
        (ofPage L o d j).jobs.offset + (ofPage L o d j).jobs.limit :=
  ⟨split_first_add o L d j h, split_second_add o L d j h⟩

/-- Page `k + 1` of size `L` starts where page `k` ends, when `k * L` is even. -/
theorem ofPage_succ_offsets {L k : Nat} (d j : Nat) (h : k * L % 2 = 0) :
    (ofPage L ((k + 1) * L) d j).datasets.offset =
        (ofPage L (k * L) d j).datasets.offset + (ofPage L (k * L) d j).datasets.limit ∧
      (ofPage L ((k + 1) * L) d j).jobs.offset =
        (ofPage L (k * L) d j).jobs.offset + (ofPage L (k * L) d j).jobs.limit := by
  rw [Nat.succ_mul]
  exact ofPage_next_offsets d j h

/-- Far enough out, the offsets have passed every row. -/
theorem ofPage_offsets_of_le {L o d j : Nat} (h : d + j ≤ o) :
    (ofPage L o d j).datasets.offset = d ∧ (ofPage L o d j).jobs.offset = j :=
  split_of_le_total h

/-- **Page windows tile the rows.**  When `k * L` is even, page `k + 1` starts in each
collection where page `k` ends.  So with an even page size every dataset and every job lies in
the window of exactly one page. -/
theorem ofPage_windows_tile (L d j : Nat) :
    (∀ k, k * L % 2 = 0 →
      (ofPage L ((k + 1) * L) d j).datasets.offset =
          (ofPage L (k * L) d j).datasets.offset + (ofPage L (k * L) d j).datasets.limit ∧
        (ofPage L ((k + 1) * L) d j).jobs.offset =
          (ofPage L (k * L) d j).jobs.offset + (ofPage L (k * L) d j).jobs.limit) ∧
    (L % 2 = 0 → 0 < L →
      (∀ i < d, ∃! k, (ofPage L (k * L) d j).datasets.offset ≤ i ∧
        i < (ofPage L (k * L) d j).datasets.offset + (ofPage L (k * L) d j).datasets.limit) ∧
      (∀ i < j, ∃! k, (ofPage L (k * L) d j).jobs.offset ≤ i ∧
        i < (ofPage L (k * L) d j).jobs.offset + (ofPage L (k * L) d j).jobs.limit)) := by
  refine ⟨fun k hk => ofPage_succ_offsets d j hk, ?_⟩
  intro heven hpos
  -- with `L` even every page starts at an even offset, so all pages meet
  have hmeet : ∀ k, k * L % 2 = 0 := fun k => by
    rw [Nat.mul_mod, heven, Nat.mul_zero, Nat.zero_mod]
  -- page `d + j` starts past every row
  have hend := ofPage_offsets_of_le (L := L) (o := (d + j) * L) (d := d) (j := j)
    (Nat.le_mul_of_pos_right _ hpos)
  constructor
  · intro i hi
    refine existsUnique_window (by simp [split_zero_total])
      (fun k => (ofPage_succ_offsets d j (hmeet k)).1) (K := d + j) ?_
    omega
  · intro i hi
    refine existsUnique_window (by simp [split_zero_total])
      (fun k => (ofPage_succ_offsets d j (hmeet k)).2) (K := d + j) ?_
    omega

/-- **Odd pages overlap.**  Pages of one row over `100` datasets and `100` jobs: page `1`
shows dataset `1`, and page `2` starts at dataset `1` again. -/
theorem ofPage_odd_pages_overlap :
    (ofPage 1 ((1 + 1) * 1) 100 100).datasets.offset ≠
      (ofPage 1 (1 * 1) 100 100).datasets.offset + (ofPage 1 (1 * 1) 100 100).datasets.limit := by
  decide

end Budget

end Catalog
