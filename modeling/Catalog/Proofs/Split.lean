import Catalog.Search.Split
import Mathlib

/-!
# The split in closed form

`split total a b` shares `total` rows between two sides holding `a` and `b` rows in four
guarded steps (`Split.run`).  Each stage has a closed form in `total / 2` and `total % 2`, and
together they give the shares

    first = min a (max ⌈total / 2⌉ (total - b)),    second = min b (total - first).

So a side never gets more than it holds, and the two together get `min total (a + b)`: the
page is filled whenever the collections hold enough rows.

The closed form also says how the split composes.  Splitting `t₁ + t₂` is splitting `t₁` and
then `t₂` over what is left, as long as `t₁` is even: an even part leaves the odd row where it
was.  With `t₁` and `t₂` both odd, both parts give their odd row to the first side, while the
whole gives it at most one.

An even total has three regimes, and an odd one three more (`split_even_cases`,
`split_odd_cases`): each side gets its half, or a side short of it gives up all its rows.  With
the sides swapped the regimes mirror, so only the odd row tells the sides apart.

* `split_first_eq`, `split_second_eq`: the closed form; `split_eq_closed_form` with its
  consequences.
* `split_first_le`, `split_second_le`, `split_first_add_second`: the shares fit the sides and
  fill the total.
* `split_first_add`, `split_second_add`: splitting in two steps.
* `split_first_mono`, `split_second_mono`: a larger total takes no row from either side.
* `split_swap_sides`: swapping the sides swaps the shares, but for the odd row.
* `Split.run_withinWords`: below `2 ^ 64` rows, every step the split takes without saturation
  stays below `2 ^ 64`.
-/

namespace Catalog

namespace Split

variable (t a b : Nat)

/-! ### The stages -/

@[simp] theorem run_half : (run t a b).half = t / 2 := rfl

@[simp] theorem run_odd : (run t a b).odd = t % 2 := rfl

@[simp] theorem run_firstHalf : (run t a b).firstHalf = min (t / 2) a := rfl

@[simp] theorem run_secondHalf : (run t a b).secondHalf = min (t / 2) b := rfl

@[simp] theorem run_unusedFirst : (run t a b).unusedFirst = t / 2 - a := rfl

@[simp] theorem run_unusedSecond : (run t a b).unusedSecond = t / 2 - b := rfl

/-- The odd row joins the first side whenever it has room, so the first side holds the
rounded-up half, capped by its rows. -/
theorem run_firstWithOdd : (run t a b).firstWithOdd = min ((t + 1) / 2) a := by
  simp only [run]
  split <;> omega

/-- The odd row is left over exactly when the first side is full at its half. -/
theorem run_oddLeft : (run t a b).oddLeft = if a ≤ t / 2 then t % 2 else 0 := by
  simp only [run]
  split <;> split <;> omega

theorem run_secondLent : (run t a b).secondLent = min (t / 2 + (t / 2 - a)) b := by
  simp only [run]
  split <;> omega

theorem run_firstLent : (run t a b).firstLent = min ((t + 1) / 2 + (t / 2 - b)) a := by
  simp only [run]
  split <;> split <;> omega

theorem run_secondFinal :
    (run t a b).secondFinal =
      min (t / 2 + (t / 2 - a) + if a ≤ t / 2 then t % 2 else 0) b := by
  have hstep : (run t a b).secondFinal =
      if (run t a b).oddLeft > 0 ∧ (run t a b).secondLent < b then
        min ((run t a b).secondLent + (run t a b).oddLeft) b
      else (run t a b).secondLent := rfl
  rw [hstep, run_oddLeft, run_secondLent]
  split_ifs <;> omega

end Split

/-! ### The shares -/

/-- **The first share**: the rounded-up half, or all the second side leaves of the total when
that is more, capped by the first side's rows. -/
theorem split_first_eq (t a b : Nat) :
    (split t a b).first = min a (max ((t + 1) / 2) (t - b)) := by
  unfold split
  split_ifs with hab ha hb
  -- a side with no rows: the total goes to the other side, capped by its rows
  · dsimp only
    omega
  · dsimp only
    omega
  · dsimp only
    omega
  · -- both sides hold rows: the stages decide
    simp only [Split.share, Split.run_firstLent]
    omega

/-- **The second share**: the rest of the total, capped by the second side's rows. -/
theorem split_second_eq (t a b : Nat) :
    (split t a b).second = min b (t - (split t a b).first) := by
  rw [split_first_eq]
  unfold split
  split_ifs with hab ha hb
  · dsimp only
    omega
  · dsimp only
    omega
  · dsimp only
    omega
  · simp only [Split.share, Split.run_secondFinal]
    split_ifs <;> omega

theorem split_first_le (t a b : Nat) : (split t a b).first ≤ a := by
  rw [split_first_eq]
  omega

theorem split_second_le (t a b : Nat) : (split t a b).second ≤ b := by
  rw [split_second_eq]
  omega

/-- **The split fills the total** as far as the two sides hold rows. -/
theorem split_first_add_second (t a b : Nat) :
    (split t a b).first + (split t a b).second = min t (a + b) := by
  rw [split_second_eq, split_first_eq]
  omega

theorem split_zero_total (a b : Nat) : split 0 a b = ⟨0, 0⟩ := by
  have hfirst := split_first_eq 0 a b
  have hsecond := split_second_eq 0 a b
  cases h : split 0 a b with
  | mk x y =>
    simp only [h] at hfirst hsecond
    simp only [Share.mk.injEq]
    omega

/-- A total the two sides can hold in full takes all their rows. -/
theorem split_of_le_total {t a b : Nat} (h : a + b ≤ t) :
    (split t a b).first = a ∧ (split t a b).second = b := by
  have hsum := split_first_add_second t a b
  have hfirst := split_first_le t a b
  have hsecond := split_second_le t a b
  omega

/-- **The split in closed form.**  The first side gets the rounded-up half of the total, or
all the second side leaves of it when that is more, capped by its rows; the second side gets
the rest of the total, capped by its rows.  So neither side gets more than it holds, and
together they get the whole total whenever the two sides hold that many rows. -/
theorem split_eq_closed_form (t a b : Nat) :
    (split t a b).first = min a (max ((t + 1) / 2) (t - b)) ∧
      (split t a b).second = min b (t - (split t a b).first) ∧
      (split t a b).first ≤ a ∧ (split t a b).second ≤ b ∧
      (split t a b).first + (split t a b).second = min t (a + b) :=
  ⟨split_first_eq t a b, split_second_eq t a b, split_first_le t a b, split_second_le t a b,
    split_first_add_second t a b⟩

/-! ### Splitting in two steps -/

/-- **An even total** gives each side half, unless a side holds less than half: then that
side gives up all its rows, and the other side takes the rest of the total as far as it can. -/
theorem split_even_cases (m a b : Nat) :
    (m ≤ a ∧ m ≤ b ∧ split (2 * m) a b = ⟨m, m⟩) ∨
      (a < m ∧ split (2 * m) a b = ⟨a, min b (2 * m - a)⟩) ∨
      (b < m ∧ m ≤ a ∧ split (2 * m) a b = ⟨min a (2 * m - b), b⟩) := by
  have hfirst := split_first_eq (2 * m) a b
  have hsecond := split_second_eq (2 * m) a b
  have hhalf : (2 * m + 1) / 2 = m := by omega
  rw [hhalf] at hfirst
  cases h : split (2 * m) a b with
  | mk x y =>
    simp only [h] at hfirst hsecond
    simp only [Share.mk.injEq]
    by_cases ha : a < m
    · -- the first side is short of half
      have hx : x = a := by rw [hfirst]; exact Nat.min_eq_left (by omega)
      exact .inr (.inl ⟨ha, hx, by rw [hsecond, hx]⟩)
    · by_cases hb : b < m
      · -- the second side is short of half
        have hx : x = min a (2 * m - b) := by rw [hfirst, Nat.max_eq_right (by omega)]
        exact .inr (.inr ⟨hb, by omega, hx, by rw [hsecond]; omega⟩)
      · have hx : x = m := by rw [hfirst, Nat.max_eq_left (by omega)]; omega
        exact .inl ⟨by omega, by omega, hx, by rw [hsecond, hx]; omega⟩

/-- **Splitting in two steps, first side.**  When the first part `t₁` is even, the first side
gets from `t₁ + t₂` what it gets from `t₁`, and then from `t₂` over the rows both sides
have left. -/
theorem split_first_add (t₁ t₂ a b : Nat) (h : t₁ % 2 = 0) :
    (split (t₁ + t₂) a b).first = (split t₁ a b).first +
      (split t₂ (a - (split t₁ a b).first) (b - (split t₁ a b).second)).first := by
  obtain ⟨m, rfl⟩ : ∃ m, t₁ = 2 * m := ⟨t₁ / 2, by omega⟩
  rcases split_even_cases m a b with ⟨ha, hb, hsplit⟩ | ⟨ha, hsplit⟩ | ⟨hb, ha, hsplit⟩
  · -- both got half: `t₂` is split as if the count started over
    rw [hsplit]
    simp only [split_first_eq]
    have hmax : max ((2 * m + t₂ + 1) / 2) (2 * m + t₂ - b) =
        m + max ((t₂ + 1) / 2) (t₂ - (b - m)) := by
      omega
    rw [hmax]
    omega
  · -- the first side is full after `t₁`: a larger total cannot give it more
    rw [hsplit]
    simp only [split_first_eq, Nat.sub_self, Nat.zero_min]
    omega
  · -- the second side is full after `t₁`: all of `t₂` goes to the first side
    rw [hsplit]
    simp only [split_first_eq, Nat.sub_self, Nat.sub_zero]
    have hmax : max ((2 * m + t₂ + 1) / 2) (2 * m + t₂ - b) = 2 * m - b + t₂ := by
      omega
    rw [hmax]
    omega

/-- **Splitting in two steps, second side**, from the first side and the filled total. -/
theorem split_second_add (t₁ t₂ a b : Nat) (h : t₁ % 2 = 0) :
    (split (t₁ + t₂) a b).second = (split t₁ a b).second +
      (split t₂ (a - (split t₁ a b).first) (b - (split t₁ a b).second)).second := by
  have hfirst := split_first_add t₁ t₂ a b h
  have hsum := split_first_add_second (t₁ + t₂) a b
  have hsum₁ := split_first_add_second t₁ a b
  have hsum₂ := split_first_add_second t₂ (a - (split t₁ a b).first)
    (b - (split t₁ a b).second)
  have hle₁ := split_first_le t₁ a b
  have hle₂ := split_second_le t₁ a b
  omega

/-! ### Larger totals and swapped sides -/

/-- A larger total never takes rows from the first side. -/
theorem split_first_mono {t t' : Nat} (a b : Nat) (h : t ≤ t') :
    (split t a b).first ≤ (split t' a b).first := by
  rw [split_first_eq, split_first_eq]
  omega

/-- A larger total never takes rows from the second side either: each extra row raises the
first share by at most one, so what is left for the second side does not shrink. -/
theorem split_second_mono {t t' : Nat} (a b : Nat) (h : t ≤ t') :
    (split t a b).second ≤ (split t' a b).second := by
  have hgrow : (split t' a b).first - (split t a b).first ≤ t' - t := by
    rw [split_first_eq, split_first_eq]
    omega
  rw [split_second_eq t, split_second_eq t']
  omega

/-- **An odd total** gives the first side the rounded-up half and the second side the rest,
unless a side holds less: a first side short of the rounded-up half gives up all its rows, a
second side short of half gives up all of its own, and the other side takes what it can of
the rest. -/
theorem split_odd_cases (m a b : Nat) :
    (m + 1 ≤ a ∧ m ≤ b ∧ split (2 * m + 1) a b = ⟨m + 1, m⟩) ∨
      (a ≤ m ∧ split (2 * m + 1) a b = ⟨a, min b (2 * m + 1 - a)⟩) ∨
      (b < m ∧ m + 1 ≤ a ∧ split (2 * m + 1) a b = ⟨min a (2 * m + 1 - b), b⟩) := by
  have hfirst := split_first_eq (2 * m + 1) a b
  have hsecond := split_second_eq (2 * m + 1) a b
  have hhalf : (2 * m + 1 + 1) / 2 = m + 1 := by omega
  rw [hhalf] at hfirst
  cases h : split (2 * m + 1) a b with
  | mk x y =>
    simp only [h] at hfirst hsecond
    simp only [Share.mk.injEq]
    by_cases ha : a ≤ m
    · -- the first side is short of the rounded-up half
      have hx : x = a := by rw [hfirst]; exact Nat.min_eq_left (by omega)
      exact .inr (.inl ⟨ha, hx, by rw [hsecond, hx]⟩)
    · by_cases hb : b < m
      · -- the second side is short of half
        have hx : x = min a (2 * m + 1 - b) := by rw [hfirst, Nat.max_eq_right (by omega)]
        exact .inr (.inr ⟨hb, by omega, hx, by rw [hsecond]; omega⟩)
      · have hx : x = m + 1 := by rw [hfirst, Nat.max_eq_left (by omega)]; omega
        exact .inl ⟨by omega, by omega, hx, by rw [hsecond, hx]; omega⟩

/-- **Swapping the sides** swaps the shares of an even total.  Of an odd total the odd row
may change sides, and nothing else does: the two shares still fill as much of the total, and
the first side gets the same or one row more. -/
theorem split_swap_sides (t a b : Nat) :
    (t % 2 = 0 → split t a b = ⟨(split t b a).second, (split t b a).first⟩) ∧
      (t % 2 = 1 →
        (split t a b).first + (split t a b).second =
            (split t b a).second + (split t b a).first ∧
          (split t b a).second ≤ (split t a b).first ∧
          (split t a b).first ≤ (split t b a).second + 1) := by
  obtain ⟨m, rfl | rfl⟩ : ∃ m, t = 2 * m ∨ t = 2 * m + 1 := ⟨t / 2, by omega⟩
  · refine ⟨fun _ => ?_, fun hodd => by omega⟩
    -- each order falls in one of the three regimes of an even total, and the regimes mirror
    rcases split_even_cases m a b with ⟨ha, hb, h⟩ | ⟨ha, h⟩ | ⟨hb, ha, h⟩ <;>
      rcases split_even_cases m b a with ⟨hb', ha', h'⟩ | ⟨hb', h'⟩ | ⟨ha', hb', h'⟩ <;>
      rw [h, h'] <;> simp only [Share.mk.injEq] <;> omega
  · refine ⟨fun heven => by omega, fun _ => ?_⟩
    -- the same for an odd total, whose regimes mirror but for the odd row
    rcases split_odd_cases m a b with ⟨ha, hb, h⟩ | ⟨ha, h⟩ | ⟨hb, ha, h⟩ <;>
      rcases split_odd_cases m b a with ⟨hb', ha', h'⟩ | ⟨hb', h'⟩ | ⟨ha', hb', h'⟩ <;>
      rw [h, h'] <;> dsimp only <;> omega

/-- Twenty rows over three datasets and a hundred jobs split the same way round with the
sides swapped; twenty-one rows over ten datasets and a hundred jobs move the odd row to the
jobs in both orders. -/
theorem split_swap_sides_twenty :
    20 % 2 = 0 ∧ split 20 3 100 = ⟨(split 20 100 3).second, (split 20 100 3).first⟩ ∧
      21 % 2 = 1 ∧
      (split 21 10 100).first + (split 21 10 100).second =
        (split 21 100 10).second + (split 21 100 10).first ∧
      (split 21 100 10).second ≤ (split 21 10 100).first ∧
      (split 21 10 100).first ≤ (split 21 100 10).second + 1 :=
  ⟨by decide, (split_swap_sides 20 3 100).1 (by decide), by decide,
    (split_swap_sides 21 10 100).2 (by decide)⟩

/-! ### Sixty-four bits -/

namespace Split

/-- Every step of the stages that the split takes without saturation stays in a 64-bit word:
the odd row added to the first half and taken back from the odd count, the room lent to each
side, and the odd row added late to the second side. -/
structure WithinWords (s : Split) : Prop where
  firstHalf_add_odd : s.firstHalf + s.odd < 2 ^ 64
  firstHalf_le : s.firstHalf ≤ s.firstWithOdd
  moved_le_odd : s.firstWithOdd - s.firstHalf ≤ s.odd
  secondHalf_add_unused : s.secondHalf + s.unusedFirst < 2 ^ 64
  firstWithOdd_add_unused : s.firstWithOdd + s.unusedSecond < 2 ^ 64
  secondLent_add_oddLeft : s.secondLent + s.oddLeft < 2 ^ 64

/-- **The split stays in 64 bits.**  Every sum the stages form is at most the total, so a total
below `2 ^ 64` keeps all of them below, whatever the sides hold; and the odd row moved to the
first side is never more than the odd row there is. -/
theorem run_withinWords {t : Nat} (a b : Nat) (h : t < 2 ^ 64) : (run t a b).WithinWords where
  firstHalf_add_odd := by simp only [run_firstHalf, run_odd]; omega
  firstHalf_le := by simp only [run_firstHalf, run_firstWithOdd]; omega
  moved_le_odd := by simp only [run_firstHalf, run_firstWithOdd, run_odd]; omega
  secondHalf_add_unused := by simp only [run_secondHalf, run_unusedFirst]; omega
  firstWithOdd_add_unused := by simp only [run_firstWithOdd, run_unusedSecond]; omega
  secondLent_add_oddLeft := by
    rw [run_secondLent, run_oddLeft]
    split <;> omega

end Split

end Catalog
