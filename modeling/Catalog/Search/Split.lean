/-!
# Splitting a page between two collections

A page of `total` rows is shared between two collections holding `a` and `b` matching rows.
Each side first gets half, capped by what it holds; the odd row goes to the first side if it
has room; room that one side cannot use (its half beyond its rows) is lent to the other;
a still unplaced odd row goes to the second side.

The same split places the page's offset, and then the page's limit over the rows left after
the offsets: `Budget.ofPage`.

* `Split.run`: the stages of the split, so facts about each can be stated.
* `split`: the two shares.
* `Budget.ofPage`: limit and offset of each collection.
-/

namespace Catalog

/-- How many rows of a page go to each of two collections. -/
structure Share where
  first : Nat
  second : Nat
  deriving DecidableEq, Repr, Inhabited

/-- The stages of a split of `total` rows between sides holding `a` and `b` rows, when both
hold some. -/
structure Split where
  /-- Half the total, rounded down. -/
  half : Nat
  /-- The odd row, `0` or `1`. -/
  odd : Nat
  /-- The first side's half, capped by its rows. -/
  firstHalf : Nat
  /-- The second side's half, capped by its rows. -/
  secondHalf : Nat
  /-- The first side after taking the odd row, if it has room. -/
  firstWithOdd : Nat
  /-- The odd row still unplaced. -/
  oddLeft : Nat
  /-- The part of the half the first side cannot use. -/
  unusedFirst : Nat
  /-- The part of the half the second side cannot use. -/
  unusedSecond : Nat
  /-- The second side after borrowing the first side's unused room. -/
  secondLent : Nat
  /-- The first side after borrowing the second side's unused room. -/
  firstLent : Nat
  /-- The second side after taking the odd row still unplaced. -/
  secondFinal : Nat
  deriving DecidableEq, Repr

namespace Split

/-- **The stages** of splitting `total` rows between sides holding `a` and `b` rows. -/
def run (total a b : Nat) : Split :=
  let half := total / 2
  let odd := total % 2
  let firstHalf := min half a
  let secondHalf := min half b
  let firstWithOdd := if odd > 0 ∧ firstHalf < a then min (firstHalf + odd) a else firstHalf
  let oddLeft := odd - (firstWithOdd - firstHalf)
  let unusedFirst := half - a
  let unusedSecond := half - b
  let secondLent := if unusedFirst > 0 then min (secondHalf + unusedFirst) b else secondHalf
  let firstLent := if unusedSecond > 0 then min (firstWithOdd + unusedSecond) a else firstWithOdd
  let secondFinal := if oddLeft > 0 ∧ secondLent < b then min (secondLent + oddLeft) b
    else secondLent
  { half, odd, firstHalf, secondHalf, firstWithOdd, oddLeft, unusedFirst, unusedSecond,
    secondLent, firstLent, secondFinal }

/-- The shares the stages end with. -/
def share (s : Split) : Share := ⟨s.firstLent, s.secondFinal⟩

end Split

/-- **Splitting `total` rows** between collections holding `a` and `b` rows. A side with no
rows gets none, and the other side gets the total up to its rows. -/
def split (total a b : Nat) : Share :=
  if a = 0 ∧ b = 0 then ⟨0, 0⟩
  else if a = 0 then ⟨0, min total b⟩
  else if b = 0 then ⟨min total a, 0⟩
  else (Split.run total a b).share

/-- One collection's part of a page: how many rows it returns and how many it skips. -/
structure Window where
  limit : Nat
  offset : Nat
  deriving DecidableEq, Repr, Inhabited

/-- The parts of a page that go to datasets and to jobs. -/
structure Budget where
  datasets : Window
  jobs : Window
  deriving DecidableEq, Repr, Inhabited

/-- **The budget of a page** with `limit` rows after `offset` rows, over `datasets` and `jobs`
matching rows: the offset is split first, then the limit over the rows after each offset. -/
def Budget.ofPage (limit offset datasets jobs : Nat) : Budget :=
  let offsets := split offset datasets jobs
  let limits := split limit (datasets - offsets.first) (jobs - offsets.second)
  ⟨⟨limits.first, offsets.first⟩, ⟨limits.second, offsets.second⟩⟩

example : split 5 10 10 = ⟨3, 2⟩ := by decide
example : split 10 2 100 = ⟨2, 8⟩ := by decide

end Catalog
