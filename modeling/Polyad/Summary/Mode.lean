/-
Polyad/Summary/Mode.lean

The most frequent item of a stream, the one seen first if several are equally frequent.

There is one entry for every item, with its number of occurrences and the index of the first one; it
is found by the equality of items.  The order of the entries is of no account.
-/
import Polyad.Summary.Accumulator

namespace Polyad

/-- An item with its number of occurrences and the index of the first one.  Both are at
most the number of items seen, of which an assumption is made at `Mode`. -/
structure Tally (ι : Type) where
  item : ι
  occurrences : Nat
  first : Nat

/-- An entry for every item, and the number of items seen.  It is assumed that these are less than
`2 ^ 64`, so that a number of 64 bits would not run over. -/
structure Mode (ι : Type) where
  entries : List (Tally ι)
  seen : Nat

namespace Tally

variable {ι : Type}

/-- The more frequent of two entries is the greater one, and among equally frequent ones the one whose
item was seen first. -/
def cmp (a b : Tally ι) : Ordering :=
  (compare a.occurrences b.occurrences).then (compare b.first a.first)

/-- The greater of two entries, and the second one if neither is. -/
def greater (a b : Tally ι) : Tally ι :=
  match a.cmp b with
  | .gt => a
  | _ => b

/-- The entry after one more item, which is counted if it is the item of the entry. -/
def note [BEq ι] (item : ι) (entry : Tally ι) : Tally ι :=
  if entry.item == item then { entry with occurrences := entry.occurrences + 1 } else entry

end Tally

namespace Mode

variable {ι : Type}

/-- No item has been seen. -/
def start : Mode ι := ⟨[], 0⟩

/-- One more item. -/
def push [BEq ι] (m : Mode ι) (item : ι) : Mode ι :=
  ⟨if m.entries.any (·.item == item) then m.entries.map (.note item)
    else m.entries ++ [⟨item, 1, m.seen⟩],
    m.seen + 1⟩

/-- The most frequent item, if there is one. -/
def value? (m : Mode ι) : Option ι :=
  match m.entries with
  | [] => none
  | entry :: entries => some (entries.foldl Tally.greater entry).item

/-- A batch of items. -/
def extend [BEq ι] (m : Mode ι) (items : List ι) : Mode ι := items.foldl push m

/-- Keeps the most frequent item. -/
def accumulator [BEq ι] : Accumulator (Mode ι) ι (Option ι) where
  start := start
  accept := push
  extend := extend
  value := value?

end Mode

end Polyad
