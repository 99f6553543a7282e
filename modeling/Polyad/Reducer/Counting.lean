/-
Polyad/Reducer/Counting.lean

The number of items of a stream.
-/
import Polyad.Reducer
import Polyad.Outline

namespace Polyad

/-- How many items have been seen.  It is assumed that these are less than `2 ^ 64`, so that a count of
64 bits would not run over. -/
structure Counting where
  count : Nat
deriving DecidableEq, Repr

namespace Counting

/-- No item has been seen. -/
def start : Counting := ⟨0⟩

/-- Counts items of any type. -/
def reducer {ι : Type} : Reducer Counting ι Nat where
  accept state _ := ⟨state.count + 1⟩
  finish := count

def outline (c : Counting) : Outline :=
  .record "Counting" [("count", .atom (toString c.count))]

end Counting

end Polyad
