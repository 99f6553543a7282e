/-
Polyad/Reducer/Partitioning.lean

The items of a stream split by a predicate, each part in the order of the stream.  The predicate
may keep a state of its own, so that its answer may depend on the items it has been asked about.
-/
import Polyad.Reducer
import Polyad.Outline

namespace Polyad

/-- The state of the predicate and the two parts. -/
structure Partitioning (σ ι : Type) where
  memory : σ
  matched : List ι
  unmatched : List ι

namespace Partitioning

variable {σ ι : Type}

/-- No item has been asked about. -/
def start (memory : σ) : Partitioning σ ι := ⟨memory, [], []⟩

/-- Splits by a predicate. -/
def reducer (predicate : ι → StateM σ Bool) : Reducer (Partitioning σ ι) ι (List ι × List ι) where
  accept state item :=
    match (predicate item).run state.memory with
    | (true, memory) => ⟨memory, state.matched ++ [item], state.unmatched⟩
    | (false, memory) => ⟨memory, state.matched, state.unmatched ++ [item]⟩
  finish state := (state.matched, state.unmatched)

/-- How the two parts are shown. -/
def outline (item : ι → Outline) (p : Partitioning σ ι) : Outline :=
  .record "PartitioningBy"
    [("matched", .list (p.matched.map item)), ("unmatched", .list (p.unmatched.map item))]

end Partitioning

end Polyad
