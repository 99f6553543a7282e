/-
Polyad/Reducer/Gathering.lean

The tuple of some items of a stream: so many after so many others.  It is the tuple that a source
of the same items gives (`Tuple.assemble`), but the items are pushed instead of drawn.
-/
import Polyad.Reducer
import Polyad.Tuple

namespace Polyad

/-- How many items to pass over and to keep, and what has become of the items so far. -/
structure Gathering (U : Universe) where
  offset : Nat
  depth : Nat
  skipped : Nat
  values : List (Value U)

namespace Gathering

variable {U : Universe}

/-- No item has been seen.  A tuple that would be too deep is refused. -/
def start (offset depth : Nat) : Except (Error U) (Gathering U) :=
  if maxDepth < depth then .error (.overflow depth) else .ok ⟨offset, depth, 0, []⟩

/-- Passes over and keeps items; there is no tuple if the stream was too short. -/
def reducer : Reducer (Gathering U) (Value U) (Option (Tuple U)) where
  accept state item :=
    if state.skipped < state.offset then { state with skipped := state.skipped + 1 }
    else if state.values.length < state.depth then { state with values := state.values ++ [item] }
    else state
  finish state :=
    match (Tuple.assemble (.finite state.values) 0 state.depth).1 with
    | .ok result => result
    | .error _ => none

def outline (g : Gathering U) : Outline :=
  .record "ToTuple"
    [("offset", .atom (toString g.offset)),
      ("depth", .atom (toString g.depth)),
      ("skipped", .atom (toString g.skipped)),
      ("values", .list (Value.outlines g.values))]

end Gathering

end Polyad
