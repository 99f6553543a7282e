/-
Polyad/Pattern/Direction.lean

The two directions in which a text can be read.
-/

namespace Polyad.Pattern

inductive Direction where
  | forward | backward
deriving DecidableEq, Repr

/-- The parts of something in the order in which they are met. -/
def Direction.order {α : Type} : Direction → List α → List α
  | forward, parts => parts
  | backward, parts => parts.reverse

end Polyad.Pattern
