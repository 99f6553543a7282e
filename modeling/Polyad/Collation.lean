/-
Polyad/Collation.lean

The total order of elements whose types are known.

A `Collation` of a universe orders any two values of one kind.  It is meant for kinds whose values
are all ordered; tuples of known types are then ordered element by element.
-/
import Polyad.Value

namespace Polyad

/-- A total order on the values of each kind. -/
structure Collation (U : Universe) where
  compare : (k : U.Kind) → U.Carrier k → U.Carrier k → Ordering

namespace Value

variable {U : Universe}

mutual

/-- The total order of two values of one type. -/
def collate (c : Collation U) : Value U → Value U → Ordering
  | leaf k x, leaf j y => if h : k = j then c.compare j (h ▸ x) y else .eq
  | tuple xs, tuple ys => collateAll c xs ys
  | _, _ => .eq

/-- The order of as many values by the first pair that is not equal. -/
def collateAll (c : Collation U) : List (Value U) → List (Value U) → Ordering
  | x :: xs, y :: ys => (collate c x y).then (collateAll c xs ys)
  | _, _ => .eq

end

/-- The order of two elements that may be missing: a missing one comes first. -/
def collateOption (c : Collation U) : Option (Value U) → Option (Value U) → Ordering
  | none, none => .eq
  | none, some _ => .lt
  | some _, none => .gt
  | some v, some w => collate c v w

end Value

end Polyad
