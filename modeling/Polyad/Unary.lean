/-
Polyad/Unary.lean

Unary numbers: a natural number as it is built from zero by successors.  Positions and rotation
counts of typed tuples are such numbers.
-/
import Polyad.Outline

namespace Polyad.Unary

/-- A number as the successors around zero. -/
def outline : Nat → Outline
  | 0 => .atom "Z"
  | n + 1 => .tuple "S" [outline n]

/-- The zero-based index of a one-based position; zero is no position. -/
def index? : Nat → Option Nat
  | 0 => none
  | n + 1 => some n

end Polyad.Unary
