/-
Polyad/Summary/Arithmetic.lean

The arithmetic that the summaries of numbers need.  Nothing is assumed of the operations, so that
what is said of a summary without more holds of rounded arithmetic too.
-/

namespace Polyad

/-- Numbers that can be added, subtracted, multiplied and divided, and into which counts go. -/
class Arithmetic (α : Type) extends Add α, Sub α, Mul α, Div α where
  ofCount : Nat → α

/-- Machine arithmetic. -/
instance : Arithmetic Float where
  ofCount := Float.ofNat

end Polyad
