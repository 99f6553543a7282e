/-
Polyad/Summary/Mean.lean

The mean of a stream of numbers, kept up to date: a new number moves the mean by its distance from
it, divided by the new count.

A count is a natural number.  Where it is kept in 64 bits and one is added without a check, it is
assumed that there are less than `2 ^ 64` numbers.
-/
import Polyad.Summary.Accumulator
import Polyad.Summary.Arithmetic

namespace Polyad

/-- How many numbers have been seen, and their mean.  It is assumed that these are less than
`2 ^ 64`, so that a count of 64 bits would not run over. -/
structure Mean (α : Type) where
  count : Nat
  mean : α
deriving BEq

namespace Mean

variable {α : Type} [Arithmetic α]

/-- No number has been seen. -/
def start : Mean α := ⟨0, Arithmetic.ofCount 0⟩

/-- One more number. -/
def push (m : Mean α) (x : α) : Mean α :=
  let count := m.count + 1
  ⟨count, m.mean + (x - m.mean) / Arithmetic.ofCount count⟩

/-- The mean, if there is one. -/
def value? (m : Mean α) : Option α :=
  if m.count = 0 then none else some m.mean

/-- A batch of items, each of them taken as a number. -/
def extend {ι : Type} (number : ι → α) (m : Mean α) (items : List ι) : Mean α :=
  items.foldl (fun m item => m.push (number item)) m

/-- Keeps the mean of items that are taken as numbers. -/
def accumulator {ι : Type} (number : ι → α) : Accumulator (Mean α) ι (Option α) :=
  .ofExtend start (extend number) value?

end Mean

end Polyad
