/-
Polyad/Summary/Variance.lean

The variance of a stream of numbers, kept up to date together with the mean: a new number adds the
product of its distances from the mean before it and from the mean after it to the sum of squared
distances.

The sum is divided by the number of numbers, or for a sample by one less.  The standard deviation
is the root of the variance.
-/
import Polyad.Summary.Mean

namespace Polyad

/-- The mean, the sum of squared distances from it, and whether the numbers are a sample.  The count is
that of the mean, with what is assumed of it there: there are less than `2 ^ 64` numbers. -/
structure Variance (α : Type) where
  mean : Mean α
  squares : α
  isSample : Bool
deriving BEq

namespace Variance

variable {α : Type} [Arithmetic α]

/-- No number has been seen. -/
def start (isSample : Bool) : Variance α := ⟨.start, Arithmetic.ofCount 0, isSample⟩

/-- One more number. -/
def push (v : Variance α) (x : α) : Variance α :=
  let before := v.mean.value?.getD (Arithmetic.ofCount 0)
  let mean := v.mean.push x
  let after := mean.value?.getD x
  ⟨mean, v.squares + (x - before) * (x - after), v.isSample⟩

def count (v : Variance α) : Nat := v.mean.count

/-- The variance, if there are enough numbers. -/
def value? (v : Variance α) : Option α :=
  match v.isSample, v.count with
  | _, 0 | true, 1 => none
  | false, n => some (v.squares / Arithmetic.ofCount n)
  | true, n => some (v.squares / Arithmetic.ofCount (n - 1))

/-- A batch of items, each of them taken as a number. -/
def extend {ι : Type} (number : ι → α) (v : Variance α) (items : List ι) : Variance α :=
  items.foldl (fun v item => v.push (number item)) v

/-- Keeps the variance of items that are taken as numbers, which are not a sample unless it is given
the state of one. -/
def accumulator {ι : Type} (number : ι → α) : Accumulator (Variance α) ι (Option α) :=
  .ofExtend (start false) (extend number) value?

end Variance

/-- The standard deviation, given by the variance. -/
structure Deviation (α : Type) where
  variance : Variance α
deriving BEq

namespace Deviation

variable {α : Type} [Arithmetic α]

/-- No number has been seen. -/
def start (isSample : Bool) : Deviation α := ⟨.start isSample⟩

/-- The standard deviation, if there are enough numbers. -/
def value? (root : α → α) (d : Deviation α) : Option α := d.variance.value?.map root

/-- A batch of items, each of them taken as a number. -/
def extend {ι : Type} (number : ι → α) (d : Deviation α) (items : List ι) : Deviation α :=
  ⟨d.variance.extend number items⟩

/-- Keeps the standard deviation of items that are taken as numbers, which are not a sample unless it
is given the state of one. -/
def accumulator {ι : Type} (root : α → α) (number : ι → α) :
    Accumulator (Deviation α) ι (Option α) :=
  .ofExtend (start false) (extend number) (value? root)

end Deviation

end Polyad
