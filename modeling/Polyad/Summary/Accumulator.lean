/-
Polyad/Summary/Accumulator.lean

Summaries of a stream that are there at any time, while the stream is delivered in parts.

A part is a single item that is accepted or a batch by which the summary is extended.  A summary can
also be collected from a whole stream at once; it starts as that of nothing.
-/
import Polyad.Reducer

namespace Polyad

/-- A part of a stream of items `ι`. -/
inductive Delivery (ι : Type) where
  | accept (item : ι)
  | extend (batch : List ι)

/-- The items of a part. -/
def Delivery.items {ι : Type} : Delivery ι → List ι
  | accept item => [item]
  | extend batch => batch

/-- A way of keeping a summary `ο` of items `ι` in a state `σ`. -/
structure Accumulator (σ ι ο : Type) where
  /-- Nothing has been seen. -/
  start : σ
  accept : σ → ι → σ
  extend : σ → List ι → σ
  value : σ → ο

namespace Accumulator

variable {σ ι ο : Type}

/-- The accumulator that takes an item it accepts as a batch of one. -/
def ofExtend (start : σ) (extend : σ → List ι → σ) (value : σ → ο) : Accumulator σ ι ο where
  start := start
  accept state item := extend state [item]
  extend := extend
  value := value

/-- The state after a whole stream. -/
def collect (a : Accumulator σ ι ο) (items : List ι) : σ := a.extend a.start items

/-- The state after one more part. -/
def deliver (a : Accumulator σ ι ο) (state : σ) : Delivery ι → σ
  | .accept item => a.accept state item
  | .extend batch => a.extend state batch

/-- The accumulator as a reducer, to which items are given one by one. -/
def reducer (a : Accumulator σ ι ο) : Reducer σ ι ο where
  accept := a.accept
  finish := a.value

end Accumulator

end Polyad
