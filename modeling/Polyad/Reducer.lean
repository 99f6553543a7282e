/-
Polyad/Reducer.lean

Reducers: machines that take the items of a stream one by one and end with a result.

A `Reducer` is what does not change while a stream is read: how an item changes the state, and what
the result is in a state.  The state itself is a value of a type of its own, so a stream can be
delivered in any number of parts (`feed`) before the result is asked for.
-/

namespace Polyad

/-- A way of taking items `ι` with states `σ` to a result `ο`. -/
structure Reducer (σ ι ο : Type) where
  accept : σ → ι → σ
  finish : σ → ο

namespace Reducer

variable {σ ι α β ο : Type}

/-- The state after several items, in order. -/
def feed (r : Reducer σ ι ο) (state : σ) (items : List ι) : σ :=
  items.foldl r.accept state

/-- The result for a whole stream. -/
def reduce (r : Reducer σ ι ο) (state : σ) (items : List ι) : ο :=
  r.finish (r.feed state items)

@[simp]
theorem feed_nil (r : Reducer σ ι ο) (state : σ) : r.feed state [] = state := rfl

@[simp]
theorem feed_cons (r : Reducer σ ι ο) (state : σ) (item : ι) (items : List ι) :
    r.feed state (item :: items) = r.feed (r.accept state item) items := rfl

/-- The same reducer with a function of its result. -/
def mapResult (r : Reducer σ ι α) (f : α → β) : Reducer σ ι β where
  accept := r.accept
  finish state := f (r.finish state)

/-- The same reducer for items that are first turned into its own. -/
def mapItem (r : Reducer σ α ο) (f : ι → α) : Reducer σ ι ο where
  accept state item := r.accept state (f item)
  finish := r.finish

/-- The items may be turned into those of the reducer before. -/
theorem feed_mapItem (r : Reducer σ α ο) (f : ι → α) (state : σ) (items : List ι) :
    (r.mapItem f).feed state items = r.feed state (items.map f) := by
  unfold feed
  rw [List.foldl_map]
  rfl

theorem reduce_mapItem (r : Reducer σ α ο) (f : ι → α) (state : σ) (items : List ι) :
    (r.mapItem f).reduce state items = r.reduce state (items.map f) :=
  congrArg r.finish (r.feed_mapItem f state items)

end Reducer

end Polyad
