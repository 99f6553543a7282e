/-
Polyad/Source.lean

Where the elements of a new tuple come from.  A source gives its items one at a time and may be
endless, so only what is drawn from it can be known; `Source.draw` draws a number of items and
`Source.skip` draws and drops them, and both say how far the source has moved.  What they give is the
front of the source and what is after it (`draw_eq`, `skip_eq`).
-/

namespace Polyad

/-- A source of items: finitely many, or one for every number from `start` on. -/
inductive Source (α : Type) where
  | finite (items : List α)
  | endless (item : Nat → α) (start : Nat)

namespace Source

variable {α : Type}

/-- The next item and the source after it, unless the source has run dry. -/
def next? : Source α → Option (α × Source α)
  | finite [] => none
  | finite (item :: items) => some (item, finite items)
  | endless item start => some (item start, endless item (start + 1))

/-- At most `n` items, in order, and the source after them. -/
def draw : Nat → Source α → List α × Source α
  | 0, s => ([], s)
  | n + 1, s =>
    match s.next? with
    | none => ([], s)
    | some (item, s) =>
      let (items, s) := draw n s
      (item :: items, s)

/-- How many items have been drawn once `n` more are dropped, of `drawn` before, and the source after
them. -/
def skipFrom (drawn : Nat) : Nat → Source α → Nat × Source α
  | 0, s => (drawn, s)
  | n + 1, s =>
    match s.next? with
    | none => (drawn, s)
    | some (_, s) => skipFrom (drawn + 1) n s

/-- How many items were drawn in order to drop `n` of them, and the source after them. -/
def skip (n : Nat) (s : Source α) : Nat × Source α := skipFrom 0 n s

/-- The items repeated for ever; there are none to repeat in an empty list. -/
def cycle : List α → Source α
  | [] => finite []
  | item :: items => endless (fun n => ((item :: items)[n % (items.length + 1)]?).getD item) 0

/-! ### The front of a source and what is after it -/

/-- The first `n` items, or all of them. -/
def front : Source α → Nat → List α
  | finite items, n => items.take n
  | endless item start, n => (List.range' start n).map item

/-- The source once the first `n` items are drawn, or all of them. -/
def after : Source α → Nat → Source α
  | finite items, n => finite (items.drop n)
  | endless item start, n => endless item (start + n)

theorem length_front_le (source : Source α) (n : Nat) : (source.front n).length ≤ n := by
  cases source with
  | finite items => exact List.length_take_le n items
  | endless item start =>
    have hlength : ((List.range' start n).map item).length = n := by
      rw [List.length_map, List.length_range']
    exact Nat.le_of_eq hlength

/-- Drawing takes the front off. -/
theorem draw_eq (n : Nat) (source : Source α) :
    source.draw n = (source.front n, source.after n) := by
  induction n generalizing source with
  | zero => cases source <;> rfl
  | succ n ih =>
    rcases source with (- | ⟨item, items⟩) | ⟨item, start⟩
    · rfl
    · show (item :: ((finite items).draw n).1, ((finite items).draw n).2) = _
      rw [ih]
      rfl
    · show (item start :: ((endless item (start + 1)).draw n).1,
        ((endless item (start + 1)).draw n).2) = _
      rw [ih]
      exact congrArg (Prod.mk _) (congrArg (endless item) (Nat.succ_add_eq_add_succ start n))

theorem skipFrom_eq (drawn n : Nat) (source : Source α) :
    source.skipFrom drawn n = (drawn + (source.front n).length, source.after n) := by
  induction n generalizing drawn source with
  | zero => cases source <;> rfl
  | succ n ih =>
    rcases source with (- | ⟨item, items⟩) | ⟨item, start⟩
    · rfl
    · show skipFrom (drawn + 1) n (finite items) = _
      rw [ih, Nat.succ_add_eq_add_succ]
      rfl
    · show skipFrom (drawn + 1) n (endless item (start + 1)) = _
      rw [ih, Nat.succ_add_eq_add_succ]
      exact congrArg (Prod.mk _) (congrArg (endless item) (Nat.succ_add_eq_add_succ start n))

theorem skip_eq (n : Nat) (source : Source α) :
    source.skip n = ((source.front n).length, source.after n) := by
  unfold skip
  rw [skipFrom_eq, Nat.zero_add]

end Source

end Polyad
