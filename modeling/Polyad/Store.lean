/-
Polyad/Store.lean

The store of elements behind every tuple and matcher: at most `maxDepth` values in order.

A store is only ever built from a list together with the bound on its length.  The operations
below keep the bound by what they do; those that can exceed it ask for a proof (`concat`,
`insert`) or draw from a source and may refuse (`ofSource`, `assemble`).
-/
import Polyad.Value
import Polyad.Error
import Polyad.Source

namespace Polyad

/-- At most `maxDepth` values, in order. -/
structure Store (U : Universe) where
  values : List (Value U)
  length_le : values.length ≤ maxDepth

namespace Store

variable {U : Universe}

/-- Stores with the same values are the same. -/
@[ext]
theorem ext {s t : Store U} (h : s.values = t.values) : s = t := by
  cases s; cases t; cases h; rfl

/-- The store without elements. -/
def empty : Store U := ⟨[], Nat.zero_le _⟩

/-- The number of elements. -/
def depth (s : Store U) : Nat := s.values.length

theorem depth_le (s : Store U) : s.depth ≤ maxDepth := s.length_le

def isEmpty (s : Store U) : Bool := s.values.isEmpty

/-- The types of the elements, in order. -/
def types (s : Store U) : List (Ty U) := Value.types s.values

/-! ### Building from a source -/

/-- The store of all items of a source, and the number of items drawn to build it.  One item past
the greatest depth is drawn at most, so an endless source is refused. -/
def ofSource (source : Source (Value U)) : Except (Error U) (Store U) × Nat :=
  let (items, _) := source.draw (maxDepth + 1)
  (if h : items.length ≤ maxDepth then .ok ⟨items, h⟩ else .error (.overflow items.length),
    items.length)

/-- The store of a list of values. -/
def ofList (values : List (Value U)) : Except (Error U) (Store U) :=
  (ofSource (.finite values)).1

theorem length_draw_le {α : Type} (n : Nat) (s : Source α) : (s.draw n).1.length ≤ n := by
  rw [Source.draw_eq]
  exact s.length_front_le n

/-- The store of the `depth` items after the first `offset`, and the number of items drawn to build
it.  There is none if the source runs dry.  Nothing is drawn if nothing is to be kept or if too
much is asked for. -/
def assemble (source : Source (Value U)) (offset depth : Nat) :
    Except (Error U) (Option (Store U)) × Nat :=
  if h : maxDepth < depth then (.error (.overflow depth), 0)
  else if depth = 0 then (.ok (some empty), 0)
  else
    let (skipped, rest) := source.skip offset
    let taken := (rest.draw depth).1
    (if taken.length < depth then .ok none
      else .ok (some ⟨taken, Nat.le_trans (length_draw_le _ _) (Nat.le_of_not_lt h)⟩),
      skipped + taken.length)

/-! ### Looking at elements -/

/-- The element at a zero-based index. -/
def get (s : Store U) (index : Nat) : Except (Error U) (Value U) :=
  match s.values[index]? with
  | some v => .ok v
  | none => .error (.indexOutOfRange index s.depth)

/-- The index of the first element equal to `v`. -/
def indexOf? (s : Store U) (v : Value U) : Option Nat :=
  s.values.findIdx? (·.beq v)

/-- The index of the first element that is of type `t` and equal to `v`. -/
def indexOfElement? (s : Store U) (t : Ty U) (v : Value U) : Option Nat :=
  s.values.findIdx? fun w => (w.as? t).any (·.beq v)

/-! ### Taking apart and putting together -/

/-- The elements of `s` and then those of `t`. -/
def concat (s t : Store U) (h : s.depth + t.depth ≤ maxDepth) : Store U :=
  ⟨s.values ++ t.values, by simpa [depth] using h⟩

/-- The elements from the index `start` to just before the index `stop`. -/
def slice (s : Store U) (start stop : Nat) : Store U :=
  ⟨(s.values.take stop).drop start, by
    have := s.length_le
    simp only [List.length_drop, List.length_take]
    omega⟩

/-- A new element before the one at `index`. -/
def insert (s : Store U) (index : Nat) (v : Value U) (h : s.depth < maxDepth) : Store U :=
  ⟨s.values.take index ++ v :: s.values.drop index, by
    have : s.values.length < maxDepth := h
    simp only [List.length_append, List.length_take, List.length_cons, List.length_drop]
    omega⟩

/-- All elements but the one at `index`. -/
def without (s : Store U) (index : Nat) : Store U :=
  ⟨(s.values.zipIdx.filter (·.2 != index)).map (·.1), by
    have := List.length_filter_le (·.2 != index) s.values.zipIdx
    have := s.length_le
    simp only [List.length_map, List.length_zipIdx] at *
    omega⟩

/-- The same elements with `v` at `index`. -/
def replace (s : Store U) (index : Nat) (v : Value U) : Store U :=
  ⟨s.values.zipIdx.map fun (w, i) => if i = index then v else w, by simpa using s.length_le⟩

/-- The elements shifted cyclically `n` places to the front. -/
def rotateLeft (s : Store U) (n : Nat) : Store U :=
  let k := n % s.depth
  ⟨s.values.drop k ++ s.values.take k, by
    have := s.length_le
    simp only [List.length_append, List.length_drop, List.length_take]
    omega⟩

/-- The elements shifted cyclically `n` places to the back. -/
def rotateRight (s : Store U) (n : Nat) : Store U :=
  s.rotateLeft (s.depth - n % s.depth)

/-! ### Comparing -/

/-- Equal depth and equal elements. -/
def beq (s t : Store U) : Bool := Value.beqAll s.values t.values

/-- The order of as many values, with the position of the first pair that is not ordered;
`position` is that of the first pair. -/
def cmpFrom (position : Nat) : List (Value U) → List (Value U) → Except (Error U) Ordering
  | v :: vs, w :: ws =>
    match v.cmp? w with
    | some .eq => cmpFrom (position + 1) vs ws
    | some decided => .ok decided
    | none => .error (.notComparable position v.ty w.ty)
  | _, _ => .ok .eq

/-- The shallower store first, then the order of the first elements that are not equal. -/
def cmp (s t : Store U) : Except (Error U) Ordering :=
  match compare s.depth t.depth with
  | .eq => cmpFrom 1 s.values t.values
  | decided => .ok decided

/-! ### Showing -/

/-- A list of the elements. -/
def outline (s : Store U) : Outline := .list (Value.outlines s.values)

/-- The elements under the keys of their indexes, the keys in the order in which they come up; the
last element under a key counts.  Giving a key may change a state. -/
def keyed {κ σ : Type} [BEq κ] (key : Nat → StateM σ κ) (s : Store U) :
    StateM σ (List (κ × Value U)) :=
  s.values.zipIdx.foldlM (fun entries (v, index) => do
    let k ← key index
    pure (if entries.any (·.1 == k)
      then entries.map fun entry => if entry.1 == k then (entry.1, v) else entry
      else entries ++ [(k, v)])) []

end Store

end Polyad
