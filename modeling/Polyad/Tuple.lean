/-
Polyad/Tuple.lean

Tuples whose depth and element types are known only by looking at them.

Positions are one-based.  Every operation that takes a position checks, in this order, that the
tuple is not empty, that the position is in the range of the operation, and that the result is not
too deep; the first check that fails names the error.
-/
import Polyad.Feed

namespace Polyad

/-- A tuple of elements of unknown types. -/
structure Tuple (U : Universe) where
  elements : Store U

namespace Tuple

variable {U : Universe}

@[ext]
theorem ext {s t : Tuple U} (h : s.elements.values = t.elements.values) : s = t := by
  cases s; cases t; exact congrArg _ (Store.ext h)

/-- The tuple without elements. -/
def empty : Tuple U := ⟨.empty⟩

/-- The tuple of all items of a source, and the number of items drawn. -/
def ofSource (source : Source (Value U)) : Except (Error U) (Tuple U) × Nat :=
  let (result, drawn) := Store.ofSource source
  (result.map mk, drawn)

/-- The tuple of a list of values. -/
def ofList (values : List (Value U)) : Except (Error U) (Tuple U) :=
  (ofSource (.finite values)).1

/-- The tuple of the `depth` items of a source after the first `offset`, unless the source runs
dry, and the number of items drawn. -/
def assemble (source : Source (Value U)) (offset depth : Nat) :
    Except (Error U) (Option (Tuple U)) × Nat :=
  let (result, drawn) := Store.assemble source offset depth
  (result.map (·.map mk), drawn)

/-- The elements, in order. -/
def toList (t : Tuple U) : List (Value U) := t.elements.values

def depth (t : Tuple U) : Nat := t.elements.depth

def isEmpty (t : Tuple U) : Bool := t.elements.isEmpty

/-! ### Checks -/

/-- Refuses the empty tuple. -/
def checkNonEmpty (t : Tuple U) (operation : Operation) : Except (Error U) Unit :=
  if t.isEmpty then .error (.unsupportedOnEmpty operation) else .ok ()

/-- Refuses a position outside of `1, …, last`. -/
def checkPosition (t : Tuple U) (last position : Nat) : Except (Error U) Unit :=
  if position = 0 ∨ last < position then .error (.invalidPosition position t.depth) else .ok ()

/-! ### Looking at elements -/

/-- The element at a position. -/
def value (t : Tuple U) (position : Nat) : Except (Error U) (Value U) := do
  t.checkPosition t.depth position
  t.elements.get (position - 1)

/-- The position of the first element of type `ty` equal to `v`, or 0. -/
def positionOf (t : Tuple U) (ty : Ty U) (v : Value U) : Nat :=
  match t.elements.indexOfElement? ty v with
  | some index => index + 1
  | none => 0

/-- The position of the first element equal to `v`, or 0. -/
def positionOfValue (t : Tuple U) (v : Value U) : Nat :=
  match t.elements.indexOf? v with
  | some index => index + 1
  | none => 0

/-- Whether some element is of type `ty` and equal to `v`. -/
def contains (t : Tuple U) (ty : Ty U) (v : Value U) : Bool :=
  t.positionOf ty v != 0

/-! ### Taking apart and putting together -/

/-- The elements of `t` and then those of `other`. -/
def join (t other : Tuple U) : Except (Error U) (Tuple U) :=
  if h : t.depth + other.depth ≤ maxDepth then .ok ⟨t.elements.concat other.elements h⟩
  else .error (.overflow (t.depth + other.depth))

/-- A new element before the one at `position`. -/
def add (t : Tuple U) (position : Nat) (v : Value U) : Except (Error U) (Tuple U) := do
  t.checkNonEmpty .add
  t.checkPosition t.depth position
  if h : t.depth < maxDepth then .ok ⟨t.elements.insert (position - 1) v h⟩
  else .error (.overflow (maxDepth + 1))

/-- The elements before `position` and those from it on; neither part may be everything. -/
def splice (t : Tuple U) (position : Nat) : Except (Error U) (Tuple U × Tuple U) := do
  t.checkNonEmpty .splice
  t.checkPosition (t.depth - 1) position
  .ok (⟨t.elements.slice 0 (position - 1)⟩, ⟨t.elements.slice (position - 1) t.depth⟩)

/-- The elements before `position`. -/
def truncate (t : Tuple U) (position : Nat) : Except (Error U) (Tuple U) := do
  t.checkNonEmpty .truncate
  t.checkPosition t.depth position
  .ok ⟨t.elements.slice 0 (position - 1)⟩

/-- The elements from `position` on. -/
def hop (t : Tuple U) (position : Nat) : Except (Error U) (Tuple U) := do
  t.checkNonEmpty .hop
  t.checkPosition t.depth position
  .ok ⟨t.elements.slice (position - 1) t.depth⟩

/-- All elements but the one at `position`. -/
def remove (t : Tuple U) (position : Nat) : Except (Error U) (Tuple U) := do
  t.checkNonEmpty .remove
  t.checkPosition t.depth position
  .ok ⟨t.elements.without (position - 1)⟩

/-- The elements shifted cyclically `n` places to the front. -/
def rotateLeft (t : Tuple U) (n : Nat) : Tuple U := ⟨t.elements.rotateLeft n⟩

/-- The elements shifted cyclically `n` places to the back. -/
def rotateRight (t : Tuple U) (n : Nat) : Tuple U := ⟨t.elements.rotateRight n⟩

/-- The same elements, with `f` applied to the one at `position`. -/
def transform (t : Tuple U) (position : Nat) (f : Value U → Value U) :
    Except (Error U) (Tuple U) := do
  t.checkNonEmpty .transform
  let v ← t.value position
  .ok ⟨t.elements.replace (position - 1) (f v)⟩

/-- The same elements, with `f` applied to the one at `position`, where applying it may have an
effect. -/
def transformM {m : Type → Type} [Monad m] (t : Tuple U) (position : Nat)
    (f : Value U → m (Value U)) : ExceptT (Error U) m (Tuple U) := do
  t.checkNonEmpty .transform
  let v ← t.value position
  let w ← f v
  return ⟨t.elements.replace (position - 1) w⟩

/-- The elements under the keys of their zero-based indexes. -/
def keyed {κ σ : Type} [BEq κ] (key : Nat → StateM σ κ) (t : Tuple U) :
    StateM σ (List (κ × Value U)) :=
  t.elements.keyed key

/-! ### Comparing, hashing, showing -/

/-- Equal depth and equal elements. -/
def beq (t other : Tuple U) : Bool := t.elements.beq other.elements

/-- The order of two tuples, or the first position at which they are not ordered. -/
def cmp (t other : Tuple U) : Except (Error U) Ordering := t.elements.cmp other.elements

/-- The order of two tuples, if they are ordered. -/
def cmp? (t other : Tuple U) : Option Ordering := (t.cmp other).toOption

/-- Whether two tuples are ordered, and as `relation` asks. -/
def compares (relation : Ordering → Bool) (t other : Tuple U) : Bool :=
  (t.cmp? other).any relation

def lt (t other : Tuple U) : Bool := t.compares Ordering.isLT other

def le (t other : Tuple U) : Bool := t.compares Ordering.isLE other

def gt (t other : Tuple U) : Bool := t.compares Ordering.isGT other

def ge (t other : Tuple U) : Bool := t.compares Ordering.isGE other

/-- What the tuple gives to a hash. -/
def feed (t : Tuple U) : List (Write U) := t.elements.feed

/-- The tuple as an element of another one. -/
def toValue (t : Tuple U) : Value U := .dyn t.toList

def outline (t : Tuple U) : Outline := t.toValue.outline

end Tuple

end Polyad
