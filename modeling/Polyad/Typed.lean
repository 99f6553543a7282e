/-
Polyad/Typed.lean

Tuples whose element types are known: a store together with the fact that the types of its
elements are the ones stated.

An operation that takes a tuple apart or puts it together does the same to the store as to the
list of types.  Where a position comes in, the caller shows on the types alone that the operation
has a result (`TypeList.splitAt?` and its companions), and then it cannot fail.  The one-based
position is `index + 1`.

The stated types are here the types by which the elements are told apart.  A language in which one type
may stand for another one also lets a tuple be stated to be of types that its elements are not of; such
a tuple is no `Typed`, and it is dealt with where tuples are taken for others (`Construction.coerce`).
-/
import Polyad.Store.Types
import Polyad.Tuple
import Polyad.Capability

namespace Polyad

/-- An element of type `t`. -/
abbrev Element {U : Universe} (t : Ty U) : Type := { v : Value U // v.ty = t }

/-- A tuple of elements of the given types, which are those by which the elements are told apart. -/
structure Typed (U : Universe) (ts : List (Ty U)) where
  elements : Store U
  types_elements : elements.types = ts

namespace Typed

variable {U : Universe} {ts us : List (Ty U)}

/-! ### Building and erasing -/

/-- The tuple of the given elements. -/
def ofList (values : List (Value U)) (h : values.length ≤ maxDepth) :
    Typed U (Value.types values) :=
  ⟨⟨values, h⟩, rfl⟩

/-- The tuple without elements. -/
def empty : Typed U [] := ⟨.empty, rfl⟩

/-- The tuple without knowledge of its types. -/
def erase (t : Typed U ts) : Tuple U := ⟨t.elements⟩

/-- The elements, in order. -/
def toList (t : Typed U ts) : List (Value U) := t.elements.values

def depth (t : Typed U ts) : Nat := t.elements.depth

def isEmpty (t : Typed U ts) : Bool := t.elements.isEmpty

/-- The depth that the types state is that of the store. -/
theorem length_types (t : Typed U ts) : ts.length = t.depth :=
  (congrArg List.length t.types_elements).symm.trans (Store.length_types _)

theorem length_types_le (t : Typed U ts) : ts.length ≤ maxDepth :=
  t.length_types ▸ t.elements.depth_le

/-- The tuple with its types, if there are as many elements and they are of these types. -/
def ofTuple (ts : List (Ty U)) (t : Tuple U) : Except (Error U) (Typed U ts) :=
  if hdepth : t.depth = ts.length then
    match h : Capability.typeCheck ts t.toList 0 with
    | .ok () =>
      have hword : ts.length < UInt64.size := by
        have h₁ : t.depth ≤ maxDepth := t.elements.depth_le
        have h₂ : maxDepth < UInt64.size := by decide
        omega
      .ok ⟨t.elements, Capability.types_eq_of_typeCheck hdepth hword h⟩
    | .error e => .error e
  else .error (.depthMismatch ts.length t.depth)

/-- The conversion of a tuple where a tuple of some types is expected: it is refused as it is when
the types are asked for. -/
def tryFrom (t : Tuple U) : Except (Error U) (Typed U ts) := ofTuple ts t

/-- The tuple of the items of a source after the first `offset`, unless the source runs dry, and the
number of items drawn. -/
def assemble (ts : List (Ty U)) (source : Source (Value U)) (offset : Nat) :
    Except (Error U) (Option (Typed U ts)) × Nat :=
  let (result, drawn) := Tuple.assemble source offset ts.length
  (match result with
    | .ok (some t) => (ofTuple ts t).map some
    | .ok none => .ok none
    | .error e => .error e,
    drawn)

/-! ### Looking at elements -/

/-- The element at a position that is only known by looking. -/
def value (t : Typed U ts) (position : Nat) : Except (Error U) (Value U) :=
  if position = 0 ∨ t.depth < position then .error (.invalidPosition position t.depth)
  else t.elements.get (position - 1)

/-- The element at an index that the types have. -/
def get (t : Typed U ts) (index : Nat) {s : Ty U}
    (h : TypeList.elementAt? index ts = some s) : Element s :=
  have hs : (t.elements.values.map Value.ty)[index]? = some s := by
    rw [← Store.types_eq_map, t.types_elements, ← TypeList.elementAt?_eq_getElem?, h]
  have hlt : index < t.elements.values.length := by
    simpa using (List.getElem?_eq_some_iff.1 hs).1
  ⟨t.elements.values.get ⟨index, hlt⟩, by
    simpa [hlt] using hs⟩

/-- The position of the first element of type `ty` equal to `v`, or 0. -/
def positionOf (t : Typed U ts) (ty : Ty U) (v : Value U) : Nat :=
  match t.elements.indexOfElement? ty v with
  | some index => index + 1
  | none => 0

/-- Whether some element is of type `ty` and equal to `v`. -/
def contains (t : Typed U ts) (ty : Ty U) (v : Value U) : Bool :=
  t.positionOf ty v != 0

/-- The elements under the keys of their zero-based indexes. -/
def keyed {κ σ : Type} [BEq κ] (key : Nat → StateM σ κ) (t : Typed U ts) :
    StateM σ (List (κ × Value U)) :=
  t.elements.keyed key

/-- The elements as a function of all of them at once is given them: each is looked up at an index of
its own. -/
def arguments (t : Typed U ts) : List (Value U) :=
  List.ofFn fun i : Fin ts.length =>
    (t.get i ((TypeList.elementAt?_eq_getElem? i.val ts).trans (List.getElem?_eq_getElem i.isLt))).val

/-- A function of all elements at once. -/
def map {β : Type} (f : List (Value U) → β) (t : Typed U ts) : β :=
  f t.arguments

/-! ### Taking apart and putting together -/

/-- The elements of `t` and then those of `other`. -/
def join (t : Typed U ts) (other : Typed U us) (h : (ts ++ us).length ≤ maxDepth) :
    Typed U (ts ++ us) :=
  ⟨t.elements.concat other.elements (by
    have h₁ : ts.length = t.elements.depth := t.length_types
    have h₂ : us.length = other.elements.depth := other.length_types
    simpa [h₁, h₂] using h), by
    rw [Store.types_concat, t.types_elements, other.types_elements]⟩

/-- A new element before the one at `index`, which the types must have. -/
def add (t : Typed U ts) (index : Nat) (v : Value U)
    (_ : (TypeList.elementAt? index ts).isSome)
    (h : TypeList.insertAt? v.ty index ts = some us) (hdepth : us.length ≤ maxDepth) :
    Typed U us :=
  have hus := TypeList.insertAt?_eq_some_iff.1 h
  ⟨t.elements.insert index v (by
    have h₁ : ts.length = t.elements.depth := t.length_types
    have h₂ := congrArg List.length hus.2
    simp only [List.length_append, List.length_take, List.length_cons, List.length_drop] at h₂
    omega), by
    rw [Store.types_insert, t.types_elements, hus.2]⟩

/-- The elements before the index. -/
def truncate (t : Typed U ts) (index : Nat) {head tail : List (Ty U)}
    (h : TypeList.splitAt? index ts = some (head, tail)) (_ : tail ≠ []) : Typed U head :=
  ⟨t.elements.slice 0 index, by
    rw [Store.types_slice, t.types_elements, (TypeList.splitAt?_eq_some_iff.1 h).2.1]
    rfl⟩

/-- The elements from the index on. -/
def hop (t : Typed U ts) (index : Nat) {head tail : List (Ty U)}
    (h : TypeList.splitAt? index ts = some (head, tail)) (_ : tail ≠ []) : Typed U tail :=
  ⟨t.elements.slice index t.depth, by
    rw [Store.types_slice, t.types_elements, (TypeList.splitAt?_eq_some_iff.1 h).2.2,
      ← t.length_types, List.take_length]⟩

/-- The elements before the index, and those from it on, which are at least two. -/
def splice (t : Typed U ts) (index : Nat) {head tail : List (Ty U)}
    (h : TypeList.splitAt? index ts = some (head, tail)) (hplural : 2 ≤ tail.length) :
    Typed U head × Typed U tail :=
  have hne : tail ≠ [] := by
    intro e
    simp [e] at hplural
  (t.truncate index h hne, t.hop index h hne)

/-- All elements but the one at the index. -/
def remove (t : Typed U ts) (index : Nat) (h : TypeList.removeAt? index ts = some us) :
    Typed U us :=
  ⟨t.elements.without index, by
    rw [Store.types_without, t.types_elements, (TypeList.removeAt?_eq_some_iff.1 h).2]⟩

/-- The elements shifted cyclically `n` places to the front. -/
def rotateLeft (t : Typed U ts) (n : Nat) : Typed U (TypeList.rotateLeft n ts) :=
  ⟨t.elements.rotateLeft n, by rw [Store.types_rotateLeft, t.types_elements]⟩

/-- The elements shifted cyclically `n` places to the back. -/
def rotateRight (t : Typed U ts) (n : Nat) : Typed U (TypeList.rotateRight n ts) :=
  ⟨t.elements.rotateRight n, by rw [Store.types_rotateRight, t.types_elements]⟩

/-- The same elements, with `f` applied to the one at the index. -/
def transform (t : Typed U ts) (index : Nat) {s u : Ty U} (f : Element s → Element u)
    (hs : TypeList.elementAt? index ts = some s)
    (h : TypeList.replaceAt? u index ts = some us) : Typed U us :=
  ⟨t.elements.replace index (f (t.get index hs)).val, by
    rw [Store.types_replace, t.types_elements, (f (t.get index hs)).property,
      (TypeList.replaceAt?_eq_some_iff.1 h).2]⟩

/-! ### Comparing, hashing, showing -/

/-- Equal depth and equal elements, whatever the types. -/
def beq (t : Typed U ts) (other : Typed U us) : Bool := t.elements.beq other.elements

/-- Equality with a tuple of unknown types. -/
def beqTuple (t : Typed U ts) (other : Tuple U) : Bool := t.elements.beq other.elements

/-- The order of two tuples of the same types, if they are ordered. -/
def cmp? (t other : Typed U ts) : Option Ordering := (t.elements.cmp other.elements).toOption

/-- The total order of two tuples of the same types. -/
def collate (c : Collation U) (t other : Typed U ts) : Ordering :=
  Capability.collateEach c ts t.toList other.toList 0

/-- The greater of two tuples, the second one if they are equal. -/
def max (c : Collation U) (t other : Typed U ts) : Typed U ts :=
  if other.collate c t = .lt then t else other

/-- The lesser of two tuples, the first one if they are equal. -/
def min (c : Collation U) (t other : Typed U ts) : Typed U ts :=
  if other.collate c t = .lt then other else t

/-- What the tuple gives to a hash: the depth and then each element. -/
def feed (h : Hashing U) (t : Typed U ts) : List (Write U) :=
  Feed.count t.depth ++ Capability.feedEach h ts t.toList 0

/-- The tuple as an element of another one. -/
def toValue (t : Typed U ts) : Value U := .tuple t.toList

def outline (t : Typed U ts) : Outline := t.toValue.outline

/-! ### Writing and reading -/

/-- The items that stand for the elements, as one sequence. -/
def encode {δ ε : Type} (c : Codec U δ ε) (t : Typed U ts) : Except (Error U) δ :=
  (Capability.encodeEach c ts t.toList 0).map c.sequence

/-- The tuple for which an item stands. -/
def decode {δ ε : Type} (c : Codec U δ ε) (ts : List (Ty U)) (hts : ts.length ≤ maxDepth)
    (item : δ) : Except ε (Typed U ts) :=
  match c.items ts.length item with
  | .error e => .error e
  | .ok items =>
    match h : c.decodeEach ts items [] with
    | .error e => .error e
    | .ok (values, rest) =>
      have htypes : Value.types values = ts := c.types_of_decodeEach ts items [] h
      if rest.isEmpty then
        .ok ⟨⟨values, by rw [← Value.length_types, htypes]; exact hts⟩, htypes⟩
      else .error (c.tooLong items.length)

end Typed

end Polyad
