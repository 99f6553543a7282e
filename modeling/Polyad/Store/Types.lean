/-
Polyad/Store/Types.lean

The values and the types of a store that results from taking apart and putting together.  What the
operations compute with indexes and slices is said here by the operations on lists; in particular
leaving an index out is `eraseIdx`, and putting a value at an index is `set`.
-/
import Polyad.Store
import Polyad.TypeList

namespace Polyad.Store

variable {U : Universe}

/-! ### Values -/

theorem map_filter_zipIdx {α : Type} (l : List α) (k i : Nat) :
    ((l.zipIdx k).filter (·.2 != i + k)).map (·.1) = l.eraseIdx i := by
  induction l generalizing k i with
  | nil => simp
  | cons x xs ih =>
    cases i with
    | zero =>
      have hall : ∀ y ∈ xs.zipIdx (k + 1), (y.2 != k) = true := by
        intro y hy
        have := List.le_snd_of_mem_zipIdx hy
        simp only [bne_iff_ne, ne_eq]
        omega
      simp [List.filter_eq_self.2 hall]
    | succ i =>
      have hne : (k != i + 1 + k) = true := by simp only [bne_iff_ne, ne_eq]; omega
      have := ih (k + 1) i
      rw [show i + (k + 1) = i + 1 + k by omega] at this
      simp [hne, this]

theorem map_eraseIdx {α β : Type} (f : α → β) (l : List α) (i : Nat) :
    (l.eraseIdx i).map f = (l.map f).eraseIdx i := by
  induction l generalizing i with
  | nil => rfl
  | cons x xs ih => cases i <;> simp [ih]

@[simp]
theorem values_without (s : Store U) (index : Nat) :
    (s.without index).values = s.values.eraseIdx index := by
  simpa [without] using map_filter_zipIdx s.values 0 index

theorem map_zipIdx_ite {α : Type} (l : List α) (v : α) (k i : Nat) :
    ((l.zipIdx k).map fun p => if p.2 = i + k then v else p.1) = l.set i v := by
  induction l generalizing k i with
  | nil => simp
  | cons x xs ih =>
    cases i with
    | zero =>
      have hall : ∀ y ∈ xs.zipIdx (k + 1), (if y.2 = k then v else y.1) = y.1 := by
        intro y hy
        have := List.le_snd_of_mem_zipIdx hy
        rw [if_neg (by omega)]
      simp [List.map_congr_left hall]
    | succ i =>
      have := ih (k + 1) i
      rw [show i + (k + 1) = i + 1 + k by omega] at this
      simp [this]

@[simp]
theorem values_replace (s : Store U) (index : Nat) (v : Value U) :
    (s.replace index v).values = s.values.set index v := by
  simpa [replace] using map_zipIdx_ite s.values v 0 index

@[simp]
theorem values_concat (s t : Store U) (h : s.depth + t.depth ≤ maxDepth) :
    (s.concat t h).values = s.values ++ t.values := rfl

@[simp]
theorem values_slice (s : Store U) (start stop : Nat) :
    (s.slice start stop).values = (s.values.take stop).drop start := rfl

@[simp]
theorem values_insert (s : Store U) (index : Nat) (v : Value U) (h : s.depth < maxDepth) :
    (s.insert index v h).values = s.values.take index ++ v :: s.values.drop index := rfl

@[simp]
theorem values_rotateLeft (s : Store U) (n : Nat) :
    (s.rotateLeft n).values =
      s.values.drop (n % s.depth) ++ s.values.take (n % s.depth) := rfl

@[simp]
theorem values_rotateRight (s : Store U) (n : Nat) :
    (s.rotateRight n).values =
      s.values.drop ((s.depth - n % s.depth) % s.depth) ++
        s.values.take ((s.depth - n % s.depth) % s.depth) := rfl

/-! ### Types -/

theorem types_eq_map (s : Store U) : s.types = s.values.map Value.ty :=
  Value.types_eq_map _

theorem length_types (s : Store U) : s.types.length = s.depth :=
  Value.length_types _

theorem types_concat (s t : Store U) (h : s.depth + t.depth ≤ maxDepth) :
    (s.concat t h).types = s.types ++ t.types := by
  simp [types_eq_map]

theorem types_slice (s : Store U) (start stop : Nat) :
    (s.slice start stop).types = (s.types.take stop).drop start := by
  simp [types_eq_map]

theorem types_insert (s : Store U) (index : Nat) (v : Value U) (h : s.depth < maxDepth) :
    (s.insert index v h).types = s.types.take index ++ v.ty :: s.types.drop index := by
  simp [types_eq_map]

theorem types_without (s : Store U) (index : Nat) :
    (s.without index).types = s.types.eraseIdx index := by
  rw [types_eq_map, types_eq_map, values_without]
  exact map_eraseIdx Value.ty _ _

theorem types_replace (s : Store U) (index : Nat) (v : Value U) :
    (s.replace index v).types = s.types.set index v.ty := by
  simp [types_eq_map]

/-- A store rotates its types as the list of types is rotated, step by step. -/
theorem types_rotateLeft (s : Store U) (n : Nat) :
    (s.rotateLeft n).types = TypeList.rotateLeft n s.types := by
  simp [types_eq_map, TypeList.rotateLeft_eq, depth]

theorem types_rotateRight (s : Store U) (n : Nat) :
    (s.rotateRight n).types = TypeList.rotateRight n s.types := by
  rw [TypeList.rotateRight_eq, length_types, ← types_rotateLeft]
  rfl

end Polyad.Store
