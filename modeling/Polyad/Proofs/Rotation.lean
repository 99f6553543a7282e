/-
Polyad/Proofs/Rotation.lean

Rotations of a tuple by any number of places: the numbers add up, and only their remainders by the
depth count.

Idea.  A rotation to the front is the rotation of the list of elements (`toList_rotateLeft`), whose
laws are those of the library.  A rotation to the back by `n` places is by definition one to the
front, by the depth less the remainder of `n`; this number and `n` add up to a multiple of the depth
(`add_complement_mod`), and that is all that is needed of it.  So every law is a congruence of
numbers of places.

The remainder is where a machine could fault, on a tuple without elements.  There is no such fault:
rotations of bare tuples give what rotations of tuples give.

Main statement: `rotations_act_cyclically`.
-/
import Polyad.Proofs.Bare
import Polyad.Proofs.Composition
import Mathlib.Data.List.Rotate

namespace Polyad.Tuple

variable {U : Universe}

/-! ### A rotation as one of the list of elements -/

theorem toList_rotateLeft (t : Tuple U) (n : Nat) : (t.rotateLeft n).toList = t.toList.rotate n :=
  List.rotate_eq_drop_append_take_mod.symm

@[simp]
theorem depth_rotateLeft (t : Tuple U) (n : Nat) : (t.rotateLeft n).depth = t.depth := by
  rw [← length_toList, toList_rotateLeft, List.length_rotate, length_toList]

@[simp]
theorem depth_rotateRight (t : Tuple U) (n : Nat) : (t.rotateRight n).depth = t.depth :=
  t.depth_rotateLeft _

/-! ### Numbers of places -/

/-- Two rotations to the front are one, by as many places as both together. -/
theorem rotateLeft_rotateLeft (t : Tuple U) (m n : Nat) :
    (t.rotateLeft m).rotateLeft n = t.rotateLeft (m + n) := by
  apply Tuple.ext
  show ((t.rotateLeft m).rotateLeft n).toList = (t.rotateLeft (m + n)).toList
  rw [toList_rotateLeft, toList_rotateLeft, toList_rotateLeft, List.rotate_rotate]

theorem rotateLeft_mod (t : Tuple U) (n : Nat) : t.rotateLeft (n % t.depth) = t.rotateLeft n := by
  apply Tuple.ext
  show (t.rotateLeft (n % t.depth)).toList = (t.rotateLeft n).toList
  rw [toList_rotateLeft, toList_rotateLeft, ← length_toList, List.rotate_mod]

/-- Numbers with the same remainder rotate alike. -/
theorem rotateLeft_congr {t : Tuple U} {m n : Nat} (h : m % t.depth = n % t.depth) :
    t.rotateLeft m = t.rotateLeft n := by
  rw [← rotateLeft_mod t m, h, rotateLeft_mod]

theorem rotateLeft_zero (t : Tuple U) : t.rotateLeft 0 = t := by
  apply Tuple.ext
  show (t.rotateLeft 0).toList = t.toList
  rw [toList_rotateLeft, List.rotate_zero]

theorem rotateLeft_of_depth_eq_zero {t : Tuple U} (h : t.depth = 0) (n : Nat) :
    t.rotateLeft n = t :=
  Tuple.ext (congrArg Store.values (Bare.rotateLeft_of_empty h n))

/-- The number by which a rotation to the back goes to the front makes up a whole turn with the
number that it goes back. -/
theorem add_complement_mod {d : Nat} (hd : 0 < d) (n : Nat) : (n + (d - n % d)) % d = 0 := by
  have hlt : n % d < d := Nat.mod_lt n hd
  have hsplit : n + (d - n % d) = d * (n / d) + d := by
    have := Nat.div_add_mod n d
    omega
  rw [hsplit, Nat.mul_add_mod, Nat.mod_self]

/-! ### Both directions -/

theorem rotateRight_rotateLeft (t : Tuple U) (n : Nat) :
    (t.rotateLeft n).rotateRight n = t := by
  rw [rotateRight_eq_rotateLeft, depth_rotateLeft, rotateLeft_rotateLeft]
  rcases Nat.eq_zero_or_pos t.depth with h | h
  · exact rotateLeft_of_depth_eq_zero h _
  · rw [← rotateLeft_mod, add_complement_mod h, rotateLeft_zero]

/-- A rotation to the back and one to the front may change places. -/
theorem rotateLeft_rotateRight_comm (t : Tuple U) (m n : Nat) :
    (t.rotateRight n).rotateLeft m = (t.rotateLeft m).rotateRight n := by
  rw [rotateRight_eq_rotateLeft, rotateRight_eq_rotateLeft, depth_rotateLeft, rotateLeft_rotateLeft,
    rotateLeft_rotateLeft, Nat.add_comm]

theorem rotateRight_congr {t : Tuple U} {m n : Nat} (h : m % t.depth = n % t.depth) :
    t.rotateRight m = t.rotateRight n := by
  rw [rotateRight_eq_rotateLeft, rotateRight_eq_rotateLeft, h]

/-! ### Single elements -/

/-- The element at an index after a rotation to the front stood so many places further back. -/
theorem getElem?_rotateLeft {t : Tuple U} {i : Nat} (hi : i < t.depth) (n : Nat) :
    (t.rotateLeft n).toList[i]? = t.toList[(i + n) % t.depth]? := by
  rw [toList_rotateLeft]
  exact List.getElem?_rotate hi

/-- A rotation to the back takes each element so many places further back. -/
theorem getElem?_rotateRight {t : Tuple U} {i : Nat} (hi : i < t.depth) (n : Nat) :
    (t.rotateRight n).toList[(i + n) % t.depth]? = t.toList[i]? := by
  -- seen from the rotated tuple this is a rotation to the front, which brings `t` back
  have hback : (t.rotateRight n).rotateLeft n = t := by
    rw [rotateLeft_rotateRight_comm, rotateRight_rotateLeft]
  have hget := getElem?_rotateLeft (t := t.rotateRight n) (i := i) (by simpa using hi) n
  rw [hback, depth_rotateRight] at hget
  exact hget.symm

/-! ### The laws -/

/-- **Rotations act as a cyclic group**, for all numbers of places.  The element at the index `i`
comes from, or goes to, the index `i + n` reduced by the depth; rotations to the front and to the
back undo each other and commute; numbers with the same remainder rotate alike, and numbers of
successive rotations add up; no element is lost or doubled.  A machine that rotates the elements
never faults, on no tuple, and the empty tuple is every rotation of itself. -/
theorem rotations_act_cyclically :
    (∀ (t : Tuple U) (m n : Nat),
      (∀ i, i < t.depth →
        (t.rotateLeft n).toList[i]? = t.toList[(i + n) % t.depth]? ∧
        (t.rotateRight n).toList[(i + n) % t.depth]? = t.toList[i]?) ∧
      (t.rotateLeft n).rotateRight n = t ∧
      (t.rotateRight n).rotateLeft n = t ∧
      (m % t.depth = n % t.depth →
        t.rotateLeft m = t.rotateLeft n ∧ t.rotateRight m = t.rotateRight n) ∧
      (t.rotateLeft m).rotateLeft n = t.rotateLeft (m % t.depth + n % t.depth) ∧
      (t.rotateLeft m).rotateRight n = (t.rotateRight n).rotateLeft m ∧
      (t.rotateLeft n).depth = t.depth ∧ (t.rotateRight n).depth = t.depth ∧
      (t.rotateLeft n).toList.Perm t.toList ∧ (t.rotateRight n).toList.Perm t.toList) ∧
    (∀ (t : Tuple U) (n : Nat),
      Bare.rotateLeft t.toList n = some (t.rotateLeft n).toList ∧
      Bare.rotateRight t.toList n = some (t.rotateRight n).toList) ∧
    ∀ n, (empty : Tuple U).rotateLeft n = empty ∧ (empty : Tuple U).rotateRight n = empty := by
  refine ⟨fun t m n => ⟨fun i hi => ⟨getElem?_rotateLeft hi n, getElem?_rotateRight hi n⟩,
    t.rotateRight_rotateLeft n, ?_, fun h => ⟨rotateLeft_congr h, rotateRight_congr h⟩, ?_,
    (t.rotateLeft_rotateRight_comm m n).symm, t.depth_rotateLeft n, t.depth_rotateRight n,
    t.elements.perm_rotateLeft n, t.elements.perm_rotateRight n⟩,
    fun t n => ⟨Bare.rotateLeft_values t.elements n, Bare.rotateRight_values t.elements n⟩,
    fun n => ⟨rotateLeft_of_depth_eq_zero rfl n, rotateLeft_of_depth_eq_zero rfl _⟩⟩
  · rw [rotateLeft_rotateRight_comm, rotateRight_rotateLeft]
  · rw [rotateLeft_rotateLeft]
    exact rotateLeft_congr (Nat.add_mod m n t.depth)

/-- The laws at three letters and at two words whose sums with an index run over: an element that
comes to the last place, one that comes from it, and the two words as the same rotation. -/
theorem rotations_act_cyclically_letters :
    let letter (c : Char) : Value Standard := .leaf .char c
    let t : Tuple Standard := ⟨⟨['a', 'b', 'c'].map letter, by decide⟩⟩
    let n := UInt64.size - 2
    let m := UInt64.size - 5
    2 < t.depth ∧ UInt64.size ≤ 2 + n ∧
      (t.rotateLeft n).toList[2]? = some (letter 'b') ∧
      (t.rotateRight n).toList[1]? = some (letter 'c') ∧
      m % t.depth = n % t.depth ∧ t.rotateLeft m = t.rotateLeft n ∧
      (t.rotateLeft m).rotateLeft n = t.rotateLeft 4 := by
  intro letter t n m
  obtain ⟨hlaws, -, -⟩ := rotations_act_cyclically (U := Standard)
  obtain ⟨hindex, -, -, hcongr, hsum, -⟩ := hlaws t m n
  have hlast : 2 < t.depth := by decide
  have hplace : (2 + n) % t.depth = 1 := by decide
  have hn : n % t.depth = 2 := by decide
  have hm : m % t.depth = 2 := by decide
  obtain ⟨hleft, hright⟩ := hindex 2 hlast
  rw [hplace] at hleft hright
  rw [hm, hn] at hsum
  have hsame : m % t.depth = n % t.depth := hm.trans hn.symm
  exact ⟨hlast, by decide, hleft, hright, hsame, (hcongr hsame).1, hsum⟩

end Polyad.Tuple
