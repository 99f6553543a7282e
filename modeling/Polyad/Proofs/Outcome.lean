/-
Polyad/Proofs/Outcome.lean

What every operation on tuples of unknown types gives, as one equation for each operation: the
checks in their order, each with the error it names, and behind them the result.

Idea.  The operations that take a position begin with the same two checks, and `checks_bind` is the
only place where these are opened.  The equations `add_eq`, `splice_eq`, … follow from it, and from
each equation the result at a position in range (`truncate_of_le` and its companions).  Later proofs
go by these and never open an operation.
-/
import Polyad.Store.Types
import Polyad.Tuple

namespace Polyad

variable {U : Universe}

/-- Of two steps in a row both have to give a result. -/
theorem bind_eq_ok_iff {ε α β : Type} {x : Except ε α} {f : α → Except ε β} {b : β} :
    x >>= f = .ok b ↔ ∃ a, x = .ok a ∧ f a = .ok b := by
  rcases x with e | a
  · exact ⟨nofun, fun ⟨_, h, _⟩ => nomatch h⟩
  · exact ⟨fun h => ⟨a, rfl, h⟩, fun ⟨_, h, hf⟩ => Except.ok.inj h ▸ hf⟩

theorem map_eq_ok_iff {ε α β : Type} {f : α → β} {r : Except ε α} {y : β} :
    r.map f = .ok y ↔ ∃ x, r = .ok x ∧ f x = y := by
  cases r <;> simp [Except.map]

/-- A store has an element at every index below its depth. -/
theorem Store.get_of_lt {s : Store U} {i : Nat} (h : i < s.values.length) :
    s.get i = .ok s.values[i] := by
  unfold Store.get
  rw [List.getElem?_eq_getElem h]

/-- A rotation swaps two parts, so it keeps the elements. -/
theorem Store.perm_rotateLeft (s : Store U) (n : Nat) :
    (s.rotateLeft n).values.Perm s.values := by
  rw [Store.values_rotateLeft]
  refine List.perm_append_comm.trans ?_
  rw [List.take_append_drop]

theorem Store.perm_rotateRight (s : Store U) (n : Nat) :
    (s.rotateRight n).values.Perm s.values :=
  s.perm_rotateLeft _

namespace Tuple

/-! ### Elements and depth -/

@[simp] theorem toList_mk (s : Store U) : toList ⟨s⟩ = s.values := rfl

theorem length_toList (t : Tuple U) : t.toList.length = t.depth := rfl

theorem depth_eq_add {t u w : Tuple U} (h : w.toList = t.toList ++ u.toList) :
    w.depth = t.depth + u.depth := by
  rw [← length_toList, h, List.length_append, length_toList, length_toList]

/-- The elements before an index. -/
theorem toList_slice_zero (t : Tuple U) (i : Nat) :
    toList ⟨t.elements.slice 0 i⟩ = t.toList.take i := rfl

/-- The elements from an index on. -/
theorem toList_slice_depth (t : Tuple U) (i : Nat) :
    toList ⟨t.elements.slice i t.depth⟩ = t.toList.drop i := by
  show (t.toList.take t.toList.length).drop i = t.toList.drop i
  rw [List.take_length]

theorem depth_le (t : Tuple U) : t.depth ≤ maxDepth := t.elements.depth_le

theorem isEmpty_iff {t : Tuple U} : t.isEmpty = true ↔ t.depth = 0 := by
  unfold isEmpty Store.isEmpty depth Store.depth
  rw [List.isEmpty_iff, List.length_eq_zero_iff]

/-! ### The checks in front -/

/-- Behind both checks comes `r`: the empty tuple is refused first, then a position outside of
`1, …, last`. -/
theorem checks_bind {α : Type} (t : Tuple U) (operation : Operation) (last p : Nat)
    (r : Except (Error U) α) :
    (do t.checkNonEmpty operation; t.checkPosition last p; r)
      = if t.depth = 0 then .error (.unsupportedOnEmpty operation)
        else if p = 0 ∨ last < p then .error (.invalidPosition p t.depth)
        else r := by
  unfold checkNonEmpty checkPosition
  by_cases h₀ : t.depth = 0
  · rw [if_pos h₀, if_pos (isEmpty_iff.mpr h₀)]
    rfl
  · rw [if_neg h₀, if_neg (fun h => h₀ (isEmpty_iff.mp h))]
    by_cases hp : p = 0 ∨ last < p
    · rw [if_pos hp, if_pos hp]
      rfl
    · rw [if_neg hp, if_neg hp]
      rfl

/-- At a position in range both checks are passed. -/
theorem checks_bind_of_le {α : Type} {t : Tuple U} {operation : Operation} {last p : Nat}
    {r : Except (Error U) α} (hlast : last ≤ t.depth) (h₁ : 1 ≤ p) (h₂ : p ≤ last) :
    (do t.checkNonEmpty operation; t.checkPosition last p; r) = r := by
  rw [checks_bind, if_neg (by omega), if_neg (by omega)]

/-! ### Outcomes -/

/-- The element at a position in range. -/
def elementAt (t : Tuple U) (p : Nat) (h : ¬(p = 0 ∨ t.depth < p)) : Value U :=
  t.toList.get ⟨p - 1, by rw [length_toList]; omega⟩

theorem join_eq (t u : Tuple U) :
    t.join u
      = if h : t.depth + u.depth ≤ maxDepth then .ok ⟨t.elements.concat u.elements h⟩
        else .error (.overflow (t.depth + u.depth)) := rfl

theorem add_eq (t : Tuple U) (p : Nat) (v : Value U) :
    t.add p v
      = if t.depth = 0 then .error (.unsupportedOnEmpty .add)
        else if p = 0 ∨ t.depth < p then .error (.invalidPosition p t.depth)
        else if h : t.depth < maxDepth then .ok ⟨t.elements.insert (p - 1) v h⟩
        else .error (.overflow (maxDepth + 1)) :=
  checks_bind t .add t.depth p _

/-- The range of `splice` ends one position before that of the other operations. -/
theorem splice_eq (t : Tuple U) (p : Nat) :
    t.splice p
      = if t.depth = 0 then .error (.unsupportedOnEmpty .splice)
        else if p = 0 ∨ t.depth ≤ p then .error (.invalidPosition p t.depth)
        else .ok (⟨t.elements.slice 0 (p - 1)⟩, ⟨t.elements.slice (p - 1) t.depth⟩) := by
  refine (checks_bind t .splice (t.depth - 1) p _).trans ?_
  by_cases h₀ : t.depth = 0
  · rw [if_pos h₀, if_pos h₀]
  · -- the subtraction does not cut off, since the empty tuple was refused before
    have hrange : (p = 0 ∨ t.depth - 1 < p) = (p = 0 ∨ t.depth ≤ p) := propext (by omega)
    rw [if_neg h₀, if_neg h₀]
    simp only [hrange]

theorem truncate_eq (t : Tuple U) (p : Nat) :
    t.truncate p
      = if t.depth = 0 then .error (.unsupportedOnEmpty .truncate)
        else if p = 0 ∨ t.depth < p then .error (.invalidPosition p t.depth)
        else .ok ⟨t.elements.slice 0 (p - 1)⟩ :=
  checks_bind t .truncate t.depth p _

theorem hop_eq (t : Tuple U) (p : Nat) :
    t.hop p
      = if t.depth = 0 then .error (.unsupportedOnEmpty .hop)
        else if p = 0 ∨ t.depth < p then .error (.invalidPosition p t.depth)
        else .ok ⟨t.elements.slice (p - 1) t.depth⟩ :=
  checks_bind t .hop t.depth p _

theorem remove_eq (t : Tuple U) (p : Nat) :
    t.remove p
      = if t.depth = 0 then .error (.unsupportedOnEmpty .remove)
        else if p = 0 ∨ t.depth < p then .error (.invalidPosition p t.depth)
        else .ok ⟨t.elements.without (p - 1)⟩ :=
  checks_bind t .remove t.depth p _

/-- The element at a position is never looked for outside of the store: the position is checked
before, on the empty tuple too. -/
theorem value_eq (t : Tuple U) (p : Nat) :
    t.value p
      = if h : p = 0 ∨ t.depth < p then .error (.invalidPosition p t.depth)
        else .ok (t.elementAt p h) := by
  unfold value checkPosition
  by_cases hp : p = 0 ∨ t.depth < p
  · rw [if_pos hp, dif_pos hp]
    rfl
  · rw [if_neg hp, dif_neg hp]
    exact Store.get_of_lt (by rw [← toList, length_toList]; omega)

theorem transform_eq (t : Tuple U) (p : Nat) (f : Value U → Value U) :
    t.transform p f
      = if t.depth = 0 then .error (.unsupportedOnEmpty .transform)
        else if h : p = 0 ∨ t.depth < p then .error (.invalidPosition p t.depth)
        else .ok ⟨t.elements.replace (p - 1) (f (t.elementAt p h))⟩ := by
  unfold transform checkNonEmpty
  rw [value_eq]
  by_cases h₀ : t.depth = 0
  · rw [if_pos h₀, if_pos (isEmpty_iff.mpr h₀)]
    rfl
  · rw [if_neg h₀, if_neg (fun h => h₀ (isEmpty_iff.mp h))]
    by_cases hp : p = 0 ∨ t.depth < p
    · rw [dif_pos hp, dif_pos hp]
      rfl
    · rw [dif_neg hp, dif_neg hp]
      rfl

/-! ### Results at a position in range -/

section InRange

variable {t : Tuple U} {p : Nat}

theorem truncate_of_le (h₁ : 1 ≤ p) (h₂ : p ≤ t.depth) :
    t.truncate p = .ok ⟨t.elements.slice 0 (p - 1)⟩ :=
  checks_bind_of_le (Nat.le_refl _) h₁ h₂

theorem hop_of_le (h₁ : 1 ≤ p) (h₂ : p ≤ t.depth) :
    t.hop p = .ok ⟨t.elements.slice (p - 1) t.depth⟩ :=
  checks_bind_of_le (Nat.le_refl _) h₁ h₂

theorem remove_of_le (h₁ : 1 ≤ p) (h₂ : p ≤ t.depth) :
    t.remove p = .ok ⟨t.elements.without (p - 1)⟩ :=
  checks_bind_of_le (Nat.le_refl _) h₁ h₂

theorem splice_of_lt (h₁ : 1 ≤ p) (h₂ : p < t.depth) :
    t.splice p = .ok (⟨t.elements.slice 0 (p - 1)⟩, ⟨t.elements.slice (p - 1) t.depth⟩) :=
  checks_bind_of_le (Nat.sub_le _ _) h₁ (by omega)

theorem value_of_le (h₁ : 1 ≤ p) (h₂ : p ≤ t.depth) :
    t.value p = .ok (t.elementAt p (by omega)) := by
  rw [value_eq, dif_neg (by omega)]

/-- The values that are found are the elements, counted from one. -/
theorem value_eq_ok_iff {v : Value U} : t.value p = .ok v ↔ 1 ≤ p ∧ t.toList[p - 1]? = some v := by
  rw [value_eq]
  by_cases hp : p = 0 ∨ t.depth < p
  · rw [dif_pos hp]
    refine ⟨nofun, fun ⟨h₁, hv⟩ => ?_⟩
    obtain ⟨hlt, -⟩ := List.getElem?_eq_some_iff.mp hv
    rw [length_toList] at hlt
    omega
  · have hlt : p - 1 < t.toList.length := by rw [length_toList]; omega
    rw [dif_neg hp, List.getElem?_eq_getElem hlt, Except.ok.injEq, Option.some.injEq]
    exact ⟨fun h => ⟨by omega, h⟩, And.right⟩

theorem transform_of_le {f : Value U → Value U} (h₁ : 1 ≤ p) (h₂ : p ≤ t.depth) :
    t.transform p f = .ok ⟨t.elements.replace (p - 1) (f (t.elementAt p (by omega)))⟩ := by
  rw [transform_eq, if_neg (by omega), dif_neg (by omega)]

theorem join_of_le {u : Tuple U} (h : t.depth + u.depth ≤ maxDepth) :
    t.join u = .ok ⟨t.elements.concat u.elements h⟩ :=
  dif_pos h

/-- A tuple that holds the elements of two others, one after the other, is their join. -/
theorem join_eq_ok {u w : Tuple U} (h : w.toList = t.toList ++ u.toList) : t.join u = .ok w := by
  -- the bound need not be assumed: a tuple with all these elements exists
  have hdepth : t.depth + u.depth ≤ maxDepth := depth_eq_add h ▸ w.depth_le
  rw [join_of_le hdepth]
  exact congrArg Except.ok (Tuple.ext h.symm)

theorem join_of_gt {u : Tuple U} (h : maxDepth < t.depth + u.depth) :
    t.join u = .error (.overflow (t.depth + u.depth)) :=
  dif_neg (by omega)

theorem add_of_lt {v : Value U} (h₁ : 1 ≤ p) (h₂ : p ≤ t.depth) (h : t.depth < maxDepth) :
    t.add p v = .ok ⟨t.elements.insert (p - 1) v h⟩ :=
  (checks_bind_of_le (Nat.le_refl _) h₁ h₂).trans (dif_pos h)

/-- A full tuple takes no further element, wherever it is to be put. -/
theorem add_of_full {v : Value U} (h₁ : 1 ≤ p) (h₂ : p ≤ t.depth) (h : t.depth = maxDepth) :
    t.add p v = .error (.overflow (maxDepth + 1)) :=
  (checks_bind_of_le (Nat.le_refl _) h₁ h₂).trans (dif_neg (by omega))

end InRange

end Tuple

end Polyad
