/-
Polyad/Proofs/Drawing.lean

The tuple that is assembled from a finite source.

A source gives its items one at a time, and drawing takes its front off.  As long as it is a list, the
tuple of `depth` items after the first `offset` is a part of the list, if the list reaches that far.
A tuple without elements needs no item at all, whatever is to be skipped before.

Idea.  The outcome on bare tuples is a list, with no bound to carry; two outcomes with the same list
are the same (`assemble_congr`, `assemble_eq_ok_iff`).
-/
import Polyad.Proofs.Refusal

namespace Polyad

variable {U : Universe} {source source' : Source (Value U)} {offset offset' depth : Nat}

theorem Bare.assemble_of_le (source : Source (Value U)) (offset : Nat) (h : depth ≤ maxDepth) :
    Bare.assemble source offset depth
      = .ok (if ((source.after offset).front depth).length < depth then none
          else some ((source.after offset).front depth)) := by
  unfold Bare.assemble
  rw [if_neg (Nat.not_lt_of_le h), Source.skip_eq, Source.draw_eq]

theorem Bare.assemble_finite (items : List (Value U)) (h : depth ≤ maxDepth) :
    Bare.assemble (.finite items) offset depth
      = .ok (if ((items.drop offset).take depth).length < depth then none
          else some ((items.drop offset).take depth)) :=
  Bare.assemble_of_le (.finite items) offset h

namespace Tuple

theorem toList_injective : Function.Injective (toList (U := U)) := fun _ _ => Tuple.ext

/-- The outcomes of two assemblies are the same if they are on bare tuples. -/
theorem map_toList_injective : Function.Injective
    (Except.map (Option.map toList) : Except (Error U) (Option (Tuple U)) → _) :=
  map_injective (Option.map_injective toList_injective)

/-- A tuple is assembled from the same items in the same way, wherever they come from. -/
theorem assemble_congr
    (h : Bare.assemble source offset depth = Bare.assemble source' offset' depth) :
    (assemble source offset depth).1 = (assemble source' offset' depth).1 := by
  apply map_toList_injective
  rw [← Bare.assemble_eq, ← Bare.assemble_eq, h]

/-- What is kept is the front of what is after the skipped items, if it is long enough. -/
theorem assemble_eq_ok_iff (h : depth ≤ maxDepth) {r : Option (Tuple U)} :
    (assemble source offset depth).1 = .ok r
      ↔ (if ((source.after offset).front depth).length < depth then none
          else some ((source.after offset).front depth)) = r.map toList := by
  rw [← map_toList_injective.eq_iff, ← Bare.assemble_eq, Bare.assemble_of_le source offset h]
  show Except.ok _ = Except.ok (r.map toList) ↔ _
  rw [Except.ok.injEq]

/-- Only a tuple that would be too deep is refused, and from every source. -/
theorem assemble_eq_error_iff {e : Error U} :
    (assemble source offset depth).1 = .error e ↔ maxDepth < depth ∧ e = .overflow depth := by
  rw [eq_error_iff, failure_assemble]
  by_cases h : depth ≤ maxDepth
  · rw [if_pos h]
    simp [Nat.not_lt_of_le h]
  · rw [if_neg h]
    simp [Nat.lt_of_not_le h, eq_comm]

/-- A tuple without elements is assembled before any item is looked at. -/
theorem assemble_zero : (assemble source offset 0).1 = .ok (some .empty) := rfl

/-- A list that reaches far enough gives the part of it. -/
theorem assemble_of_enough {items : List (Value U)} (hdepth : depth ≤ maxDepth)
    (h : offset + depth ≤ items.length) :
    ∃ t, (assemble (.finite items) offset depth).1 = .ok (some t) ∧
      t.toList = (items.drop offset).take depth := by
  have hlength : ((items.drop offset).take depth).length = depth := by
    rw [List.length_take, List.length_drop]
    omega
  refine ⟨⟨⟨_, Nat.le_trans (Nat.le_of_eq hlength) hdepth⟩⟩, ?_, rfl⟩
  exact (assemble_eq_ok_iff hdepth).mpr (if_neg (Nat.not_lt_of_le (Nat.le_of_eq hlength.symm)))

/-- A list that ends too early gives nothing, whatever its items. -/
theorem assemble_of_short {items : List (Value U)} (hdepth : depth ≤ maxDepth)
    (hpos : 0 < depth) (h : items.length < offset + depth) :
    (assemble (.finite items) offset depth).1 = .ok none := by
  have hlength : ((items.drop offset).take depth).length < depth := by
    rw [List.length_take, List.length_drop]
    omega
  exact (assemble_eq_ok_iff hdepth).mpr (if_pos hlength)

end Tuple

end Polyad
