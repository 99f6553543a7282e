/-
Polyad/Proofs/StandardLaws.lean

The standard universe keeps the laws of equality and order, floating-point numbers included.

Idea.  By recursion on the kind: every kind that is not made of others has its values ordered by
keys, integers by their numbers and floating-point numbers by their ranks behind a guard that
keeps the NaNs out; options, lists and pairs hand the laws on.  Only a NaN keeps a value from
being equal to itself.

Main statements: `Standard.lawful`, `Standard.sameText`, `Standard.Kind.beq_self_eq_false_iff`.
-/
import Polyad.Proofs.Nesting

namespace Polyad.Standard

open Comparison

namespace Kind

/-! ### The order of a kind -/

/-- Both zeros have the rank 0, so the ranks of numbers are a key of what is equal. -/
theorem orderAt_binary {p : Precision} (x : Binary p) : OrderAt Binary.beq Binary.cmp? x := by
  have hrank : OrderAt (fun y z : Binary p => y.rank == z.rank)
      (fun y z => some (compare y.rank z.rank)) x :=
    .key Binary.rank (fun _ _ => beq_iff_eq) x
  exact hrank.guard Binary.isNaN

theorem orderAt : (k : Kind) → (x : k.Carrier) → OrderAt (beq k) (cmp? k) x
  | .unit, x => OrderAt.key (fun _ => (0 : Nat)) (fun _ _ => by simp [beq]) x
  | .bool, x => OrderAt.key id (fun _ _ => beq_iff_eq) x
  | .char, x => OrderAt.key id (fun _ _ => beq_iff_eq) x
  | .ordering, x => OrderAt.key Ordering.ctorIdx (fun x y => by cases x <;> cases y <;> decide) x
  | .integer _, x => OrderAt.key Integer.val (fun _ _ => beq_iff_eq) x
  | .binary _, x => orderAt_binary x
  | .string, x | .literal, x | .boxed, x => OrderAt.key id (fun _ _ => beq_iff_eq) x
  | .option k, x => OrderAt.option fun y _ => orderAt k y
  | .list k, xs => OrderAt.list fun x _ => orderAt k x
  | .pair k j, x => OrderAt.both Prod.fst Prod.snd (orderAt k x.1) (orderAt j x.2)

/-! ### Values that are not equal to themselves -/

/-- Somewhere inside a value there is a NaN. -/
def HasNaN : (k : Kind) → k.Carrier → Prop
  | .binary _, x => x.isNaN = true
  | .option k, x => ∃ y ∈ x, HasNaN k y
  | .list k, xs => ∃ x ∈ xs, HasNaN k x
  | .pair k j, x => HasNaN k x.1 ∨ HasNaN j x.2
  | _, _ => False

theorem beq_self_of_binary {p : Precision} (x : Binary p) : x.beq x = !x.isNaN := by
  unfold Binary.beq
  cases x.isNaN <;> simp

theorem equalItems_self_eq_false_iff {α : Type} {beq : α → α → Bool} {xs : List α} :
    equalItems beq xs xs = false ↔ ∃ x ∈ xs, beq x x = false := by
  induction xs with
  | nil => exact ⟨nofun, fun ⟨_, hx, _⟩ => nomatch hx⟩
  | cons x xs ih =>
    show (beq x x && equalItems beq xs xs) = false ↔ _
    rw [Bool.and_eq_false_iff, ih]
    simp only [List.mem_cons, exists_eq_or_imp]

/-- **Only a NaN keeps a value from being equal to itself.** -/
theorem beq_self_eq_false_iff (k : Kind) (x : k.Carrier) : beq k x x = false ↔ HasNaN k x := by
  induction k with
  | unit => exact ⟨nofun, nofun⟩
  | binary p =>
    show Binary.beq x x = false ↔ _
    rw [beq_self_of_binary, Bool.not_eq_false']
    rfl
  | option k ih =>
    rcases x with - | x
    · exact ⟨nofun, fun ⟨_, hx, _⟩ => nomatch hx⟩
    · show beq k x x = false ↔ ∃ y ∈ some x, HasNaN k y
      rw [ih]
      simp
  | list k ih =>
    show equalItems (beq k) x x = false ↔ ∃ y ∈ x, HasNaN k y
    rw [equalItems_self_eq_false_iff]
    simp only [ih]
  | pair k j ihk ihj =>
    show (beq k x.1 x.1 && beq j x.2 x.2) = false ↔ (HasNaN k x.1 ∨ HasNaN j x.2)
    rw [Bool.and_eq_false_iff, ihk, ihj]
  | bool | char | ordering | integer _ | string | literal | boxed =>
    simp [beq, HasNaN]

end Kind

/-! ### The laws of the universe -/

theorem lawful : Standard.Lawful := Kind.orderAt

/-- A value differs from itself exactly if there is a NaN somewhere inside. -/
theorem beq_self_eq_false_iff {v : Value Standard} :
    v.beq v = false ↔ v.Contains Kind.HasNaN := by
  have hnan : (fun k x => Standard.beq k x x = false) = Kind.HasNaN :=
    funext fun k => funext fun x => propext (Kind.beq_self_eq_false_iff k x)
  exact hnan ▸ Value.beq_self_eq_false_iff

/-- Strings and literals are compared by their texts, and no other kind is textual. -/
theorem sameText : Standard.SameText := by
  intro k x y h
  cases k with
  | string | literal => exact congrArg some (beq_iff_eq.mp h)
  | _ => rfl

end Polyad.Standard
