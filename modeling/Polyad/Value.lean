/-
Polyad/Value.lean

Elements.  A value of a universe is a value of one of its kinds, or a tuple of values; its type is
read off it, so a value carries its type wherever it goes.  Equality and order ask for the same
type first: values of different types are never equal and never ordered.

Main definitions.  `Value.ty`, `Value.beq`, `Value.cmp?`, `Value.text?`, `Value.outline`.
-/
import Polyad.Universe

namespace Polyad

/-- An element. -/
inductive Value (U : Universe) where
  | leaf (k : U.Kind) (x : U.Carrier k)
  /-- A tuple whose element types are not recorded. -/
  | dyn (elements : List (Value U))
  /-- A tuple whose element types are those of its elements. -/
  | tuple (elements : List (Value U))

namespace Value

variable {U : Universe}

/-! ### Types -/

mutual

/-- The type of a value. -/
def ty : Value U → Ty U
  | leaf k _ => .leaf k
  | dyn _ => .dyn
  | tuple elements => .tuple (types elements)

/-- The types of values, in order. -/
def types : List (Value U) → List (Ty U)
  | [] => []
  | v :: vs => ty v :: types vs

end

@[simp]
theorem types_nil : types ([] : List (Value U)) = [] := rfl

@[simp]
theorem types_cons (v : Value U) (vs : List (Value U)) : types (v :: vs) = v.ty :: types vs := rfl

theorem types_eq_map (vs : List (Value U)) : types vs = vs.map ty := by
  induction vs with
  | nil => rfl
  | cons v vs ih => simp [ih]

@[simp]
theorem length_types (vs : List (Value U)) : (types vs).length = vs.length := by
  simp [types_eq_map]

theorem eq_nil_of_types_eq_nil {vs : List (Value U)} (h : types vs = []) : vs = [] := by
  rw [← List.length_eq_zero_iff, ← length_types, h, List.length_nil]

theorem eq_leaf_of_ty {v : Value U} {k : U.Kind} (h : v.ty = .leaf k) : ∃ x, v = leaf k x := by
  cases v with
  | leaf j x =>
    obtain rfl := Ty.leaf.inj h
    exact ⟨x, rfl⟩
  | dyn _ | tuple _ => exact absurd h (by simp [ty])

theorem eq_dyn_of_ty {v : Value U} (h : v.ty = .dyn) : ∃ vs, v = dyn vs := by
  cases v with
  | dyn vs => exact ⟨vs, rfl⟩
  | leaf _ _ | tuple _ => exact absurd h (by simp [ty])

theorem eq_tuple_of_ty {v : Value U} {ts : List (Ty U)} (h : v.ty = .tuple ts) :
    ∃ vs, v = tuple vs ∧ types vs = ts := by
  cases v with
  | tuple vs => exact ⟨vs, rfl, Ty.tuple.inj h⟩
  | leaf _ _ | dyn _ => exact absurd h (by simp [ty])

/-- Where the values from an index on are of some types, the first one of them is at the index and
of the first type, and the others are of the other types. -/
theorem exists_of_types_drop {t : Ty U} {ts : List (Ty U)} {vs : List (Value U)} {index : Nat}
    (h : types (vs.drop index) = t :: ts) :
    ∃ v, vs[index]? = some v ∧ v.ty = t ∧ vs.drop index = v :: vs.drop (index + 1) ∧
      types (vs.drop (index + 1)) = ts := by
  rcases hdrop : vs.drop index with - | ⟨v, rest⟩
  · rw [hdrop] at h
    exact absurd h (by simp)
  have hrest : vs.drop (index + 1) = rest := by
    rw [← List.drop_drop, hdrop, List.drop_one, List.tail_cons]
  have hv : vs[index]? = some v := by
    rw [← List.head?_drop, hdrop, List.head?_cons]
  rw [hdrop, types_cons] at h
  obtain ⟨ht, hts⟩ := List.cons.inj h
  exact ⟨v, hv, ht, by rw [hrest], hrest.symm ▸ hts⟩

/-- The value itself, if it is of type `t`. -/
def as? (t : Ty U) (v : Value U) : Option (Value U) :=
  if v.ty = t then some v else none

theorem as?_eq_some_iff {t : Ty U} {v w : Value U} : v.as? t = some w ↔ v.ty = t ∧ v = w := by
  simp [as?]

/-- The text of a textual value. -/
def text? : Value U → Option String
  | leaf k x => U.text? k x
  | dyn _ | tuple _ => none

/-! ### Equality -/

mutual

/-- Equality: of one kind and equal there, or tuples of one sort that are equal element by
element. -/
def beq : Value U → Value U → Bool
  | leaf k x, leaf j y => if h : k = j then U.beq j (h ▸ x) y else false
  | dyn xs, dyn ys => beqAll xs ys
  | tuple xs, tuple ys => beqAll xs ys
  | _, _ => false

/-- Equality of as many values, one by one. -/
def beqAll : List (Value U) → List (Value U) → Bool
  | [], [] => true
  | x :: xs, y :: ys => beq x y && beqAll xs ys
  | _, _ => false

end

instance : BEq (Value U) := ⟨beq⟩

/-! ### Order -/

mutual

/-- The order of two values: of one kind and as ordered there, or tuples of one type, the
shallower one first and then by the first elements that are not equal. -/
def cmp? : Value U → Value U → Option Ordering
  | leaf k x, leaf j y => if h : k = j then U.cmp? j (h ▸ x) y else none
  | dyn xs, dyn ys =>
    if xs.length = ys.length then cmpAll? xs ys else some (compare xs.length ys.length)
  | tuple xs, tuple ys => if types xs = types ys then cmpAll? xs ys else none
  | _, _ => none

/-- The order of as many values by the first pair that is not equal. -/
def cmpAll? : List (Value U) → List (Value U) → Option Ordering
  | x :: xs, y :: ys =>
    match cmp? x y with
    | some .eq => cmpAll? xs ys
    | decided => decided
  | _, _ => some .eq

end

/-! ### How values are shown -/

mutual

/-- The outline of a value. -/
def outline : Value U → Outline
  | leaf k x => U.outline k x
  | dyn elements => .record "DynTuple" [("elements", .list (outlines elements))]
  | tuple elements => .tuple "Tuple" (outlines elements)

def outlines : List (Value U) → List Outline
  | [] => []
  | v :: vs => outline v :: outlines vs

end

end Value

end Polyad
