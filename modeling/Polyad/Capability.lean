/-
Polyad/Capability.lean

What can be done with values once their types are known: each operation goes down a list of types
and takes the values one by one from an offset on.  The values need not fit the types; every
operation says what it does with a value that is missing or of another type.

An offset is a machine word, and the step from one value to the next is a step of machine words.
-/
import Polyad.Feed
import Polyad.Collation
import Polyad.Codec

namespace Polyad.Capability

variable {U : Universe}

/-- The value at an offset, if there is one and it is of type `t`. -/
def typedAt (t : Ty U) (values : List (Value U)) (offset : UInt64) : Option (Value U) :=
  match values[offset.toNat]? with
  | some v => v.as? t
  | none => none

/-- Checks the types of the values from the offset on. -/
def typeCheck :
    List (Ty U) → (values : List (Value U)) → (offset : UInt64) → Except (Error U) Unit
  | [], _, _ => .ok ()
  | t :: ts, values, offset =>
    match values[offset.toNat]? with
    | some v =>
      if v.ty = t then typeCheck ts values (offset + 1)
      else .error (.typeMismatch (offset + 1).toNat t (some v.ty))
    | none => .error (.typeMismatch (offset + 1).toNat t none)

/-- What the values give to a hash; one that does not fit gives nothing. -/
def feedEach (h : Hashing U) :
    List (Ty U) → (values : List (Value U)) → (offset : UInt64) → List (Write U)
  | [], _, _ => []
  | t :: ts, values, offset =>
    (match typedAt t values offset with
      | some v => v.feedTyped h
      | none => []) ++ feedEach h ts values (offset + 1)

/-- The order of two lists of values by the first pair that is not equal; a value that does not fit
comes before all that do. -/
def collateEach (c : Collation U) :
    List (Ty U) → (left right : List (Value U)) → (offset : UInt64) → Ordering
  | [], _, _, _ => .eq
  | t :: ts, left, right, offset =>
    (Value.collateOption c (typedAt t left offset) (typedAt t right offset)).then
      (collateEach c ts left right (offset + 1))

/-- The values as items of a format; the first one that does not fit is an error. -/
def encodeEach {δ ε : Type} (c : Codec U δ ε) :
    List (Ty U) → (values : List (Value U)) → (offset : UInt64) → Except (Error U) (List δ)
  | [], _, _ => .ok []
  | t :: ts, values, offset =>
    match typedAt t values offset with
    | some v => do
      let items ← encodeEach c ts values (offset + 1)
      .ok (c.encode v :: items)
    | none => .error (.missingElement (offset + 1).toNat t)

/-! ### Offsets and the values at them -/

/-- The next offset is one more, unless this one is the last. -/
theorem toNat_succ {offset : UInt64} (h : offset.toNat + 1 < UInt64.size) :
    (offset + 1).toNat = offset.toNat + 1 := by
  rw [UInt64.toNat_add]
  exact Nat.mod_eq_of_lt h

/-- Offsets that start at the first value do not run over within a tuple. -/
theorem toNat_zero_add_lt {n : Nat} (h : n ≤ maxDepth) : (0 : UInt64).toNat + n < UInt64.size := by
  have hsize : maxDepth < UInt64.size := by decide
  rw [UInt64.toNat_zero, Nat.zero_add]
  exact Nat.lt_of_le_of_lt h hsize

/-- Where the values from an offset on are of the stated types, the first of them is found. -/
theorem exists_typedAt_of_types_drop {t : Ty U} {ts : List (Ty U)} {values : List (Value U)}
    {offset : UInt64} (h : Value.types (values.drop offset.toNat) = t :: ts) :
    ∃ v, typedAt t values offset = some v ∧ v.ty = t ∧
      values.drop offset.toNat = v :: values.drop (offset.toNat + 1) ∧
      Value.types (values.drop (offset.toNat + 1)) = ts := by
  obtain ⟨v, hv, ht, hdrop, hrest⟩ := Value.exists_of_types_drop h
  refine ⟨v, ?_, ht, hdrop, hrest⟩
  unfold typedAt
  rw [hv]
  exact if_pos ht

/-! ### Checked values have the types -/

theorem types_drop_of_typeCheck {ts : List (Ty U)} {values : List (Value U)} {offset : UInt64}
    (hword : offset.toNat + ts.length < UInt64.size) (h : typeCheck ts values offset = .ok ()) :
    (Value.types (values.drop offset.toNat)).take ts.length = ts := by
  induction ts generalizing offset with
  | nil => simp
  | cons t ts ih =>
    rw [List.length_cons] at hword
    have hstep : (offset + 1).toNat = offset.toNat + 1 := toNat_succ (by omega)
    simp only [typeCheck] at h
    split at h
    · rename_i v hv
      split at h
      · rename_i ht
        obtain ⟨hlt, hget⟩ := List.getElem?_eq_some_iff.1 hv
        have := ih (by omega) h
        rw [hstep] at this
        rw [List.drop_eq_getElem_cons hlt, hget]
        simp [ht, this]
      · simp at h
    · simp at h

theorem types_eq_of_typeCheck {ts : List (Ty U)} {values : List (Value U)}
    (hlen : values.length = ts.length) (hword : ts.length < UInt64.size)
    (h : typeCheck ts values 0 = .ok ()) : Value.types values = ts := by
  have := types_drop_of_typeCheck (by simpa using hword) h
  simp only [UInt64.reduceToNat, List.drop_zero] at this
  rwa [List.take_of_length_le (by simp [hlen])] at this

end Polyad.Capability
