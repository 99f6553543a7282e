/-
Polyad/Codec.lean

Writing and reading elements whose types are known.

A `Codec` says how the values of each kind are written as items of a format, and how the format
holds a sequence of items.  A tuple of known types is written as the sequence of its elements; it
is read from a sequence element by element, and the first element that cannot be read, or the end
of the sequence, decides the error.
-/
import Polyad.Value

namespace Polyad

/-- How values are written as items `δ` of a format and read back, or not, for the reason `ε`. -/
structure Codec (U : Universe) (δ ε : Type) where
  write : (k : U.Kind) → U.Carrier k → δ
  read : (k : U.Kind) → δ → Except ε (U.Carrier k)
  /-- The item that holds a sequence. -/
  sequence : List δ → δ
  /-- The sequence that an item holds; a tuple of this depth is asked for. -/
  items : (depth : Nat) → δ → Except ε (List δ)
  /-- The sequence ended after so many elements of a tuple of this depth. -/
  tooShort : (count depth : Nat) → ε
  /-- The sequence has this length, which is more than the tuple's depth. -/
  tooLong : (length : Nat) → ε
  /-- A tuple of unknown types cannot be read. -/
  untyped : ε

namespace Codec

variable {U : Universe} {δ ε : Type}

mutual

/-- The item that stands for a value. -/
def encode (c : Codec U δ ε) : Value U → δ
  | .leaf k x => c.write k x
  | .dyn elements | .tuple elements => c.sequence (encodeAll c elements)

def encodeAll (c : Codec U δ ε) : List (Value U) → List δ
  | [] => []
  | v :: vs => encode c v :: encodeAll c vs

end

mutual

/-- The value of type `t` for which an item stands. -/
def decode (c : Codec U δ ε) : (t : Ty U) → δ → Except ε (Value U)
  | .leaf k, item => (c.read k item).map (.leaf k)
  | .dyn, _ => .error c.untyped
  | .tuple ts, item => do
    let items ← c.items ts.length item
    let (values, rest) ← decodeEach c ts items []
    if rest.isEmpty then .ok (.tuple values) else .error (c.tooLong items.length)

/-- One value of each type, read from the front of `items` and put behind `values`, with the items
that are left. -/
def decodeEach (c : Codec U δ ε) :
    (ts : List (Ty U)) → (items : List δ) → (values : List (Value U)) →
      Except ε (List (Value U) × List δ)
  | [], items, values => .ok (values, items)
  | _ :: ts, [], values => .error (c.tooShort values.length (values.length + 1 + ts.length))
  | t :: ts, item :: items, values => do
    let v ← decode c t item
    decodeEach c ts items (values ++ [v])

end

/-! ### What is read has the types asked for -/

mutual

theorem ty_of_decode (c : Codec U δ ε) :
    (t : Ty U) → (item : δ) → {v : Value U} → decode c t item = .ok v → v.ty = t
  | .leaf k, item, v, h => by
    simp only [decode] at h
    cases hr : c.read k item with
    | error e => simp [hr, Except.map] at h
    | ok x =>
      simp only [hr, Except.map, Except.ok.injEq] at h
      subst h
      rfl
  | .dyn, item, v, h => by simp [decode] at h
  | .tuple ts, item, v, h => by
    simp only [decode, bind, Except.bind] at h
    split at h
    · simp at h
    · rename_i items _
      split at h
      · simp at h
      · rename_i p hp
        obtain ⟨values, rest⟩ := p
        have := types_of_decodeEach c ts items [] hp
        split at h
        · simp only [Except.ok.injEq] at h
          subst h
          simpa [Value.ty] using this
        · simp at h

theorem types_of_decodeEach (c : Codec U δ ε) :
    (ts : List (Ty U)) → (items : List δ) → (values : List (Value U)) →
      {results : List (Value U)} → {rest : List δ} →
      decodeEach c ts items values = .ok (results, rest) →
        Value.types results = Value.types values ++ ts
  | [], items, values, results, rest, h => by
    simp only [decodeEach, Except.ok.injEq, Prod.mk.injEq] at h
    simp [h.1]
  | t :: ts, [], values, results, rest, h => by simp [decodeEach] at h
  | t :: ts, item :: items, values, results, rest, h => by
    simp only [decodeEach, bind, Except.bind] at h
    split at h
    · simp at h
    · rename_i v hv
      have h₁ := ty_of_decode c t item hv
      have h₂ := types_of_decodeEach c ts items (values ++ [v]) h
      simp [h₂, Value.types_eq_map, h₁]

end

end Codec

end Polyad
