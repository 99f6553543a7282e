/-
Polyad/Number/Integer.lean

Fixed-width integers as elements.  A width is named by `IntKind`; a value of that width is an
integer together with the proof that it lies in the range, so that no operation can leave it.
The stored form is two's complement, least significant byte first (`Integer.bytes`).
-/

namespace Polyad

/-- The widths and signs of integer elements.  The `word` kinds have 64 bits. -/
inductive IntKind where
  | u8 | u16 | u32 | u64 | u128 | uword
  | i8 | i16 | i32 | i64 | i128 | iword
deriving DecidableEq, Repr

namespace IntKind

/-- The number of bits. -/
def bits : IntKind → Nat
  | u8 | i8 => 8
  | u16 | i16 => 16
  | u32 | i32 => 32
  | u64 | i64 | uword | iword => 64
  | u128 | i128 => 128

/-- Whether negative numbers are in the range. -/
def isSigned : IntKind → Bool
  | u8 | u16 | u32 | u64 | u128 | uword => false
  | i8 | i16 | i32 | i64 | i128 | iword => true

/-- How many numbers the range has. -/
def span (k : IntKind) : Nat := Nat.pow 2 k.bits

/-- The least number of the range. -/
def least (k : IntKind) : Int :=
  if k.isSigned then -(k.span / 2 : Nat) else 0

/-- The greatest number of the range. -/
def greatest (k : IntKind) : Int :=
  k.least + k.span - 1

/-- The name by which messages refer to the kind. -/
def name : IntKind → String
  | u8 => "u8"
  | u16 => "u16"
  | u32 => "u32"
  | u64 => "u64"
  | u128 => "u128"
  | uword => "usize"
  | i8 => "i8"
  | i16 => "i16"
  | i32 => "i32"
  | i64 => "i64"
  | i128 => "i128"
  | iword => "isize"

/-- Every kind, unsigned ones first, each group by width. -/
def all : List IntKind :=
  [u8, u16, u32, u64, u128, uword, i8, i16, i32, i64, i128, iword]

end IntKind

/-- The `width` low bytes of `n`, least significant first. -/
def littleEndian : (width : Nat) → (n : Nat) → List UInt8
  | 0, _ => []
  | width + 1, n => UInt8.ofNat n :: littleEndian width (n / 256)

@[simp]
theorem length_littleEndian (width n : Nat) : (littleEndian width n).length = width := by
  induction width generalizing n with
  | zero => rfl
  | succ width ih => simp [littleEndian, ih]

/-- An integer in the range of `k`. -/
structure Integer (k : IntKind) where
  val : Int
  least_le : k.least ≤ val
  le_greatest : val ≤ k.greatest
deriving DecidableEq

namespace Integer

variable {k : IntKind}

/-- The number `n` as an integer of kind `k`, if it is in the range. -/
def ofInt? (k : IntKind) (n : Int) : Option (Integer k) :=
  if h : k.least ≤ n ∧ n ≤ k.greatest then some ⟨n, h.1, h.2⟩ else none

/-- An integer is read back exactly. -/
theorem ofInt?_val (x : Integer k) : ofInt? k x.val = some x := by
  simp [ofInt?, x.least_le, x.le_greatest]

theorem ofInt?_eq_none_iff {n : Int} : ofInt? k n = none ↔ n < k.least ∨ k.greatest < n := by
  simp only [ofInt?, dite_eq_right_iff, reduceCtorEq, imp_false]
  omega

/-- The decimal text. -/
def text (x : Integer k) : String :=
  toString x.val

/-- Two's complement, least significant byte first, in the width of the kind. -/
def bytes (x : Integer k) : List UInt8 :=
  littleEndian (k.bits / 8) (x.val % k.span).toNat

end Integer

end Polyad
