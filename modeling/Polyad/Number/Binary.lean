/-
Polyad/Number/Binary.lean

Binary floating-point numbers as elements, held as their bits.

Idea.  All that the library decides about such a number (equality, order, text) is a function of
the bits, and is computed from them with exact integers.  Numbers that are not NaN are ordered by
`rank`, the magnitude bits taken as a natural number and given the sign: the two zeros have the
same rank, and a NaN takes no part in the order.  Only arithmetic goes through the machine's own
operations (`toFloat`, `ofFloat`).
-/

namespace Polyad

/-- The two binary formats. -/
inductive Precision where
  | single | double
deriving DecidableEq, Repr

namespace Precision

/-- Bits of the fraction field. -/
def fractionBits : Precision → Nat
  | single => 23
  | double => 52

/-- Bits of the exponent field. -/
def exponentBits : Precision → Nat
  | single => 8
  | double => 11

/-- Bits in all: sign, exponent, fraction. -/
def width : Precision → Nat
  | single => 32
  | double => 64

/-- The magnitude bits that a step of the exponent field is worth. -/
def unit (p : Precision) : Nat := Nat.pow 2 p.fractionBits

/-- The bits of the sign alone. -/
def signBit (p : Precision) : Nat := Nat.pow 2 (p.width - 1)

/-- The magnitude bits of infinity: the exponent field full, the fraction zero. -/
def infinity (p : Precision) : Nat :=
  (Nat.pow 2 p.exponentBits - 1) * p.unit

/-- The power of two that one unit of the smallest numbers stands for. -/
def leastScale (p : Precision) : Int :=
  2 - (Nat.pow 2 (p.exponentBits - 1) + p.fractionBits : Nat)

/-- The name by which messages refer to the format. -/
def name : Precision → String
  | single => "f32"
  | double => "f64"

end Precision

/-- A number of the format `p`, as its bits. -/
structure Binary (p : Precision) where
  bits : BitVec p.width
deriving DecidableEq

namespace Binary

variable {p : Precision}

/-- The sign bit. -/
def isNegative (x : Binary p) : Bool :=
  decide (p.signBit ≤ x.bits.toNat)

/-- The bits other than the sign, as a number. -/
def magnitude (x : Binary p) : Nat :=
  x.bits.toNat % p.signBit

def isNaN (x : Binary p) : Bool :=
  decide (p.infinity < x.magnitude)

def isInfinite (x : Binary p) : Bool :=
  decide (x.magnitude = p.infinity)

def isZero (x : Binary p) : Bool :=
  decide (x.magnitude = 0)

def isFinite (x : Binary p) : Bool :=
  decide (x.magnitude < p.infinity)

/-- The one NaN that is produced here. -/
def nan (p : Precision) : Binary p :=
  ⟨BitVec.ofNat _ (p.infinity + p.unit / 2)⟩

/-- The integer `m` in `m · 2 ^ scale`, the absolute value of a finite number. -/
def significand (x : Binary p) : Nat :=
  let fraction := x.magnitude % p.unit
  if x.magnitude < p.unit then fraction else fraction + p.unit

/-- The exponent `q` in `significand · 2 ^ q`, the absolute value of a finite number. -/
def scale (x : Binary p) : Int :=
  p.leastScale + ((x.magnitude / p.unit - 1 : Nat) : Int)

/-- The place of a number in the order; both zeros have the place 0. -/
def rank (x : Binary p) : Int :=
  if x.isNegative then -(x.magnitude : Int) else x.magnitude

/-- Numeric equality: the two zeros are equal, and a NaN is equal to nothing. -/
def beq (x y : Binary p) : Bool :=
  !x.isNaN && !y.isNaN && x.rank == y.rank

/-- Numeric order; a NaN is not ordered. -/
def cmp? (x y : Binary p) : Option Ordering :=
  if x.isNaN || y.isNaN then none else some (compare x.rank y.rank)

/-- The number as an operand of machine arithmetic. -/
def toFloat : {p : Precision} → Binary p → Float
  | .double, x => Float.ofBits (UInt64.ofBitVec x.bits)
  | .single, x => (Float32.ofBits (UInt32.ofBitVec x.bits)).toFloat

/-- The result of machine arithmetic as an element. -/
def ofFloat : (p : Precision) → Float → Binary p
  | .double, x => ⟨x.toBits.toBitVec⟩
  | .single, x => ⟨x.toFloat32.toBits.toBitVec⟩

/-- The number nearest to an integer. -/
def ofInt : (p : Precision) → Int → Binary p
  | .double, n => ⟨(Float.ofInt n).toBits.toBitVec⟩
  | .single, n => ⟨(Float32.ofInt n).toBits.toBitVec⟩

/-- The same number in another format, or the nearest one. -/
def convert {p : Precision} (x : Binary p) (q : Precision) : Binary q :=
  if h : p = q then h ▸ x else ofFloat q x.toFloat

end Binary

end Polyad
