/-
Polyad/Standard/Capability.lean

What the values of the standard universe give to a hash, how they are ordered in full, how they
stand in running text, and which of them are numbers.
-/
import Polyad.Standard.Kind
import Polyad.Feed
import Polyad.Collation

namespace Polyad.Standard

namespace Kind

/-- The bytes that a value gives to a hash.  Floating-point numbers have no hash, and neither has
anything made of them; that they give nothing here only makes the function total. -/
def feed : (k : Kind) → k.Carrier → List UInt8
  | .unit, _ | .binary _, _ => []
  | .bool, x => [if x then 1 else 0]
  | .char, x => littleEndian 4 x.toNat
  | .ordering, x => [match x with | .lt => 255 | .eq => 0 | .gt => 1]
  | .integer _, x => x.bytes
  | .string, x | .literal, x | .boxed, x => Feed.textBytes x
  | .option _, none => littleEndian 8 0
  | .option k, some x => littleEndian 8 1 ++ feed k x
  | .list k, xs => littleEndian 8 xs.length ++ xs.flatMap (feed k)
  | .pair k j, x => feed k x.1 ++ feed j x.2

/-- The total order of the values of a kind; among floating-point numbers, that of the ranks. -/
def collate : (k : Kind) → k.Carrier → k.Carrier → Ordering
  | .unit, _, _ => .eq
  | .bool, x, y => compare x y
  | .char, x, y => compare x y
  | .ordering, x, y => compare x.ctorIdx y.ctorIdx
  | .integer _, x, y => compare x.val y.val
  | .binary _, x, y => compare x.rank y.rank
  | .string, x, y | .literal, x, y | .boxed, x, y => compare x y
  | .option k, x, y => optionOrder .eq .lt .gt (collate k) x y
  | .list k, xs, ys => List.compareLex (collate k) xs ys
  | .pair k j, x, y => (collate k x.1 y.1).then (collate j x.2 y.2)

/-- A value in running text: texts and characters as they are, numbers without an exponent. -/
def plain? : (k : Kind) → k.Carrier → Option String
  | .bool, x => some (if x then "true" else "false")
  | .char, x => some x.toString
  | .integer _, x => some x.text
  | .binary _, x => some (Decimal.Layout.plain.write x)
  | .string, x | .literal, x | .boxed, x => some x
  | _, _ => none

/-- A value as an operand of machine arithmetic, for the kinds whose values all are such operands
exactly. -/
def number? : (k : Kind) → k.Carrier → Option Float
  | .bool, x => some (if x then 1 else 0)
  | .binary _, x => some x.toFloat
  | .integer k, x => if k.bits ≤ 32 then some (Float.ofInt x.val) else none
  | _, _ => none

end Kind

/-- What the values of the standard universe give to a hash. -/
def hashing : Hashing Standard := ⟨Kind.feed⟩

/-- The total order of the standard universe. -/
def collation : Collation Standard := ⟨Kind.collate⟩

/-- The running text of an element. -/
def plain? : Value Standard → Option String
  | .leaf k x => Kind.plain? k x
  | _ => none

/-- An element as an operand of machine arithmetic. -/
def number? : Value Standard → Option Float
  | .leaf k x => Kind.number? k x
  | _ => none

end Polyad.Standard
