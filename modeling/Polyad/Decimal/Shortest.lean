/-
Polyad/Decimal/Shortest.lean

The shortest decimal that reads back as a given binary number.

Idea.  The reals that round to a finite number `m · 2 ^ q` form an interval around it, whose ends
belong to it iff `m` is even.  For one digit, two digits, and so on, the two neighbours of the
number on the decimal grid of that many digits are tested against the interval; the first grid
with a hit gives the answer.  If both neighbours hit, the nearer one is taken, and a tie is
settled by `Tie`.  Everything is exact: a number is a fraction of two naturals.
-/
import Polyad.Number.Binary

namespace Polyad

/-- The decimal number `digits · 10 ^ exponent`. -/
structure Decimal where
  digits : Nat
  exponent : Int
deriving DecidableEq, Repr

namespace Decimal

/-- The number of decimal digits; 0 has none. -/
def digitCount (n : Nat) : Nat :=
  if n = 0 then 0 else (Nat.toDigits 10 n).length

/-- Which of two equally near decimals is taken. -/
inductive Tie where
  | up
  | toEven
deriving DecidableEq, Repr

/-- The decimal point of `num / den`: the least `k` with `num / den < 10 ^ k`. -/
def point (num den : Nat) : Int :=
  if den ≤ num then digitCount (num / den)
  else 1 - (digitCount ((den + num - 1) / num - 1) : Nat)

/-- The positive number `num / den` with the interval of reals that stand for it: from
`(num - below) / den` to `(num + above) / den`, the ends included iff `closed`. -/
structure Rounding where
  num : Nat
  den : Nat
  below : Nat
  above : Nat
  closed : Bool

namespace Rounding

/-- The interval around a finite number other than zero.  The gap to the next smaller number is
half as wide where the exponent field changes. -/
def ofBinary {p : Precision} (x : Binary p) : Rounding :=
  let m := x.significand
  let narrow := m = p.unit ∧ p.leastScale < x.scale
  let up := Nat.pow 2 (x.scale - 2).toNat
  { num := 4 * m * up
    den := Nat.pow 2 (2 - x.scale).toNat
    below := if narrow then up else 2 * up
    above := 2 * up
    closed := m % 2 = 0 }

/-- Whether `n · unitNum / unitDen` lies in the interval. -/
def holds (r : Rounding) (unitNum unitDen n : Nat) : Bool :=
  -- all sides are multiplied by `den · unitDen`
  let value := n * unitNum * r.den
  let low := (r.num - r.below) * unitDen
  let high := (r.num + r.above) * unitDen
  if r.closed then low ≤ value && value ≤ high else low < value && value < high

/-- The answer on the grid of `n` digits, if one of the two neighbours hits. -/
def onGrid (r : Rounding) (tie : Tie) (n : Nat) : Option Decimal :=
  let exponent := point r.num r.den - n
  let unitNum := Nat.pow 10 exponent.toNat
  let unitDen := Nat.pow 10 (-exponent).toNat
  let lower := r.num * unitDen / (r.den * unitNum)
  let rest := r.num * unitDen % (r.den * unitNum)
  let upperIsNearer :=
    match compare (2 * rest) (r.den * unitNum) with
    | .lt => false
    | .gt => true
    | .eq => match tie with
      | .up => true
      | .toEven => lower % 2 = 1
  match r.holds unitNum unitDen lower, r.holds unitNum unitDen (lower + 1) with
  | true, true => some ⟨if upperIsNearer then lower + 1 else lower, exponent⟩
  | true, false => some ⟨lower, exponent⟩
  | false, true => some ⟨lower + 1, exponent⟩
  | false, false => none

end Rounding

/-- The same number without trailing zeros in the digits. -/
def trim (d : Decimal) : Decimal :=
  go (digitCount d.digits) d
where
  go : Nat → Decimal → Decimal
    | 0, d => d
    | fuel + 1, d =>
      if d.digits % 10 = 0 then go fuel ⟨d.digits / 10, d.exponent + 1⟩ else d

/-- The shortest decimal that reads back as the absolute value of `x`, a finite number other
than zero.  Seventeen digits always suffice. -/
def shortest {p : Precision} (tie : Tie) (x : Binary p) : Decimal :=
  let r := Rounding.ofBinary x
  trim (((List.range 17).findSome? fun n => r.onGrid tie (n + 1)).getD ⟨0, 0⟩)

/-- The exponent `k` with `0.d₁d₂… · 10 ^ k` for the digits `d₁d₂…`. -/
def pointOf (d : Decimal) : Int :=
  d.exponent + digitCount d.digits

end Decimal

end Polyad
