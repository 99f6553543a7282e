/-
Polyad/Decimal/Layout.lean

How a binary number is written.  The digits are always the shortest ones that read back; a
`Layout` holds the remaining decisions, and the three layouts in use stand at the end.
-/
import Polyad.Decimal.Shortest

namespace Polyad.Decimal

/-- The decisions of a way of writing numbers.  A number `0.d₁d₂… · 10 ^ k` is written with its
point in place if `k` lies between the bounds, where they are given, and else as
`d₁.d₂… · 10 ^ (k - 1)` with an exponent. -/
structure Layout where
  tie : Tie
  leastPoint : Option Int
  greatestPoint : Option Int
  /-- What ends a number that has no fraction. -/
  whole : String
  /-- What stands before an exponent that is not negative. -/
  plus : String

namespace Layout

/-- The digit `0` repeated. -/
def zeros (n : Nat) : String :=
  String.ofList (List.replicate n '0')

/-- The number with its point in place. -/
def positional (l : Layout) (d : Decimal) : String :=
  let digits := Nat.toDigits 10 d.digits
  let point := d.pointOf
  if point ≤ 0 then
    "0." ++ zeros (-point).toNat ++ String.ofList digits
  else if digits.length ≤ point.toNat then
    String.ofList digits ++ zeros (point.toNat - digits.length) ++ l.whole
  else
    String.ofList (digits.take point.toNat) ++ "." ++ String.ofList (digits.drop point.toNat)

/-- The number with one digit before the point, and an exponent. -/
def scientific (l : Layout) (d : Decimal) : String :=
  let digits := Nat.toDigits 10 d.digits
  let fraction :=
    if digits.length ≤ 1 then "" else "." ++ String.ofList (digits.drop 1)
  let exponent := d.pointOf - 1
  String.ofList (digits.take 1) ++ fraction ++ "e" ++
    (if exponent < 0 then "-" else l.plus) ++ toString exponent.natAbs

def isPositional (l : Layout) (d : Decimal) : Bool :=
  l.leastPoint.all (· ≤ d.pointOf) && l.greatestPoint.all (d.pointOf ≤ ·)

/-- The text of a number. -/
def write (l : Layout) {p : Precision} (x : Binary p) : String :=
  if x.isNaN then "NaN"
  else
    let sign := if x.isNegative then "-" else ""
    if x.isInfinite then sign ++ "inf"
    else if x.isZero then sign ++ "0" ++ l.whole
    else
      let d := shortest l.tie x
      sign ++ if l.isPositional d then l.positional d else l.scientific d

/-- For outlines: a fraction always, and an exponent from 10¹⁶ up and below 10⁻⁴. -/
def outline : Layout :=
  { tie := .up, leastPoint := some (-3), greatestPoint := some 16, whole := ".0", plus := "" }

/-- For running text: never an exponent, and no fraction where there is none. -/
def plain : Layout :=
  { tie := .up, leastPoint := none, greatestPoint := none, whole := "", plus := "" }

/-- For documents: an exponent from 10¹⁶ up and below 10⁻⁵, with its sign. -/
def document : Layout :=
  { tie := .toEven, leastPoint := some (-4), greatestPoint := some 16, whole := ".0", plus := "+" }

end Layout

end Polyad.Decimal
