/-
Polyad/Standard/Kind.lean

The standard universe: truth values, characters, integers, floating-point numbers, texts and
orderings, closed under optional values, lists and pairs.  The values of a kind are computed by
recursion on the kind, and so is every operation.

Of the three kinds of text, strings, literals and boxed texts, the first two are textual; a boxed
text is an ordinary value.
-/
import Polyad.Universe
import Polyad.Number.Integer
import Polyad.Decimal.Layout
import Polyad.Text.Quoted

namespace Polyad.Standard

/-- The kinds of the standard universe. -/
inductive Kind where
  | unit
  | bool
  | char
  | ordering
  | integer (k : IntKind)
  | binary (p : Precision)
  | string
  | literal
  | boxed
  | option (k : Kind)
  | list (k : Kind)
  | pair (k j : Kind)
deriving DecidableEq, Repr

/-- The order by the first pair that is not equal, then the shorter list first. -/
def lexicographic {α : Type} (cmp? : α → α → Option Ordering) :
    List α → List α → Option Ordering
  | [], [] => some .eq
  | [], _ :: _ => some .lt
  | _ :: _, [] => some .gt
  | x :: xs, y :: ys =>
    match cmp? x y with
    | some .eq => lexicographic cmp? xs ys
    | decided => decided

/-- Equality of two lists, item by item. -/
def equalItems {α : Type} (beq : α → α → Bool) : List α → List α → Bool
  | [], [] => true
  | x :: xs, y :: ys => beq x y && equalItems beq xs ys
  | _, _ => false

/-- The order of optional values: nothing first. -/
def optionOrder {α β : Type} (same less greater : β) (cmp : α → α → β) :
    Option α → Option α → β
  | none, none => same
  | none, some _ => less
  | some _, none => greater
  | some x, some y => cmp x y

namespace Kind

/-- The values of a kind. -/
@[reducible]
def Carrier : Kind → Type
  | .unit => Unit
  | .bool => Bool
  | .char => Char
  | .ordering => Ordering
  | .integer k => Integer k
  | .binary p => Binary p
  | .string | .literal | .boxed => String
  | .option k => Option k.Carrier
  | .list k => List k.Carrier
  | .pair k j => k.Carrier × j.Carrier

/-- The name by which messages refer to a kind. -/
def name : Kind → String
  | .unit => "()"
  | .bool => "bool"
  | .char => "char"
  | .ordering => "core::cmp::Ordering"
  | .integer k => k.name
  | .binary p => p.name
  | .string => "alloc::string::String"
  | .literal => "&str"
  | .boxed => "alloc::boxed::Box<str>"
  | .option k => "core::option::Option<" ++ k.name ++ ">"
  | .list k => "alloc::vec::Vec<" ++ k.name ++ ">"
  | .pair k j => "(" ++ k.name ++ ", " ++ j.name ++ ")"

/-- Equality, which only a NaN keeps from being reflexive. -/
def beq : (k : Kind) → k.Carrier → k.Carrier → Bool
  | .unit, _, _ => true
  | .bool, x, y => x == y
  | .char, x, y => x == y
  | .ordering, x, y => x == y
  | .integer _, x, y => x.val == y.val
  | .binary _, x, y => x.beq y
  | .string, x, y | .literal, x, y | .boxed, x, y => x == y
  | .option k, x, y => optionOrder true false false (beq k) x y
  | .list k, xs, ys => equalItems (beq k) xs ys
  | .pair k j, x, y => beq k x.1 y.1 && beq j x.2 y.2

/-- The order, which only a NaN keeps from being total. -/
def cmp? : (k : Kind) → k.Carrier → k.Carrier → Option Ordering
  | .unit, _, _ => some .eq
  | .bool, x, y => some (compare x y)
  | .char, x, y => some (compare x y)
  | .ordering, x, y => some (compare x.ctorIdx y.ctorIdx)
  | .integer _, x, y => some (compare x.val y.val)
  | .binary _, x, y => x.cmp? y
  | .string, x, y | .literal, x, y | .boxed, x, y => some (compare x y)
  | .option k, x, y => optionOrder (some .eq) (some .lt) (some .gt) (cmp? k) x y
  | .list k, xs, ys => lexicographic (cmp? k) xs ys
  | .pair k j, x, y =>
    match cmp? k x.1 y.1 with
    | some .eq => cmp? j x.2 y.2
    | decided => decided

/-- The text of a textual value. -/
def text? : (k : Kind) → k.Carrier → Option String
  | .string, x | .literal, x => some x
  | _, _ => none

/-- How a value is shown. -/
def outline : (k : Kind) → k.Carrier → Outline
  | .unit, _ => .atom "()"
  | .bool, x => .atom (if x then "true" else "false")
  | .char, x => .atom (Quoted.char x)
  | .ordering, x => .atom (match x with | .lt => "Less" | .eq => "Equal" | .gt => "Greater")
  | .integer _, x => .atom x.text
  | .binary _, x => .atom (Decimal.Layout.outline.write x)
  | .string, x | .literal, x | .boxed, x => .atom (Quoted.text x)
  | .option _, none => .atom "None"
  | .option k, some x => .tuple "Some" [outline k x]
  | .list k, xs => .list (xs.map (outline k))
  | .pair k j, x => .tuple "" [outline k x.1, outline j x.2]

end Kind

end Polyad.Standard

namespace Polyad

/-- The standard universe. -/
@[reducible]
def Standard : Universe where
  Kind := Standard.Kind
  kindEq := inferInstance
  Carrier := Standard.Kind.Carrier
  name := Standard.Kind.name
  beq := Standard.Kind.beq
  cmp? := Standard.Kind.cmp?
  text? := Standard.Kind.text?
  outline := Standard.Kind.outline

end Polyad
