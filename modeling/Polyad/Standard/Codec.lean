/-
Polyad/Standard/Codec.lean

How the values of the standard universe are written as documents and read back.

A missing optional value is `null`, a unit is `null`, a character is a string of one character, a
pair is an array of two.  An integer must be written as one and lie in the range; a number may be
written as an integer.
-/
import Polyad.Standard.Kind
import Polyad.Codec
import Polyad.Document

namespace Polyad.Standard

/-- What a document is asked to be. -/
inductive Expected where
  | unit
  | bool
  | char
  | integer (k : IntKind)
  | binary (p : Precision)
  | string
  | list
  | pair
  | tuple (depth : Nat)
  /-- A sequence without the items that are left over. -/
  | fewerItems
  /-- Something that no document stands for. -/
  | nothing
deriving DecidableEq, Repr

/-- The words for what is asked for. -/
def Expected.text : Expected → String
  | unit => "unit"
  | bool => "a boolean"
  | char => "a character"
  | integer k => k.name
  | binary p => p.name
  | string => "a string"
  | list => "a sequence"
  | pair => "a tuple of size 2"
  | tuple depth => "a tuple of depth " ++ toString depth
  | fewerItems => "fewer elements in array"
  | nothing => "nothing"

/-- Why a document cannot be read. -/
inductive ReadError where
  | wrongType (found : Document) (expected : Expected)
  | wrongValue (found : Document) (expected : Expected)
  | wrongLength (length : Nat) (expected : Expected)

/-- The message for a cause. -/
def ReadError.message : ReadError → String
  | wrongType found expected => "invalid type: " ++ found.found ++ ", expected " ++ expected.text
  | wrongValue found expected => "invalid value: " ++ found.found ++ ", expected " ++ expected.text
  | wrongLength length expected =>
    "invalid length " ++ toString length ++ ", expected " ++ expected.text

namespace Kind

/-- The document that stands for a value. -/
def write : (k : Kind) → k.Carrier → Document
  | .unit, _ => .null
  | .bool, x => .bool x
  | .char, x => .string x.toString
  | .ordering, x => .string (match x with | .lt => "Less" | .eq => "Equal" | .gt => "Greater")
  | .integer _, x => .integer x.val
  | .binary _, x => .number x
  | .string, x | .literal, x | .boxed, x => .string x
  | .option _, none => .null
  | .option k, some x => write k x
  | .list k, xs => .array (xs.map (write k))
  | .pair k j, x => .array [write k x.1, write j x.2]

/-- The value for which a document stands. -/
def read : (k : Kind) → Document → Except ReadError k.Carrier
  | .unit, .null => .ok ()
  | .unit, d => .error (.wrongType d .unit)
  | .bool, .bool b => .ok b
  | .bool, d => .error (.wrongType d .bool)
  | .char, .string s =>
    match s.toList with
    | [c] => .ok c
    | _ => .error (.wrongValue (.string s) .char)
  | .char, d => .error (.wrongType d .char)
  | .ordering, .string "Less" => .ok .lt
  | .ordering, .string "Equal" => .ok .eq
  | .ordering, .string "Greater" => .ok .gt
  | .ordering, d => .error (.wrongType d .nothing)
  | .integer k, .integer n =>
    match Integer.ofInt? k n with
    | some x => .ok x
    | none => .error (.wrongValue (.integer n) (.integer k))
  | .integer k, d => .error (.wrongType d (.integer k))
  | .binary p, .integer n => .ok (Binary.ofInt p n)
  | .binary p, .number x => .ok (x.convert p)
  | .binary p, d => .error (.wrongType d (.binary p))
  | .string, .string s | .literal, .string s | .boxed, .string s => .ok s
  | .string, d | .literal, d | .boxed, d => .error (.wrongType d .string)
  | .option _, .null => .ok none
  | .option k, d => (read k d).map some
  | .list k, .array items => items.mapM (read k)
  | .list _, d => .error (.wrongType d .list)
  | .pair _ _, .array [] => .error (.wrongLength 0 .pair)
  | .pair k _, .array [d] => do
    let _ ← read k d
    .error (.wrongLength 1 .pair)
  | .pair k j, .array (d :: e :: items) => do
    let x ← read k d
    let y ← read j e
    if items.isEmpty then .ok (x, y) else .error (.wrongLength (items.length + 2) .fewerItems)
  | .pair _ _, d => .error (.wrongType d .pair)

end Kind

/-- The documents of the standard universe. -/
def codec : Codec Standard Document ReadError where
  write := Kind.write
  read := Kind.read
  sequence := .array
  items
    | _, .array items => .ok items
    | depth, d => .error (.wrongType d (.tuple depth))
  tooShort count depth := .wrongLength count (.tuple depth)
  tooLong length := .wrongLength length .fewerItems
  untyped := .wrongType .null .nothing

end Polyad.Standard
