/-
Polyad/Feed.lean

What an element gives to a hash, as the stream of writes made.

A value of unknown type gives the identity of its type and, only if it is textual, its text; so
values that are equal give the same stream without any hash of the kinds themselves.  Where the
types are known, a `Hashing` of the universe says what a value of each kind gives, and the values
give their contents.
-/
import Polyad.Store
import Polyad.Number.Integer

namespace Polyad

/-- One write to a hash: a byte, or the identity of a type. -/
inductive Write (U : Universe) where
  | byte (b : UInt8)
  | typeId (t : Ty U)

instance {U : Universe} : DecidableEq (Write U)
  | .byte b, .byte c => if h : b = c then isTrue (h ▸ rfl) else isFalse (fun e => h (by cases e; rfl))
  | .typeId s, .typeId t =>
    if h : s = t then isTrue (h ▸ rfl) else isFalse (fun e => h (by cases e; rfl))
  | .byte _, .typeId _ | .typeId _, .byte _ => isFalse (by simp)

namespace Feed

variable {U : Universe}

/-- Bytes, written one by one. -/
def bytes (bs : List UInt8) : List (Write U) := bs.map .byte

/-- A count, in eight bytes. -/
def count (n : Nat) : List (Write U) := bytes (littleEndian 8 n)

/-- The encoded characters of a text and a byte that no text contains. -/
def textBytes (s : String) : List UInt8 := s.toUTF8.toList ++ [0xff]

end Feed

/-- What a value of each kind gives to a hash. -/
structure Hashing (U : Universe) where
  bytes : (k : U.Kind) → U.Carrier k → List UInt8

namespace Value

variable {U : Universe}

/-- What a value of unknown type gives: the identity of its type, and its text. -/
def feed (v : Value U) : List (Write U) :=
  .typeId v.ty :: match v.text? with
    | some s => Feed.bytes (Feed.textBytes s)
    | none => []

/-- What several values of unknown type give: their number and then each of them. -/
def feedAll (vs : List (Value U)) : List (Write U) :=
  Feed.count vs.length ++ vs.flatMap feed

mutual

/-- What a value of known type gives: the bytes of its kind, for a tuple the depth and then the
elements, and for a tuple of unknown types what its elements give as values of unknown type. -/
def feedTyped (h : Hashing U) : Value U → List (Write U)
  | leaf k x => Feed.bytes (h.bytes k x)
  | dyn elements => feedAll elements
  | tuple elements => Feed.count elements.length ++ feedTypedAll h elements

def feedTypedAll (h : Hashing U) : List (Value U) → List (Write U)
  | [] => []
  | v :: vs => feedTyped h v ++ feedTypedAll h vs

end

end Value

/-- What a store gives to a hash: the depth and then each element, of unknown type. -/
def Store.feed {U : Universe} (s : Store U) : List (Write U) :=
  Value.feedAll s.values

end Polyad
