/-
Polyad/Pattern/ByteRun.lean

Ranges of characters as runs of ranges of bytes.

Idea.  A character is written as one to four bytes.  The bytes of all characters of a range are
the bytes taken one from each range of a run, provided that all of them are written with equally
many bytes and that only bytes behind the last one in which they differ may take all their values.
A range that is not like this is split in two.
-/
import Polyad.Text.CodeSet

namespace Polyad.Pattern

/-- The bytes from `first` to `last`. -/
structure ByteRange where
  first : UInt8
  last : UInt8
deriving DecidableEq, Repr

def ByteRange.contains (r : ByteRange) (b : UInt8) : Bool := r.first ≤ b && b ≤ r.last

/-- All bytes. -/
def ByteRange.all : ByteRange := ⟨0, 0xff⟩

/-- One range of bytes after another. -/
abbrev ByteRun := List ByteRange

namespace ByteRun

/-- The bytes of a character. -/
def bytes (c : Char) : List UInt8 := String.utf8EncodeChar c

/-- The numbers at which a new count of bytes begins, or which follow the gap. -/
def borders : List Nat := [0xe000, 0x80, 0x800, 0x10000]

/-- How many characters differ only in their last byte, in their last two, in their last three. -/
def blocks : List Nat := [0x40, 0x1000, 0x40000]

/-- Where a range of several blocks that does not begin or end with a whole one is split. -/
def blockSplit? (first last block : Nat) : Option Nat :=
  if first / block = last / block then none
  else if first % block ≠ 0 then some ((first / block + 1) * block)
  else if (last + 1) % block ≠ 0 then some (last / block * block)
  else none

/-- Where the second part of a range begins, if the range has to be split. -/
def split? (first last : Nat) : Option Nat :=
  match borders.find? fun b => first < b && b ≤ last with
  | some b => some b
  | none => if last < 0x80 then none else blocks.findSome? (blockSplit? first last)

/-- The runs of the characters with numbers from `first` to `last`, in their order. -/
def ofNumbers (first last : Nat) : List ByteRun :=
  match split? first last with
  | none =>
    [List.zipWith ByteRange.mk (bytes (Char.ofNat first)) (bytes (Char.ofNat last))]
  | some middle =>
    if _h : first < middle ∧ middle ≤ last ∧ CodeSet.previous middle < middle then
      ofNumbers first (CodeSet.previous middle) ++ ofNumbers middle last
    else []
termination_by last - first
decreasing_by all_goals omega

/-- The runs of a set of characters, in the order of the characters. -/
def ofSet (s : CodeSet) : List ByteRun :=
  s.ranges.flatMap fun (first, last) => ofNumbers first last

end ByteRun

end Polyad.Pattern
