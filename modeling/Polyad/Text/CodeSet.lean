/-
Polyad/Text/CodeSet.lean

Sets of characters given by their boundaries.  The list of boundaries is increasing; a character
is in the set iff an odd number of boundaries are at or below it, so that the boundaries are by
turns the first character of a range and the first one past it.

Idea.  The numbers from 0xd800 to 0xdfff belong to no character.  No set has a boundary among
them, so that ranges which meet across the gap are one range, and two sets of the same characters
have the same boundaries.  All operations of sets are one walk along two lists of boundaries.
-/

namespace Polyad

/-- A set of characters, as its increasing boundaries. -/
structure CodeSet where
  bounds : Array Nat
deriving DecidableEq

namespace CodeSet

/-- How many of the boundaries with an index in `[low, high)` are at or below `c`, plus `low`, by
bisection. -/
def rank (bounds : Array Nat) (c low high : Nat) : Nat :=
  if low < high then
    let middle := (low + high) / 2
    if bounds[middle]?.any (· ≤ c) then rank bounds c (middle + 1) high
    else rank bounds c low middle
  else low
termination_by high - low

def contains (s : CodeSet) (c : Char) : Bool :=
  rank s.bounds c.toNat 0 s.bounds.size % 2 = 1

/-! ### Sets from characters -/

/-- The number that follows `n`; the gap is passed over. -/
def next (n : Nat) : Nat := if n = 0xd7ff then 0xe000 else n + 1

/-- The number before `n`; the gap is passed over. -/
def previous (n : Nat) : Nat := if n = 0xe000 then 0xd7ff else n - 1

def empty : CodeSet := ⟨#[]⟩

/-- All characters. -/
def all : CodeSet := ⟨#[0, 0x110000]⟩

/-- The characters from `first` to `last`. -/
def range (first last : Char) : CodeSet := ⟨#[first.toNat, next last.toNat]⟩

def single (c : Char) : CodeSet := range c c

/-- The boundaries of the numbers in an increasing list. -/
def boundsOf (numbers : List Nat) : List Nat :=
  numbers.foldr
    (fun n bounds =>
      match bounds with
      | [] => [n, next n]
      | b :: bs => if b = n then b :: bs else if b = next n then n :: bs else n :: next n :: b :: bs)
    []

/-- The characters of a list. -/
def ofList (cs : List Char) : CodeSet :=
  ⟨(boundsOf ((cs.map Char.toNat).mergeSort (· ≤ ·))).toArray⟩

/-! ### Operations of sets -/

/-- The boundaries of what `keep` takes from two sets, given their boundaries from some place on
and whether the place is inside of the one and of the other. -/
def mergeFrom (keep : Bool → Bool → Bool) (inLeft inRight : Bool) (left right : List Nat) :
    List Nat :=
  let cut (b : Nat) (inLeft' inRight' : Bool) (bounds : List Nat) : List Nat :=
    if keep inLeft inRight = keep inLeft' inRight' then bounds else b :: bounds
  match left, right with
  | [], [] => []
  | a :: left, [] => cut a (!inLeft) inRight (mergeFrom keep (!inLeft) inRight left [])
  | [], b :: right => cut b inLeft (!inRight) (mergeFrom keep inLeft (!inRight) [] right)
  | a :: left, b :: right =>
    if a < b then cut a (!inLeft) inRight (mergeFrom keep (!inLeft) inRight left (b :: right))
    else if b < a then cut b inLeft (!inRight) (mergeFrom keep inLeft (!inRight) (a :: left) right)
    else cut a (!inLeft) (!inRight) (mergeFrom keep (!inLeft) (!inRight) left right)
termination_by left.length + right.length

/-- What `keep` takes from two sets; it takes nothing from outside of both. -/
def merge (keep : Bool → Bool → Bool) (s t : CodeSet) : CodeSet :=
  ⟨(mergeFrom keep false false s.bounds.toList t.bounds.toList).toArray⟩

def union : CodeSet → CodeSet → CodeSet := merge fun p q => p || q

def intersection : CodeSet → CodeSet → CodeSet := merge fun p q => p && q

def difference : CodeSet → CodeSet → CodeSet := merge fun p q => p && !q

/-- What is in one of the two sets but not in both. -/
def exclusive : CodeSet → CodeSet → CodeSet := merge fun p q => p != q

def complement (s : CodeSet) : CodeSet := all.difference s

/-- All of several sets together. -/
def unionAll (sets : List CodeSet) : CodeSet := sets.foldl union empty

/-! ### Views -/

def isEmpty (s : CodeSet) : Bool := s.bounds.isEmpty

/-- The character of a set with no other. -/
def single? (s : CodeSet) : Option Char :=
  match s.bounds.toList with
  | [first, past] => if past = next first then some (Char.ofNat first) else none
  | _ => none

/-- The first and the last number of each range in an increasing list of boundaries. -/
def rangesOf : List Nat → List (Nat × Nat)
  | first :: past :: bounds => (first, previous past) :: rangesOf bounds
  | _ => []

/-- The ranges of a set, each by the numbers of its first and its last character. -/
def ranges (s : CodeSet) : List (Nat × Nat) := rangesOf s.bounds.toList

/-- Whether the set has only characters with a number below 128. -/
def isAscii (s : CodeSet) : Bool := s.bounds.all (· ≤ 0x80)

end CodeSet

end Polyad
