/-
Polyad/Pattern/Flags.lean

The ways in which a pattern may be read.
-/
import Polyad.Pattern.Fault
import Polyad.Pattern.Look
import Polyad.Text.Folding

namespace Polyad.Pattern

/-- The characters left to read. -/
abbrev Rest := List Char

/-- The ways in which a pattern may be read. -/
structure Flags where
  /-- The case of characters does not matter. -/
  anyCase : Bool
  /-- The signs `^` and `$` stand for the ends of lines too. -/
  multiLine : Bool
  /-- A dot stands for a line feed too. -/
  dotAll : Bool
  /-- Carriage returns end lines too. -/
  returns : Bool
  /-- Repetitions are greedy iff a question mark follows. -/
  isLazy : Bool
  /-- Blanks and comments are passed over. -/
  verbose : Bool
  /-- The characters of which named classes are made, and which have variants. -/
  alphabet : Alphabet

namespace Flags

/-- The flags at the start of a pattern. -/
def atStart : Flags := ⟨false, false, false, false, false, false, .world⟩

/-- The set, with all variants of its characters if case does not matter. -/
def fold (flags : Flags) (s : CodeSet) : CodeSet :=
  if !flags.anyCase then s
  else match flags.alphabet with
    | .ascii => s.anyAsciiCase
    | .world => s.anyCase

/-- A character, in all its variants if case does not matter. -/
def foldChar (flags : Flags) (c : Char) : CodeSet :=
  if !flags.anyCase then .single c
  else match flags.alphabet with
    | .ascii => .ofList (asciiCaseVariants c)
    | .world => .ofList (caseVariants c)

/-- Passes over blanks, and over comments, which go from a number sign to the end of the line. -/
def skipFrom (isInComment : Bool) : Rest → Rest
  | [] => []
  | c :: rest =>
    if isInComment then skipFrom (c ≠ '\n') rest
    else if CodeSet.blank.contains c then skipFrom false rest
    else if c = '#' then skipFrom true rest
    else c :: rest

/-- Passes over blanks and comments if they do not count. -/
def skip (flags : Flags) (rest : Rest) : Rest :=
  if flags.verbose then skipFrom false rest else rest

/-- The first character of `rest`, seen past blanks and past the number sign of a comment if they
do not count. -/
def peek (flags : Flags) (rest : Rest) : Option Char :=
  if !flags.verbose then rest.head?
  else
    let rest' := match rest.dropWhile CodeSet.blank.contains with
      | '#' :: rest => rest.dropWhile CodeSet.blank.contains
      | rest => rest
    match rest' with
    | [] => rest.head?
    | c :: _ => some c

/-- Everything but the characters in `s`.  In the alphabet of ASCII that is refused, since there it
would take in bytes that are no characters. -/
def complement (flags : Flags) (s : CodeSet) : Except Fault CodeSet :=
  match flags.alphabet with
  | .ascii => .error .notText
  | .world => .ok s.complement

/-- A character that stands for itself in a set; in the alphabet of ASCII it has to belong to it. -/
def member (flags : Flags) (c : Char) : Except Fault Char :=
  if flags.alphabet = .ascii ∧ 0x80 ≤ c.toNat then .error .notText else .ok c

end Flags

end Polyad.Pattern
