/-
Polyad/Pattern/Look.lean

Conditions on a place in a text, which is given by the characters before and after it.
-/
import Polyad.Text.Word

namespace Polyad.Pattern

/-- Which characters are word characters. -/
inductive Alphabet where
  /-- Letters, digits and the underscore of ASCII. -/
  | ascii
  /-- The word characters of all scripts. -/
  | world
deriving DecidableEq, Repr

/-- Conditions on where words begin and end. -/
inductive WordEdge where
  | boundary | notBoundary
  | start | finish
  /-- There is no word before the place. -/
  | startHalf
  /-- There is no word after the place. -/
  | finishHalf
deriving DecidableEq, Repr

/-- Conditions on a place between two characters. -/
inductive Look where
  | textStart | textEnd
  | lineStart | lineEnd
  /-- Line ends where a carriage return counts, and counts once together with a line feed. -/
  | returnStart | returnEnd
  | word (alphabet : Alphabet) (edge : WordEdge)
deriving DecidableEq, Repr

/-- Whether there is a word character. -/
def Alphabet.isWord : Alphabet → Option Char → Bool
  | ascii, c => c.any fun c => c.isAlphanum || c = '_'
  | world, c => c.any CodeSet.word.contains

/-- Whether a word ends or begins between these two characters, and whether there is a word on
either side, as the condition asks. -/
def WordEdge.holds (isBefore isAfter : Bool) : WordEdge → Bool
  | boundary => isBefore != isAfter
  | notBoundary => isBefore == isAfter
  | start => !isBefore && isAfter
  | finish => isBefore && !isAfter
  | startHalf => !isBefore
  | finishHalf => !isAfter

/-- Whether the condition holds between these two characters. -/
def Look.holds (before after : Option Char) : Look → Bool
  | textStart => before.isNone
  | textEnd => after.isNone
  | lineStart => before.all (· = '\n')
  | lineEnd => after.all (· = '\n')
  | returnStart => before.all (fun c => c = '\n' || (c = '\r' && after != some '\n'))
  | returnEnd => after.all (fun c => c = '\r' || (c = '\n' && before != some '\r'))
  | word alphabet edge => edge.holds (alphabet.isWord before) (alphabet.isWord after)

end Polyad.Pattern
