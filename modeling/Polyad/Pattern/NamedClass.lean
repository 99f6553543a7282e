/-
Polyad/Pattern/NamedClass.lean

The sets of characters that have a name: those that an escape names, in both alphabets, and those
of ASCII that are named between colons.
-/
import Polyad.Pattern.Look

namespace Polyad.Pattern.NamedClass

/-- The characters of the given ranges. -/
def ofRanges (ranges : List (Char × Char)) : CodeSet :=
  .unionAll (ranges.map fun (first, last) => .range first last)

def digit : Alphabet → CodeSet
  | .ascii => .range '0' '9'
  | .world => .digit

def blank : Alphabet → CodeSet
  | .ascii => ofRanges [('\t', '\r'), (' ', ' ')]
  | .world => .blank

def word : Alphabet → CodeSet
  | .ascii => ofRanges [('0', '9'), ('A', 'Z'), ('_', '_'), ('a', 'z')]
  | .world => .word

/-- The set with this name between colons. -/
def ofName? : String → Option CodeSet
  | "alnum" => some (ofRanges [('0', '9'), ('A', 'Z'), ('a', 'z')])
  | "alpha" => some (ofRanges [('A', 'Z'), ('a', 'z')])
  | "ascii" => some (.range '\x00' '\x7f')
  | "blank" => some (ofRanges [('\t', '\t'), (' ', ' ')])
  | "cntrl" => some (ofRanges [('\x00', '\x1f'), ('\x7f', '\x7f')])
  | "digit" => some (.range '0' '9')
  | "graph" => some (.range '!' '~')
  | "lower" => some (.range 'a' 'z')
  | "print" => some (.range ' ' '~')
  | "punct" => some (ofRanges [('!', '/'), (':', '@'), ('[', '\x60'), ('\x7b', '~')])
  | "space" => some (blank .ascii)
  | "upper" => some (.range 'A' 'Z')
  | "word" => some (word .ascii)
  | "xdigit" => some (ofRanges [('0', '9'), ('A', 'F'), ('a', 'f')])
  | _ => none

end Polyad.Pattern.NamedClass
