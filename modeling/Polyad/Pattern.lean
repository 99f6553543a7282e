/-
Polyad/Pattern.lean

Patterns: texts that are searched for in other texts.
-/
import Polyad.Outline
import Polyad.Pattern.Assembly
import Polyad.Pattern.Grammar
import Polyad.Pattern.Search
import Polyad.Text.Quoted

namespace Polyad

/-- A pattern, ready for searching, with the text from which it was made. -/
structure Pattern where
  text : String
  program : Pattern.Program

namespace Pattern

/-- The pattern for which a text stands.  Its program has to fit into the room for programs in
either direction: forward a match is found, and backward the place where it begins. -/
def compile (text : String) : Except Fault Pattern := do
  let e ← parse text
  let program ← e.program .forward
  let _ ← e.program .backward
  .ok ⟨text, program⟩

/-- The pattern for which a text stands, if it is one. -/
def compile? (text : String) : Option Pattern := (compile text).toOption

/-- Whether the pattern matches somewhere in the text. -/
def isMatch (p : Pattern) (text : String) : Bool := p.program.isMatch text

/-- How the pattern is shown. -/
def outline (p : Pattern) : Outline := .tuple "Regex" [.atom (Quoted.text p.text)]

end Pattern

end Polyad
