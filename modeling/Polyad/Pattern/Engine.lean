/-
Polyad/Pattern/Engine.lean

The patterns of this library as an engine for matchers.
-/
import Polyad.Pattern
import Polyad.Matcher

namespace Polyad.Pattern

/-- Compiling and searching with patterns. -/
def engine : Engine Pattern where
  compile? := compile?
  isMatch := isMatch
  outline := outline

end Polyad.Pattern
