/-
Polyad/Pattern/Fault.lean

Why a text is not a pattern.
-/

namespace Polyad.Pattern

/-- The ways in which a text fails to be a pattern. -/
inductive Fault where
  | unclosedGroup
  | unopenedGroup
  | unclosedClass
  | unclosedName
  | invalidName
  | repeatedName
  | lookAround
  | unknownFlag
  | repeatedFlag
  | danglingNegation
  | unclosedFlags
  | nothingToRepeat
  | unclosedCount
  | invalidCount
  | danglingEscape
  | unknownEscape
  | backreference
  | invalidCode
  | unknownBoundary
  | invalidRange
  | notInClass
  /-- Bytes are asked for that are no characters. -/
  | notText
  | tooNested
  | tooLarge
deriving DecidableEq, Repr

end Polyad.Pattern
