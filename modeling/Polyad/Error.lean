/-
Polyad/Error.lean

Why an operation on tuples fails, and the message for each cause.
-/
import Polyad.Universe

namespace Polyad

/-- The greatest number of elements of a tuple. -/
def maxDepth : Nat := 16

/-- The operations that the empty tuple does not support. -/
inductive Operation where
  | add | splice | truncate | hop | remove | transform | matching
deriving DecidableEq, Repr

/-- The name of an operation in messages. -/
def Operation.name : Operation → String
  | add => "add"
  | splice => "splice"
  | truncate => "truncate"
  | hop => "hop"
  | remove => "remove"
  | transform => "transform"
  | matching => "matches"

/-- The causes of failure. -/
inductive Error (U : Universe) where
  /-- The result would have had this depth. -/
  | overflow (depth : Nat)
  | invalidPosition (position depth : Nat)
  | indexOutOfRange (index depth : Nat)
  | unsupportedOnEmpty (operation : Operation)
  /-- The elements at this position are not ordered. -/
  | notComparable (position : Nat) (left right : Ty U)
  | depthMismatch (expected found : Nat)
  /-- The element at this position, if there is one, is of another type. -/
  | typeMismatch (position : Nat) (expected : Ty U) (found : Option (Ty U))
  /-- There is no element of this type at this position. -/
  | missingElement (position : Nat) (expected : Ty U)
  /-- The text at this position is not a pattern. -/
  | invalidPattern (position : Nat)

namespace Error

variable {U : Universe}

/-- The message for a cause. -/
def message : Error U → String
  | .overflow depth =>
    "a tuple of depth " ++ toString depth ++ " exceeds the maximum depth of " ++ toString maxDepth
  | .invalidPosition position depth =>
    "position " ++ toString position ++ " is out of range for a tuple of depth " ++ toString depth
  | .indexOutOfRange index depth =>
    "index " ++ toString index ++ " is out of range for an element store of depth " ++
      toString depth
  | .unsupportedOnEmpty operation =>
    "`" ++ operation.name ++ "` is not supported on the empty tuple"
  | .notComparable position left right =>
    "tuple elements at position " ++ toString position ++ " are not comparably ordered (`" ++
      left.name ++ "` vs `" ++ right.name ++ "`)"
  | .depthMismatch expected found =>
    "expected a tuple of depth " ++ toString expected ++ ", found one of depth " ++ toString found
  | .typeMismatch position expected found =>
    "expected `" ++ expected.name ++ "` at position " ++ toString position ++ ", found `" ++
      (found.map Ty.name).getD "nothing" ++ "`"
  | .missingElement position expected =>
    "expected `" ++ expected.name ++ "` at position " ++ toString position
  | .invalidPattern position =>
    "invalid pattern at position " ++ toString position

end Error

end Polyad
