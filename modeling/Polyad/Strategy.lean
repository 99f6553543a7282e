/-
Polyad/Strategy.lean

How the elements of a matcher are paired with the elements of a candidate.

One matcher element admits a candidate element as follows: a textual candidate is admitted if there
is a compiled pattern that matches its text, any other candidate if it is equal to the matcher
element.  Nothing is assumed of patterns but that they can be asked for a match.
-/
import Polyad.Value

namespace Polyad

/-- A way of pairing the elements of a matcher with those of a candidate. -/
inductive Strategy where
  /-- Each element of the matcher admits the one at the same position. -/
  | all
  /-- Some element of the matcher admits the one at the same position. -/
  | any
  /-- Each element of the matcher admits some element of the candidate. -/
  | set
deriving DecidableEq, Repr

namespace Strategy

/-- The name of a strategy. -/
def name : Strategy → String
  | all => "All"
  | any => "Any"
  | set => "Set"

variable {U : Universe} {ρ : Type}

/-- Whether a matcher element, with its compiled pattern if it has one, admits a candidate element. -/
def admits (isMatch : ρ → String → Bool) (pattern : Option ρ) (expected found : Value U) : Bool :=
  match found.text? with
  | some text => pattern.any (isMatch · text)
  | none => found.beq expected

/-- Whether the candidate `found` matches, given the elements of a matcher and their patterns.  A
candidate that is not as deep as the matcher is refused by `all` and by `set`; `any` looks at no
position that one of the two does not have. -/
def evaluate (isMatch : ρ → String → Bool) (expected : List (Value U)) (patterns : List (Option ρ))
    (found : List (Value U)) : Strategy → Bool
  | all =>
    expected.length ≤ found.length &&
      ((expected.zip patterns).zip found).all fun ((e, p), f) => admits isMatch p e f
  | any => ((expected.zip patterns).zip found).any fun ((e, p), f) => admits isMatch p e f
  | set =>
    expected.length ≤ found.length &&
      (expected.zip patterns).all fun (e, p) => found.any fun f => admits isMatch p e f

end Strategy

end Polyad
