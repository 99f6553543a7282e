/-
Polyad/Matcher.lean

Matchers: elements to be looked for in candidate tuples, each textual one compiled to a pattern.

A matcher is written over any `Engine`, a way of compiling texts and searching with the result.
-/
import Polyad.Strategy
import Polyad.Typed

namespace Polyad

/-- A way of compiling texts to patterns `ρ` and searching with them. -/
structure Engine (ρ : Type) where
  compile? : String → Option ρ
  isMatch : ρ → String → Bool
  outline : ρ → Outline

/-- A store of elements with the patterns of the textual ones, and a strategy. -/
structure Matcher (U : Universe) (ρ : Type) where
  elements : Store U
  patterns : List (Option ρ)
  strategy : Strategy

namespace Matcher

variable {U : Universe} {ρ : Type}

/-- The patterns of several values, the first of them at `position`.  The first textual value that
is not a pattern is an error. -/
def compileFrom (engine : Engine ρ) (position : Nat) :
    List (Value U) → Except (Error U) (List (Option ρ))
  | [] => .ok []
  | v :: vs =>
    match v.text? with
    | none => do .ok (none :: (← compileFrom engine (position + 1) vs))
    | some text =>
      match engine.compile? text with
      | none => .error (.invalidPattern position)
      | some pattern => do .ok (some pattern :: (← compileFrom engine (position + 1) vs))

/-- The matcher of a store of elements. -/
def compile (engine : Engine ρ) (elements : Store U) (strategy : Strategy) :
    Except (Error U) (Matcher U ρ) := do
  .ok ⟨elements, ← compileFrom engine 1 elements.values, strategy⟩

section Constructors

variable {ts : List (Ty U)}

/-- The matcher of the elements of a tuple; its types say that there are some. -/
def new (engine : Engine ρ) (values : Typed U ts) (_ : ts ≠ []) (strategy : Strategy) :
    Except (Error U) (Matcher U ρ) :=
  compile engine values.elements strategy

def all (engine : Engine ρ) (values : Typed U ts) (h : ts ≠ []) :
    Except (Error U) (Matcher U ρ) :=
  new engine values h .all

def any (engine : Engine ρ) (values : Typed U ts) (h : ts ≠ []) :
    Except (Error U) (Matcher U ρ) :=
  new engine values h .any

def set (engine : Engine ρ) (values : Typed U ts) (h : ts ≠ []) :
    Except (Error U) (Matcher U ρ) :=
  new engine values h .set

end Constructors

def depth (m : Matcher U ρ) : Nat := m.elements.depth

/-- The compiled pattern at a position, if the element there is textual. -/
def pattern (m : Matcher U ρ) (position : Nat) : Except (Error U) (Option ρ) :=
  if position = 0 ∨ m.depth < position then .error (.invalidPosition position m.depth)
  else .ok ((m.patterns[position - 1]?).getD none)

/-- Whether a candidate matches under a strategy, which need not be the matcher's own. -/
def evaluate (engine : Engine ρ) (m : Matcher U ρ) (strategy : Strategy) (candidate : Store U) :
    Bool :=
  strategy.evaluate engine.isMatch m.elements.values m.patterns candidate.values

/-- Whether a candidate matches; there is nothing to match in an empty one. -/
def matches? (engine : Engine ρ) (m : Matcher U ρ) (candidate : Store U) :
    Except (Error U) Bool :=
  if candidate.isEmpty then .error (.unsupportedOnEmpty .matching)
  else .ok (m.evaluate engine m.strategy candidate)

/-- Equality of the elements; the strategies do not matter. -/
def beq (m n : Matcher U ρ) : Bool := m.elements.beq n.elements

/-- What a matcher for these types gives to a hash; the strategy does not matter. -/
def feed (h : Hashing U) (ts : List (Ty U)) (m : Matcher U ρ) : List (Write U) :=
  Feed.count m.depth ++ Capability.feedEach h ts m.elements.values 0

/-- How a matcher is shown. -/
def outline (engine : Engine ρ) (m : Matcher U ρ) : Outline :=
  .record "Matcher"
    [("elements", m.elements.outline),
      ("patterns", .list (m.patterns.map fun
        | none => .atom "None"
        | some pattern => .tuple "Some" [engine.outline pattern])),
      ("strategy", .atom m.strategy.name)]

end Matcher

variable {U : Universe} {ρ : Type}

/-- Whether a tuple matches; the empty tuple is refused. -/
def Tuple.matches? (engine : Engine ρ) (t : Tuple U) (m : Matcher U ρ) : Except (Error U) Bool :=
  m.matches? engine t.elements

namespace Typed

variable {ts : List (Ty U)}

/-- Whether a tuple matches; its types say that it is not empty. -/
def isMatch (engine : Engine ρ) (t : Typed U ts) (m : Matcher U ρ) (_ : ts ≠ []) : Bool :=
  m.evaluate engine m.strategy t.elements

/-- Hands the elements to `consume` if the tuple matches, and gives the tuple back for the next
matcher. -/
def onMatch {μ : Type → Type} [Monad μ] (engine : Engine ρ) (m : Matcher U ρ) (h : ts ≠ [])
    (consume : List (Value U) → μ Unit) (t : Typed U ts) : μ (Typed U ts) := do
  if t.isMatch engine m h then consume t.arguments
  pure t

end Typed

end Polyad
