/-
Polyad/Universe.lean

Element types.  The library is written over a `Universe`: a collection of kinds, each with a type
of values and with the few operations that tuples need of their elements.  Two more element types
come from the library itself, a tuple of unknown types (`Ty.dyn`) and a tuple of known types
(`Ty.tuple`); they nest to any depth.
-/
import Polyad.Outline

namespace Polyad

/-- The kinds of elements, with what a tuple needs to know of a value of each kind. -/
structure Universe where
  Kind : Type
  kindEq : DecidableEq Kind
  /-- The values of a kind. -/
  Carrier : Kind → Type
  /-- The name by which messages refer to the kind. -/
  name : Kind → String
  /-- Equality of two values of one kind.  It need not be reflexive. -/
  beq : (k : Kind) → Carrier k → Carrier k → Bool
  /-- The order of two values of one kind, if they are ordered. -/
  cmp? : (k : Kind) → Carrier k → Carrier k → Option Ordering
  /-- The text of a textual value. -/
  text? : (k : Kind) → Carrier k → Option String
  /-- How a value is shown. -/
  outline : (k : Kind) → Carrier k → Outline

instance (U : Universe) : DecidableEq U.Kind := U.kindEq

/-- The type of an element. -/
inductive Ty (U : Universe) where
  | leaf (k : U.Kind)
  /-- A tuple whose element types are not recorded. -/
  | dyn
  /-- A tuple of these element types. -/
  | tuple (types : List (Ty U))

namespace Ty

variable {U : Universe}

/-! ### Equality of types is decidable -/

mutual

def decEq : (s t : Ty U) → Decidable (s = t)
  | .leaf k, .leaf j =>
    if h : k = j then isTrue (h ▸ rfl) else isFalse (fun e => h (by cases e; rfl))
  | .dyn, .dyn => isTrue rfl
  | .tuple ss, .tuple ts =>
    match decEqAll ss ts with
    | isTrue h => isTrue (h ▸ rfl)
    | isFalse h => isFalse (fun e => h (by cases e; rfl))
  | .leaf _, .dyn | .leaf _, .tuple _ | .dyn, .leaf _ | .dyn, .tuple _
  | .tuple _, .leaf _ | .tuple _, .dyn => isFalse (by simp)

def decEqAll : (ss ts : List (Ty U)) → Decidable (ss = ts)
  | [], [] => isTrue rfl
  | s :: ss, t :: ts =>
    match decEq s t, decEqAll ss ts with
    | isTrue h, isTrue hs => isTrue (h ▸ hs ▸ rfl)
    | isFalse h, _ => isFalse (fun e => h (by cases e; rfl))
    | _, isFalse hs => isFalse (fun e => hs (by cases e; rfl))
  | [], _ :: _ | _ :: _, [] => isFalse (by simp)

end

instance : DecidableEq (Ty U) := decEq

/-! ### Names -/

/-- The names of several types as one: in parentheses, with a comma after a single one. -/
def flatName : List String → String
  | [] => "()"
  | [name] => "(" ++ name ++ ",)"
  | names => "(" ++ ", ".intercalate names ++ ")"

mutual

/-- The name of a type. -/
def name : Ty U → String
  | .leaf k => U.name k
  | .dyn => "tupelo::dynamic::DynTuple"
  | .tuple types => "tupelo::tuple::Tuple<" ++ flatName (names types) ++ ">"

def names : List (Ty U) → List String
  | [] => []
  | t :: ts => name t :: names ts

end

/-- The name of several types as nested pairs that end in the empty tuple. -/
def nestedName : List (Ty U) → String
  | [] => "()"
  | t :: ts => "(" ++ name t ++ ", " ++ nestedName ts ++ ")"

end Ty

end Polyad
