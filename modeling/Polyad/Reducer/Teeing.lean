/-
Polyad/Reducer/Teeing.lean

Two reducers that take the items of one stream side by side, and the typed pair of their results.

The first of them is given a copy of every item.  The results are elements of known types; the pair
is a tuple of these types and can be an element in its turn, so either reducer may be of this sort
again.
-/
import Polyad.Reducer
import Polyad.Typed

namespace Polyad

variable {U : Universe} {s t : Ty U} {σ τ ι : Type}

/-- The tuple of two elements. -/
def Typed.pair (x : Element s) (y : Element t) : Typed U [s, t] :=
  ⟨⟨[x.val, y.val], by simp [maxDepth]⟩, by
    rw [Store.types, Value.types_cons, Value.types_cons, x.property, y.property, Value.types_nil]⟩

/-- The states of two reducers. -/
structure Teeing (σ τ : Type) where
  left : σ
  right : τ

/-- Gives every item to two reducers, to the first one a copy. -/
def Teeing.reducer (copy : ι → ι) (a : Reducer σ ι (Element s)) (b : Reducer τ ι (Element t)) :
    Reducer (Teeing σ τ) ι (Typed U [s, t]) where
  accept state item := ⟨a.accept state.left (copy item), b.accept state.right item⟩
  finish state := .pair (a.finish state.left) (b.finish state.right)

end Polyad
