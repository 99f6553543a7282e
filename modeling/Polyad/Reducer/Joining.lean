/-
Polyad/Reducer/Joining.lean

The texts of a stream in one, with a separator between any two of them and with something before
the first and after the last.
-/
import Polyad.Reducer
import Polyad.Outline
import Polyad.Text.Quoted

namespace Polyad

/-- What has been joined so far; what comes before the first text is already part of it. -/
structure Joining where
  separator : String
  suffix : String
  joined : String
  started : Bool
deriving DecidableEq, Repr

namespace Joining

/-- Nothing has been joined. -/
def start (separator before after : String) : Joining := ⟨separator, after, before, false⟩

/-- Joins texts. -/
def reducer : Reducer Joining String String where
  accept state text :=
    { state with
      joined := (if state.started then state.joined ++ state.separator else state.joined) ++ text
      started := true }
  finish state := state.joined ++ state.suffix

def outline (j : Joining) : Outline :=
  .record "Joining"
    [("separator", .atom (Quoted.text j.separator)),
      ("suffix", .atom (Quoted.text j.suffix)),
      ("joined", .atom (Quoted.text j.joined)),
      ("started", .atom (if j.started then "true" else "false"))]

end Joining

end Polyad
