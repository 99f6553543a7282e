/-
Polyad/Pattern/Sharing.lean

Fragments that read one character of a set.

Idea.  The set is a list of byte runs.  Forward, runs that begin with the same range share a node,
so that each node has one arc for a range; backward, every run is a chain of nodes.  In both
directions nodes that lead on alike are made only once, as far as a table remembers them.  A table
has a fixed number of places; the place of a node is computed from what it leads to, and a node
that comes to a place which is taken displaces the one that is there.
-/
import Std.Data.HashMap
import Polyad.Pattern.Direction
import Polyad.Pattern.Program

namespace Polyad.Pattern

/-- The nodes that are remembered, by place, each with what it leads to. -/
abbrev Table (κ : Type) := Std.HashMap Nat (κ × Nat)

namespace Table

/-- The place, of so many, that is computed from some numbers: one after another they are mixed in,
and the result is spread out by a large prime. -/
def place (places : UInt64) (numbers : List Nat) : Nat :=
  let mix (h : UInt64) (n : Nat) : UInt64 := (h ^^^ n.toUInt64) * 1099511628211
  (numbers.foldl mix 14695981039346656037 % places).toNat

/-- The node that leads to `key`, made by `make` unless the table remembers it. -/
def shared {κ : Type} [DecidableEq κ] (key : κ) (place : Nat) (make : Assembler Nat) :
    StateT (Table κ) Assembler Nat := do
  match (← get)[place]? with
  | some (key', n) => if key = key' then return n
  | none => pure ()
  let n ← make
  modify (·.insert place (key, n))
  return n

end Table

namespace Assembler

/-! ### Forward -/

/-- The ranges with which byte runs begin, each with what follows it in the runs that stand
together and begin with it. -/
def grouped : List ByteRun → List (ByteRange × List ByteRun)
  | [] => []
  | [] :: runs => grouped runs
  | (r :: run) :: runs =>
    match grouped runs with
    | [] => [(r, [run])]
    | (r', rest) :: groups =>
      if r = r' then (r, run :: rest) :: groups else (r, [run]) :: (r', rest) :: groups

/-- The node with these arcs. -/
def sharedNode (arcs : List Arc) : StateT (Table (List Arc)) Assembler Nat :=
  let numbers := arcs.flatMap fun arc =>
    [arc.range.first.toNat, arc.range.last.toNat, arc.next]
  Table.shared arcs (Table.place 10000 numbers) (add (.bytes arcs))

/-- The node that reads one of several byte runs, of at most so many ranges, and leads to `target`
after it. -/
def readRuns (target : Nat) : (length : Nat) → List ByteRun →
    StateT (Table (List Arc)) Assembler Nat
  | 0, _ => return target
  | length + 1, runs => do
    match grouped runs with
    | [] => return target
    | groups =>
      let arcs ← groups.mapM fun (range, rest) => return ⟨range, ← readRuns target length rest⟩
      sharedNode arcs

/-- One character of several byte runs, read forward. -/
def charForward (runs : List ByteRun) : Assembler Fragment := do
  let target ← add (.goto 0)
  let (start, _) ← (readRuns target 4 runs).run ∅
  return ⟨start, target⟩

/-! ### Backward -/

/-- The node that leads to `next` with the bytes of a range. -/
def sharedStep (range : ByteRange) (next : Nat) : StateT (Table Arc) Assembler Nat :=
  let place := Table.place 1000 [next, range.first.toNat, range.last.toNat]
  Table.shared ⟨range, next⟩ place (add (.byte ⟨range, next⟩))

/-- Lets the node `fork` lead to a chain of nodes for each byte run, which reads the run from its
end and leads to the node `join`. -/
def readBack (fork join : Nat) : List ByteRun → StateT (Table Arc) Assembler Unit
  | [] => return ()
  | run :: runs => do
    let start ← run.foldlM (fun next range => sharedStep range next) join
    connect fork start
    readBack fork join runs

/-- One character of several byte runs, read backward. -/
def charBackward (runs : List ByteRun) : Assembler Fragment := do
  let fork ← add (.fork [])
  let join ← add (.goto 0)
  let _ ← (readBack fork join runs).run ∅
  return ⟨fork, join⟩

/-! ### Either way -/

/-- One character of a set of ASCII, given by byte runs; it needs a single node. -/
def asciiChar (runs : List ByteRun) : Assembler Fragment := do
  let join ← add (.goto 0)
  let start ← add (.bytes (runs.flatten.map fun range => ⟨range, join⟩))
  return ⟨start, join⟩

/-- One character of a set. -/
def char (d : Direction) (s : CodeSet) : Assembler Fragment :=
  let runs := ByteRun.ofSet s
  if s.isAscii then asciiChar runs
  else
    match d with
    | .forward => charForward runs
    | .backward => charBackward runs

end Assembler

end Polyad.Pattern
