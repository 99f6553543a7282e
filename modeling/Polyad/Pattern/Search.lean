/-
Polyad/Pattern/Search.lean

Searching with a program.

Idea.  All ways through the program are followed at once.  At each place in the text the nodes
that wait for a byte are collected (`close`); the next byte takes each of them to the node behind
it or to nothing (`step`).  A node need not be visited twice at one place, so each visit is noted
with the count of bytes that were read before it.  A match is complete only between characters,
and conditions hold only there.
-/
import Polyad.Pattern.Program

namespace Polyad.Pattern

/-- A place between two characters, or between two bytes of one. -/
inductive Place where
  | between (before after : Option Char)
  | inside

/-- Whether a condition holds at a place. -/
def Place.allows (l : Look) : Place → Bool
  | between before after => l.holds before after
  | inside => false

/-- Whether a match can be complete at a place. -/
def Place.isBoundary : Place → Bool
  | between _ _ => true
  | inside => false

/-- How far a search has come. -/
structure Search where
  /-- How many bytes have been read, by node, when the node was last visited; one more than that, so
  that nothing is visited at first. -/
  visits : Array Nat
  /-- The nodes that wait for a byte. -/
  waiting : List Nat
  /-- Whether a match is complete. -/
  isComplete : Bool

namespace Program

/-- Visits the nodes that are `pending` and those to which they lead.  As every node leads to fewer
others than it takes bytes of room, `fuel` suffices if it is the room of the program and the count
of the nodes that are pending at first. -/
def close (p : Program) (place : Place) (clock : Nat) :
    (fuel : Nat) → (pending : List Nat) → Search → Search
  | 0, _, s => s
  | _, [], s => s
  | fuel + 1, n :: pending, s =>
    if s.visits[n]?.all (· = clock) then p.close place clock fuel pending s
    else
      let s := { s with visits := s.visits.modify n fun _ => clock }
      match p.nodes[n]? with
      | none => p.close place clock fuel pending s
      | some node =>
        match node with
        | .goto next | .mark next => p.close place clock fuel (next :: pending) s
        | .look l next =>
          p.close place clock fuel (if place.allows l then next :: pending else pending) s
        | .fork targets => p.close place clock fuel (targets ++ pending) s
        | .byte _ | .bytes _ =>
          p.close place clock fuel pending { s with waiting := n :: s.waiting }
        | .accept =>
          p.close place clock fuel pending { s with isComplete := s.isComplete || place.isBoundary }

/-- The search at a place, with the nodes from which it goes on there. -/
def visit (p : Program) (place : Place) (clock : Nat) (pending : List Nat) (visits : Array Nat) :
    Search :=
  p.close place clock (p.size + pending.length) pending ⟨visits, [], false⟩

/-- Where a node leads with a byte. -/
def step? (p : Program) (b : UInt8) (n : Nat) : Option Nat :=
  match p.nodes[n]? with
  | some (.byte arc) => if arc.range.contains b then some arc.next else none
  | some (.bytes arcs) => (arcs.find? (·.range.contains b)).map (·.next)
  | _ => none

/-- Reads the bytes of a character; gives the nodes from which the search goes on behind it. -/
def readBytes (p : Program) (clock : Nat) (waiting : List Nat) (visits : Array Nat) :
    List UInt8 → List Nat × Array Nat
  | [] => ([], visits)
  | [b] => (waiting.filterMap (p.step? b), visits)
  | b :: bs =>
    let s := p.visit .inside (clock + 1) (waiting.filterMap (p.step? b)) visits
    p.readBytes (clock + 1) s.waiting s.visits bs

/-- Whether a match is completed on the way through the rest of a text. -/
def searchFrom (p : Program) (clock : Nat) (pending : List Nat) (visits : Array Nat)
    (before : Option Char) : List Char → Bool
  | [] => (p.visit (.between before none) clock pending visits).isComplete
  | c :: cs =>
    let s := p.visit (.between before (some c)) clock pending visits
    if s.isComplete then true
    else
      let bytes := ByteRun.bytes c
      let (pending, visits) := p.readBytes clock s.waiting s.visits bytes
      p.searchFrom (clock + bytes.length) pending visits (some c) cs

/-- Whether the program matches somewhere in the text. -/
def isMatch (p : Program) (text : String) : Bool :=
  p.searchFrom 1 [p.start] (Array.replicate p.nodes.size 0) none text.toList

end Program

end Polyad.Pattern
