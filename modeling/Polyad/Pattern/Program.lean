/-
Polyad/Pattern/Program.lean

Programs for searching, and how they are put together.

A program is a graph of nodes, each with its number.  Some nodes wait for a byte and lead on if it
is in one of their ranges; the others lead on at once.  A program is put together node by node,
and the nodes have to fit into a limited room.
-/
import Polyad.Pattern.ByteRun
import Polyad.Pattern.Fault
import Polyad.Pattern.Look

namespace Polyad.Pattern

/-- The way to a next node for the bytes of a range. -/
structure Arc where
  range : ByteRange
  next : Nat
deriving DecidableEq, Repr

/-- A node of a program; `next` and `targets` are numbers of nodes. -/
inductive Node where
  | goto (next : Nat)
  /-- Waits for a byte of one range. -/
  | byte (arc : Arc)
  /-- Waits for a byte of one of several ranges. -/
  | bytes (arcs : List Arc)
  | look (l : Look) (next : Nat)
  /-- Marks a place in the text. -/
  | mark (next : Nat)
  /-- Leads on to several nodes; the last one comes first. -/
  | fork (targets : List Nat)
  /-- A match is complete. -/
  | accept

namespace Node

/-- How many bytes of room a node takes. -/
def size : Node → Nat
  | bytes arcs => 32 + 8 * arcs.length
  | fork targets => 32 + 4 * targets.length
  | _ => 32

/-- The node, leading to `target` too if it is a fork, and there instead otherwise. -/
def leadTo (target : Nat) : Node → Node
  | goto _ => goto target
  | byte arc => byte { arc with next := target }
  | look l _ => look l target
  | mark _ => mark target
  | fork targets => fork (target :: targets)
  | node => node

end Node

/-- Nodes with the room that they take. -/
structure Assembly where
  nodes : Array Node
  size : Nat

/-- A step in putting a program together. -/
abbrev Assembler := StateT Assembly (Except Fault)

/-- How many bytes of room the nodes of a program may take: ten times 1024 times 1024. -/
def maxSize : Nat := 10485760

namespace Assembler

/-- Nodes that take so much room, if there is so much. -/
def fit (nodes : Array Node) (size : Nat) : Except Fault Assembly :=
  if maxSize < size then .error .tooLarge else .ok ⟨nodes, size⟩

/-- Adds a node and gives its number. -/
def add (node : Node) : Assembler Nat := fun ⟨nodes, size⟩ =>
  let n := nodes.size
  do return (n, ← fit (nodes.push node) (size + node.size))

/-- How much a node grows if it leads to one more. -/
def growth : Node → Nat
  | .fork _ => 4
  | _ => 0

/-- Lets a node lead to another one. -/
def connect (source target : Nat) : Assembler Unit := fun ⟨nodes, size⟩ =>
  let size := size + (nodes[source]?.map growth).getD 0
  do return ((), ← fit (nodes.modify source (·.leadTo target)) size)

end Assembler

/-- A part of a program: the node where it begins, and the one that leads out of it. -/
structure Fragment where
  start : Nat
  finish : Nat

namespace Assembler

/-! ### Putting fragments together -/

/-- A fragment of one node. -/
def single (node : Node) : Assembler Fragment := do
  let n ← add node
  return ⟨n, n⟩

/-- Fragments behind `f`, one after another. -/
def follow (f : Fragment) : List (Assembler Fragment) → Assembler Fragment
  | [] => return f
  | part :: parts => do
    let g ← part
    connect f.finish g.start
    follow ⟨f.start, g.finish⟩ parts

/-- Fragments one after another. -/
def inRow : List (Assembler Fragment) → Assembler Fragment
  | [] => single (.goto 0)
  | part :: parts => do follow (← part) parts

/-- So many fragments behind `f`, all alike. -/
def followTimes (part : Assembler Fragment) (f : Fragment) : (n : Nat) → Assembler Fragment
  | 0 => return f
  | n + 1 => do
    let g ← part
    connect f.finish g.start
    followTimes part ⟨f.start, g.finish⟩ n

/-- So many fragments one after another, all alike. -/
def exactly (part : Assembler Fragment) : (n : Nat) → Assembler Fragment
  | 0 => single (.goto 0)
  | n + 1 => do followTimes part (← part) n

/-- Lets the node `fork` lead to each of several fragments, and these to the node `join`. -/
def branch (fork join : Nat) : List (Assembler Fragment) → Assembler Unit
  | [] => return ()
  | part :: parts => do
    let f ← part
    connect fork f.start
    connect f.finish join
    branch fork join parts

/-- One of several fragments.  The node at which they meet comes behind the first two of them. -/
def oneOf : List (Assembler Fragment) → Assembler Fragment
  | [] => single (.bytes [])
  | [part] => part
  | first :: second :: parts => do
    let f ← first
    let g ← second
    let fork ← add (.fork [])
    let join ← add (.goto 0)
    branch fork join [pure f, pure g]
    branch fork join parts
    return ⟨fork, join⟩

/-- A fragment or nothing. -/
def atMostOnce (part : Assembler Fragment) : Assembler Fragment := do
  let fork ← add (.fork [])
  let f ← part
  let join ← add (.goto 0)
  connect fork f.start
  connect fork join
  connect f.finish join
  return ⟨fork, join⟩

/-- A fragment again and again, or nothing.  If the fragment takes text, one fork before it is
enough; otherwise there is one before it and one behind it. -/
def anyTimes (takesText : Bool) (part : Assembler Fragment) : Assembler Fragment := do
  if takesText then
    let fork ← add (.fork [])
    let f ← part
    connect fork f.start
    connect f.finish fork
    return ⟨fork, fork⟩
  else
    let f ← part
    let again ← add (.fork [])
    connect f.finish again
    connect again f.start
    let fork ← add (.fork [])
    let join ← add (.goto 0)
    connect fork f.start
    connect fork join
    connect again join
    return ⟨fork, join⟩

/-- A fragment, and again after it. -/
def again (f : Fragment) (last : Nat) : Assembler Fragment := do
  let fork ← add (.fork [])
  connect f.finish fork
  connect fork last
  return ⟨f.start, fork⟩

/-- A fragment at least `n` times, `n` being positive. -/
def atLeast (part : Assembler Fragment) (n : Nat) : Assembler Fragment := do
  if n ≤ 1 then
    let f ← part
    again f f.start
  else
    let f ← exactly part (n - 1)
    let last ← part
    connect f.finish last.start
    again ⟨f.start, last.finish⟩ last.start

/-- Up to `n` fragments behind the node `finish`, each of which may be passed over together with all
that follow it by going to the node `join`. -/
def upTo (part : Assembler Fragment) (join finish : Nat) : (n : Nat) → Assembler Unit
  | 0 => connect finish join
  | n + 1 => do
    let fork ← add (.fork [])
    let f ← part
    connect finish fork
    connect fork f.start
    connect fork join
    upTo part join f.finish n

/-- A fragment at least `least` times and at most `most` times. -/
def between (part : Assembler Fragment) (least most : Nat) : Assembler Fragment := do
  let f ← exactly part least
  if least = most then return f
  else
    let join ← add (.goto 0)
    upTo part join f.finish (most - least)
    return ⟨f.start, join⟩

/-- A fragment repeated. -/
def repeated (takesText : Bool) (part : Assembler Fragment) (least : Nat) :
    (most : Option Nat) → Assembler Fragment
  | none => if least = 0 then anyTimes takesText part else atLeast part least
  | some most => if least = 0 ∧ most = 1 then atMostOnce part else between part least most

end Assembler

/-- A program: its nodes, where it begins, and the room that it takes. -/
structure Program where
  nodes : Array Node
  start : Nat
  size : Nat

/-- Puts a program together, given the step that gives its beginning. -/
def Program.assemble (step : Assembler Nat) : Except Fault Program := do
  let (start, a) ← step.run ⟨#[], 0⟩
  return ⟨a.nodes, start, a.size⟩

end Polyad.Pattern
