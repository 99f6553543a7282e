/-
Polyad/Pattern/Trie.lean

Texts that begin alike, as a tree.

A tree lists, for a place that several texts have in common, what may come next: a byte with the
tree behind it, or the end of a text.  Bytes between two ends are in order.  As a text that comes
first is preferred, what is listed behind the end of a text belongs to texts that came later, and
they share nothing with what is listed before it.
-/
import Polyad.Pattern.Program

namespace Polyad.Pattern

/-- What may come next. -/
inductive Trie where
  | nil
  | byte (b : UInt8) (next others : Trie)
  | stop (others : Trie)

namespace Trie

/-- The tree of one text. -/
def ofBytes : List UInt8 → Trie
  | [] => stop nil
  | b :: bs => byte b (ofBytes bs) nil

/-- Whether nothing comes next. -/
def isLeaf : Trie → Bool
  | nil => true
  | byte _ _ _ => false
  | stop others => isLeaf others

/-- Whether a text ends among what is listed. -/
def hasStop : Trie → Bool
  | nil => false
  | byte _ _ others => hasStop others
  | stop _ => true

/-- Lists the end of a text last. -/
def addStop : Trie → Trie
  | nil => stop nil
  | byte b next others => byte b next (addStop others)
  | stop others => stop (addStop others)

/-- Adds a text.  Its first byte is listed behind the last end of a text. -/
def insert : Trie → List UInt8 → Trie
  | t, [] => if t.isLeaf && t.hasStop then t else t.addStop
  | nil, b :: bs => ofBytes (b :: bs)
  | stop others, b :: bs => stop (insert others (b :: bs))
  | byte c next others, b :: bs =>
    if others.hasStop || c < b then byte c next (insert others (b :: bs))
    else if b = c then byte c (insert next bs) others
    else byte b (ofBytes bs) (byte c next others)

/-- The tree of several texts. -/
def ofList (texts : List (List UInt8)) : Trie := texts.foldl insert nil

/-- The nodes of the bytes listed between two ends of texts, given last first, before the ones in
`targets`. -/
def flush (arcs : List Arc) (targets : List Nat) : Assembler (List Nat) :=
  match arcs with
  | [] => return targets
  | [arc] => return (← Assembler.add (.byte arc)) :: targets
  | arcs => return (← Assembler.add (.bytes arcs.reverse)) :: targets

/-- The node that leads to all that is listed; after the end of a text it leads to the node
`join`.  So far it leads to `arcs` and `targets`. -/
def assembleFrom (join : Nat) : Trie → (arcs : List Arc) → (targets : List Nat) → Assembler Nat
  | nil, arcs, targets => do Assembler.add (.fork (← flush arcs targets))
  | byte b next others, arcs, targets => do
    let n ← if next.isLeaf then pure join else assembleFrom join next [] []
    assembleFrom join others (⟨⟨b, b⟩, n⟩ :: arcs) targets
  | stop others, arcs, targets => do
    assembleFrom join others [] (join :: (← flush arcs targets))

/-- One of the texts. -/
def assemble (t : Trie) : Assembler Fragment := do
  let join ← Assembler.add (.goto 0)
  return ⟨← assembleFrom join t [] [], join⟩

end Trie

end Polyad.Pattern
