/-
Polyad/Pattern/Assembly.lean

The program of an expression.

A program can be put together for either direction.  Only a program that is read forward marks the
places of groups.
-/
import Polyad.Pattern.Expr
import Polyad.Pattern.Sharing
import Polyad.Pattern.Trie

namespace Polyad.Pattern

namespace Expr

/-- The bytes of a text in the order in which they are met. -/
def bytesOf (d : Direction) (text : List Char) : List UInt8 :=
  d.order (text.flatMap ByteRun.bytes)

/-- The texts among which several branches choose, if that is all they do. -/
def asTexts? (branches : List Expr) : Option (List (List Char)) :=
  branches.mapM fun
    | literal text => some text
    | _ => none

/-- A fragment whose place in the text is marked. -/
def marked (d : Direction) (part : Assembler Fragment) : Assembler Fragment :=
  match d with
  | .forward =>
    .inRow [Assembler.single (.mark 0), part, Assembler.single (.mark 0)]
  | .backward => part

mutual

/-- The fragment of an expression. -/
def fragment (d : Direction) : Expr → Assembler Fragment
  | empty => .single (.goto 0)
  | literal text => .inRow ((bytesOf d text).map fun b => .single (.byte ⟨⟨b, b⟩, 0⟩))
  | chars s => .char d s
  | look l => .single (.look l 0)
  | repeated e least most _ => .repeated (e.leastLength.any (0 < ·)) (fragment d e) least most
  | group _ e => marked d (fragment d e)
  | seq parts => .inRow (d.order (fragments d parts))
  | alt branches =>
    match asTexts? branches with
    | some texts => (Trie.ofList (texts.map (bytesOf d))).assemble
    | none => .oneOf (fragments d branches)

/-- The fragments of several expressions. -/
def fragments (d : Direction) : List Expr → List (Assembler Fragment)
  | [] => []
  | e :: es => fragment d e :: fragments d es

end

/-- Where a search begins.  Unless a match has to begin where the text does, any bytes may come
first. -/
def entry (isAnchored : Bool) : Assembler Fragment := do
  if isAnchored then .single (.goto 0)
  else .anyTimes true do
    let join ← .add (.goto 0)
    return ⟨← .add (.bytes [⟨.all, join⟩]), join⟩

/-- The condition on the edge of the text from which a program reads. -/
def edge : Direction → Look
  | .forward => .textStart
  | .backward => .textEnd

/-- The program of an expression. -/
def program (d : Direction) (e : Expr) : Except Fault Program :=
  Program.assemble do
    let entry ← entry (e.needs (edge d) d)
    let f ← marked d (e.fragment d)
    let accept ← .add .accept
    .connect f.finish accept
    .connect entry.finish f.start
    return entry.start

end Expr

end Polyad.Pattern
