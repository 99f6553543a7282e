/-
Polyad/Pattern/Expr.lean

Pattern expressions in a normal form.

Idea.  The functions `ofChars`, `times`, `inRow` and `choice` build an expression from parts in
normal form and say the same with as few parts as they can: rows and choices are flat, literals
that meet are one literal, a choice among characters is a set, and branches that begin alike share
their beginning.  How large a pattern is when it is assembled is a function of this form.
-/
import Polyad.Pattern.Direction
import Polyad.Pattern.Look

namespace Polyad.Pattern

/-- A pattern expression. -/
inductive Expr where
  | empty
  /-- Characters one after another, at least one. -/
  | literal (text : List Char)
  /-- One character of a set. -/
  | chars (s : CodeSet)
  | look (l : Look)
  /-- At least `least` times `e`, and at most `most` times if that is given.  A greedy repetition
  prefers to go on; this chooses among matches. -/
  | repeated (e : Expr) (least : Nat) (most : Option Nat) (isGreedy : Bool)
  /-- An expression whose place in the text is marked, by the number of the mark. -/
  | group (number : Nat) (e : Expr)
  | seq (parts : List Expr)
  | alt (branches : List Expr)

namespace Expr

/-! ### Properties -/

mutual

/-- Whether two expressions are written alike. -/
def same : Expr → Expr → Bool
  | empty, empty => true
  | literal s, literal t => s == t
  | chars s, chars t => s == t
  | look l, look m => l == m
  | repeated e least most isGreedy, repeated e' least' most' isGreedy' =>
    least == least' && most == most' && isGreedy == isGreedy' && same e e'
  | group n e, group n' e' => n == n' && same e e'
  | seq parts, seq parts' => sameEach parts parts'
  | alt branches, alt branches' => sameEach branches branches'
  | _, _ => false

/-- Whether the expressions of two lists are written alike, one by one. -/
def sameEach : List Expr → List Expr → Bool
  | [], [] => true
  | e :: es, e' :: es' => same e e' && sameEach es es'
  | _, _ => false

end

mutual

/-- Whether the expression takes no text, whatever it matches. -/
def isZeroWidth : Expr → Bool
  | empty | look _ => true
  | literal _ | chars _ => false
  | repeated e _ _ _ | group _ e => isZeroWidth e
  | seq parts => allZeroWidth parts
  | alt branches => allZeroWidth branches

/-- Whether no expression of a list takes any text. -/
def allZeroWidth : List Expr → Bool
  | [] => true
  | e :: es => isZeroWidth e && allZeroWidth es

end

mutual

/-- The length of the shortest text that the expression takes; none if a set without characters
keeps it from having one. -/
def leastLength : Expr → Option Nat
  | empty | look _ => some 0
  | literal text => some text.length
  | chars s => if s.isEmpty then none else some 1
  | repeated e least _ _ => (leastLength e).map (least * ·)
  | group _ e => leastLength e
  | seq parts => (leastLengths parts).map List.sum
  | alt branches => (leastLengths branches).bind List.min?

/-- The shortest lengths of all expressions of a list, if each has one. -/
def leastLengths : List Expr → Option (List Nat)
  | [] => some []
  | e :: es => do some ((← leastLength e) :: (← leastLengths es))

end

/-- Whether the first of several parts that takes text, or one before it, needs the condition;
each part is given by whether it needs it and whether it takes no text. -/
def isNeededInRow : List (Bool × Bool) → Bool
  | [] => false
  | (isNeeded, isZeroWidth) :: parts => isNeeded || (isZeroWidth && isNeededInRow parts)

mutual

/-- Whether the condition `l` has to hold where a match begins, or in the other direction where it
ends. -/
def needs (l : Look) (d : Direction) : Expr → Bool
  | empty | literal _ | chars _ => false
  | look m => l == m
  | repeated e least _ _ => 0 < least && needs l d e
  | group _ e => needs l d e
  | seq parts => isNeededInRow (d.order (needsEach l d parts))
  | alt branches => (needsEach l d branches).all (·.1)

/-- For every expression of a list, whether it needs the condition and whether it takes no text. -/
def needsEach (l : Look) (d : Direction) : List Expr → List (Bool × Bool)
  | [] => []
  | e :: es => (needs l d e, isZeroWidth e) :: needsEach l d es

end

/-! ### Building expressions -/

/-- One character of a set. -/
def ofChars (s : CodeSet) : Expr :=
  match s.single? with
  | some c => literal [c]
  | none => chars s

/-- A repetition.  What takes no text need not be repeated more than once. -/
def times (e : Expr) (least : Nat) (most : Option Nat) (isGreedy : Bool) : Expr :=
  let (least, most) :=
    if e.isZeroWidth then (Nat.min least 1, some (Nat.min (most.getD 1) 1)) else (least, most)
  if most = some 0 then empty
  else if least = 1 ∧ most = some 1 then e
  else repeated e least most isGreedy

/-- Puts `e` before the parts of a row; literals that meet become one. -/
def joinLiteral : Expr → List Expr → List Expr
  | literal s, literal t :: parts => literal (s ++ t) :: parts
  | e, parts => e :: parts

/-- The parts of an expression in a row. -/
def parts : Expr → List Expr
  | empty => []
  | seq parts => parts
  | e => [e]

/-- One expression after another. -/
def inRow (es : List Expr) : Expr :=
  match (es.flatMap parts).foldr joinLiteral [] with
  | [] => empty
  | [e] => e
  | parts => seq parts

/-- The branches of an expression in a choice. -/
def branches : Expr → List Expr
  | alt branches => branches
  | e => [e]

/-- The set of characters among which several branches choose, if that is all they do. -/
def asChars? (branches : List Expr) : Option CodeSet :=
  let single? : Expr → Option Char
    | literal [c] => some c
    | _ => none
  let set? : Expr → Option CodeSet
    | chars s => some s
    | _ => none
  match branches.mapM single? with
  | some cs => some (.ofList cs)
  | none => (branches.mapM set?).map .unionAll

/-- One of several expressions, however they begin. -/
def plainChoice (es : List Expr) : Expr :=
  match es.flatMap branches with
  | [] => chars .empty
  | [e] => e
  | branches =>
    match asChars? branches with
    | some s => ofChars s
    | none => alt branches

/-- What two rows have in common at their beginning. -/
def sharedParts : List Expr → List Expr → List Expr
  | e :: es, e' :: es' => if same e e' then e :: sharedParts es es' else []
  | _, _ => []

/-- What several branches have in common at their beginning, if they are all rows. -/
def sharedStart (branches : List Expr) : List Expr :=
  let parts? : Expr → Option (List Expr)
    | seq parts => some parts
    | _ => none
  match branches.mapM parts? with
  | some (row :: rows) => rows.foldl sharedParts row
  | _ => []

/-- One of several expressions.  Rows that begin alike share their beginning. -/
def choice (es : List Expr) : Expr :=
  match plainChoice es with
  | alt branches =>
    match sharedStart branches with
    | [] => alt branches
    | shared =>
      let rest := branches.map fun e => inRow (e.parts.drop shared.length)
      inRow (shared ++ [plainChoice rest])
  | e => e

end Expr

end Polyad.Pattern
