/-
Polyad/Pattern/Grammar.lean

Reading a pattern.  The text is read once from left to right; the groups that are open are kept as
a list, the innermost first, and each remembers what stood before it and the flags to which its
end returns.  Reading stops at the first fault.
-/
import Polyad.Pattern.Bracket
import Polyad.Pattern.Expr
import Polyad.Text.Letter

namespace Polyad.Pattern

/-- An expression and how deep its parts are nested. -/
structure Part where
  expr : Expr
  nesting : Nat
  /-- A part that only sets flags cannot be repeated. -/
  isDirective : Bool

namespace Part

def ofExpr (e : Expr) : Part := ⟨e, 0, false⟩

/-- How deep the deepest of several parts is nested. -/
def deepest (parts : List Part) : Nat := parts.foldl (fun n part => Nat.max n part.nesting) 0

/-- Parts in a row, given last first. -/
def inRow : List Part → Part
  | [] => ofExpr .empty
  | [part] => ⟨part.expr, part.nesting, false⟩
  | parts => ⟨.inRow (parts.reverse.map (·.expr)), 1 + deepest parts, false⟩

/-- Parts of which one is taken, given last first. -/
def choice : List Part → Part
  | [] => ofExpr .empty
  | [part] => part
  | parts => ⟨.choice (parts.reverse.map (·.expr)), 1 + deepest parts, false⟩

end Part

/-- A group that is open: what stood before it, and the flags outside of it. -/
structure OpenGroup where
  flags : Flags
  branches : List Part
  row : List Part
  /-- The number of the group, if its place in the text is marked. -/
  number : Option Nat

/-- How far a pattern has been read: the flags in force, the names of groups, how many groups are
marked, and in the group that is being read the branches and the parts of the last branch, last
first. -/
structure Progress where
  flags : Flags
  names : List Rest
  groupCount : Nat
  branches : List Part
  row : List Part
  outer : List OpenGroup

namespace Progress

/-- Nothing has been read. -/
def start : Progress := ⟨.atStart, [], 0, [], [], []⟩

def push (s : Progress) (part : Part) : Progress := { s with row := part :: s.row }

def pushExpr (s : Progress) (e : Expr) : Progress := s.push (.ofExpr e)

/-- The group that is being read, as one part. -/
def content (s : Progress) : Part := .choice (.inRow s.row :: s.branches)

/-- A character, in all its variants if case does not matter. -/
def pushChar (s : Progress) (c : Char) : Progress :=
  s.pushExpr (.ofChars (s.flags.foldChar c))

/-! ### Groups and flags -/

/-- Begins a group. -/
def enter (s : Progress) (flags : Flags) (number : Option Nat) : Progress :=
  { s with
    flags := flags
    branches := []
    row := []
    outer := ⟨s.flags, s.branches, s.row, number⟩ :: s.outer }

/-- Begins a group whose place is marked. -/
def enterMarked (s : Progress) : Progress :=
  { s with groupCount := s.groupCount + 1 }.enter s.flags (some (s.groupCount + 1))

/-- Ends a group. -/
def close (s : Progress) : Except Fault Progress :=
  match s.outer with
  | [] => .error .unopenedGroup
  | group :: outer =>
    let content := s.content
    let e := match group.number with
      | some number => .group number content.expr
      | none => content.expr
    .ok { s with
      flags := group.flags
      branches := group.branches
      row := ⟨e, content.nesting + 1, false⟩ :: group.row
      outer := outer }

/-- Reads the name of a group up to its closing angle. -/
def name (s : Progress) (rest : Rest) : Except Fault (Rest × Rest) :=
  let name := rest.takeWhile (· ≠ '>')
  let isNameChar (c : Char) : Bool :=
    c = '_' || c = '.' || c = '[' || c = ']' || CodeSet.alphabetic.contains c ||
      CodeSet.numeric.contains c
  match name, rest.dropWhile (· ≠ '>') with
  | [], [] => .error .unclosedName
  | [], _ => .error .invalidName
  | c :: cs, after =>
    if !(c = '_' || CodeSet.alphabetic.contains c) || !cs.all isNameChar then .error .invalidName
    else
      match after with
      | [] => .error .unclosedName
      | _ :: after =>
        if s.names.contains name then .error .repeatedName else .ok (name, after)

/-- The flags with one of them set or cleared. -/
def setFlag (flags : Flags) (value : Bool) : Char → Option Flags
  | 'i' => some { flags with anyCase := value }
  | 'm' => some { flags with multiLine := value }
  | 's' => some { flags with dotAll := value }
  | 'R' => some { flags with returns := value }
  | 'U' => some { flags with isLazy := value }
  | 'u' => some { flags with alphabet := if value then .world else .ascii }
  | 'x' => some { flags with verbose := value }
  | _ => none

/-- Reads flags up to a colon or a closing parenthesis; `seen` are the ones already read, last
first.  Says whether the end was a colon and whether any flag was read. -/
def flagsFrom (flags : Flags) (seen : List Char) : Rest → Except Fault (Flags × Bool × Bool × Rest)
  | [] => .error .unclosedFlags
  | c :: rest =>
    if c = ':' ∨ c = ')' then
      if seen.head? = some '-' then .error .danglingNegation
      else .ok (flags, c = ':', !seen.isEmpty, rest)
    else if seen.contains c then .error .repeatedFlag
    else if c = '-' then flagsFrom flags (c :: seen) rest
    else
      match setFlag flags (!seen.contains '-') c with
      | some flags => flagsFrom flags (c :: seen) rest
      | none => .error .unknownFlag

/-- Reads on after an opening parenthesis. -/
def group (s : Progress) (rest : Rest) : Except Fault (Progress × Rest) := do
  let named (after : Rest) : Except Fault (Progress × Rest) := do
    let (name, after) ← s.name after
    .ok ({ s with names := name :: s.names }.enterMarked, after)
  match s.flags.skip rest with
  | '?' :: '=' :: _ | '?' :: '!' :: _ | '?' :: '<' :: '=' :: _ | '?' :: '<' :: '!' :: _ =>
    .error .lookAround
  | '?' :: 'P' :: '<' :: after => named after
  | '?' :: '<' :: after => named after
  | '?' :: after =>
    let (flags, isGroup, hasFlags, after) ← flagsFrom s.flags [] after
    if isGroup then .ok (s.enter flags none, after)
    else if hasFlags then .ok ({ s with flags := flags }.push ⟨.empty, 0, true⟩, after)
    else .error .nothingToRepeat
  | rest => .ok (s.enterMarked, rest)

/-! ### Repetitions -/

/-- Repeats the last part.  A question mark behind a repetition turns its greed around. -/
def repeatLast (s : Progress) (least : Nat) (most : Option Nat) (rest : Rest) :
    Except Fault (Progress × Rest) :=
  match s.row with
  | [] => .error .nothingToRepeat
  | part :: row =>
    if part.isDirective then .error .nothingToRepeat
    else
      let (isLazy, rest) := match rest with
        | '?' :: rest => (!s.flags.isLazy, rest)
        | rest => (s.flags.isLazy, rest)
      let e := part.expr.times least most !isLazy
      .ok ({ s with row := ⟨e, part.nesting + 1, false⟩ :: row }, rest)

/-- The digits at the beginning of `rest`, and what follows them.  The count of characters bounds
the number of steps. -/
def digits (flags : Flags) : (count : Nat) → Rest → Rest × Rest
  | 0, rest => ([], rest)
  | _, [] => ([], [])
  | count + 1, c :: rest =>
    if c.isDigit then
      let (cs, rest) := digits flags count (flags.skip rest)
      (c :: cs, rest)
    else ([], c :: rest)

/-- A count, in blanks that do not matter. -/
def count (flags : Flags) (rest : Rest) : Except Fault (Nat × Rest) :=
  let rest := rest.dropWhile CodeSet.blank.contains
  let (digits, rest) := digits flags rest.length rest
  let rest := flags.skip (rest.dropWhile CodeSet.blank.contains)
  let n := digits.foldl (fun n c => 10 * n + (c.toNat - '0'.toNat)) 0
  if digits.isEmpty || UInt32.size ≤ n then .error .invalidCount else .ok (n, rest)

/-- Reads the counts of a repetition after its opening brace. -/
def counted (s : Progress) (rest : Rest) : Except Fault (Progress × Rest) := do
  let skip := s.flags.skip
  match s.row with
  | [] => .error .nothingToRepeat
  | part :: _ =>
    if part.isDirective then .error .nothingToRepeat
    let (least, rest) ← count s.flags (skip rest)
    match rest with
    | '\x7d' :: rest => s.repeatLast least (some least) (skip rest)
    | ',' :: rest =>
      match skip rest with
      | '\x7d' :: rest => s.repeatLast least none (skip rest)
      | rest =>
        let (most, rest) ← count s.flags rest
        match rest with
        | '\x7d' :: rest =>
          if most < least then .error .invalidCount else s.repeatLast least (some most) (skip rest)
        | _ => .error .unclosedCount
    | _ => .error .unclosedCount

/-! ### One step after another -/

/-- Any character, but for the ends of lines unless they are asked for. -/
def dot (flags : Flags) : Except Fault Expr := do
  let lineEnds : CodeSet :=
    if flags.dotAll then .empty
    else if flags.returns then .ofList ['\n', '\r']
    else .single '\n'
  .ok (.ofChars (← flags.complement lineEnds))

/-- Reads what begins with the character `c`. -/
def step (s : Progress) (c : Char) (rest : Rest) : Except Fault (Progress × Rest) := do
  match c with
  | '(' => s.group rest
  | ')' => .ok (← s.close, rest)
  | '|' => .ok ({ s with branches := .inRow s.row :: s.branches, row := [] }, rest)
  | '[' =>
    let (b, rest) ← Bracket.opening s.flags rest
    let (part, rest) ← b.read s.flags [] (rest.length + 1) rest
    .ok (s.push ⟨.ofChars part.chars, part.nesting, false⟩, rest)
  | '?' => s.repeatLast 0 (some 1) rest
  | '*' => s.repeatLast 0 none rest
  | '+' => s.repeatLast 1 none rest
  | '\x7b' => s.counted rest
  | '\\' =>
    let (escape, rest) ← Escape.read s.flags rest
    match escape with
    | .char c => .ok (s.pushChar c, rest)
    | .chars chars => .ok (s.pushExpr (.ofChars chars), rest)
    | .look l => .ok (s.pushExpr (.look l), rest)
  | '.' => .ok (s.pushExpr (← dot s.flags), rest)
  | '^' =>
    let l := if !s.flags.multiLine then .textStart
      else if s.flags.returns then .returnStart else .lineStart
    .ok (s.pushExpr (.look l), rest)
  | '$' =>
    let l := if !s.flags.multiLine then .textEnd
      else if s.flags.returns then .returnEnd else .lineEnd
    .ok (s.pushExpr (.look l), rest)
  | _ => .ok (s.pushChar c, rest)

/-- Reads the rest of a pattern.  The count of characters bounds the number of steps. -/
def run (s : Progress) : (count : Nat) → Rest → Except Fault Part
  | 0, _ => if s.outer.isEmpty then .ok s.content else .error .unclosedGroup
  | count + 1, rest => do
    match s.flags.skip rest with
    | [] => if s.outer.isEmpty then .ok s.content else .error .unclosedGroup
    | c :: rest =>
      let (s, rest) ← s.step c rest
      run s count rest

end Progress

/-- How deep the parts of a pattern may be nested. -/
def maxNesting : Nat := 250

/-- The expression for which a text stands. -/
def parse (text : String) : Except Fault Expr := do
  let cs := text.toList
  let part ← Progress.start.run (cs.length + 1) cs
  if maxNesting < part.nesting then .error .tooNested else .ok part.expr

end Polyad.Pattern
