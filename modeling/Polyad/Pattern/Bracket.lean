/-
Polyad/Pattern/Bracket.lean

Sets of characters in brackets.  Brackets nest; inside of them stand characters, ranges, escapes
and classes in colons, joined by the operations of sets, which are carried out from left to right.
Brackets that are open are kept as a list, the innermost first.
-/
import Polyad.Pattern.Escape

namespace Polyad.Pattern

/-- The operations between the parts of a bracket. -/
inductive SetOperation where
  | intersection | difference | exclusive
deriving DecidableEq, Repr

def SetOperation.apply : SetOperation → CodeSet → CodeSet → CodeSet
  | intersection => .intersection
  | difference => .difference
  | exclusive => .exclusive

/-- A set with how deep its parts are nested. -/
structure SetPart where
  chars : CodeSet
  nesting : Nat

/-- A bracket that is open. -/
structure Bracket where
  negated : Bool
  /-- What stands before the last operation, and the operation. -/
  pending : Option (SetPart × SetOperation)
  /-- What has been read after that, last first. -/
  items : List SetPart

namespace Bracket

/-- Several items as one part. -/
def together : List SetPart → SetPart
  | [] => ⟨.empty, 0⟩
  | [item] => item
  | items =>
    ⟨.unionAll (items.map (·.chars)), 1 + items.foldl (fun n item => Nat.max n item.nesting) 0⟩

/-- What has been read in the bracket so far. -/
def content (flags : Flags) (b : Bracket) : SetPart :=
  let items := together b.items.reverse
  match b.pending with
  | none => items
  | some (left, operation) =>
    ⟨operation.apply (flags.fold left.chars) (flags.fold items.chars),
      1 + Nat.max left.nesting items.nesting⟩

/-- The set of the whole bracket. -/
def close (flags : Flags) (b : Bracket) : Except Fault SetPart := do
  let content := b.content flags
  let chars := flags.fold content.chars
  .ok ⟨← if b.negated then flags.complement chars else .ok chars, 1 + content.nesting⟩

/-- The bracket with one more item. -/
def push (b : Bracket) (item : SetPart) : Bracket := { b with items := item :: b.items }

/-- The bracket with one more item that is not nested. -/
def pushChars (b : Bracket) (s : CodeSet) : Bracket := b.push ⟨s, 0⟩

/-- The bracket with an operation behind what has been read. -/
def operate (flags : Flags) (b : Bracket) (operation : SetOperation) : Bracket :=
  { b with pending := some (b.content flags, operation), items := [] }

/-- Adds the hyphens that come first, which stand for themselves.  The count of characters bounds
the number of steps. -/
def hyphens (flags : Flags) (b : Bracket) : (count : Nat) → Rest → Bracket × Rest
  | count + 1, '-' :: rest => hyphens flags (b.pushChars (.single '-')) count (flags.skip rest)
  | _, rest => (b, rest)

/-- The bracket that begins after an opening bracket: a circumflex negates it, hyphens at its start
stand for themselves, and so does a closing bracket if it comes first. -/
def opening (flags : Flags) (rest : Rest) : Except Fault (Bracket × Rest) :=
  let (negated, rest) := match flags.skip rest with
    | '^' :: rest => (true, flags.skip rest)
    | rest => (false, rest)
  let (b, rest) := hyphens flags ⟨negated, none, []⟩ rest.length rest
  match b.items, rest with
  | _, [] => .error .unclosedClass
  | [], ']' :: rest =>
    match flags.skip rest with
    | [] => .error .unclosedClass
    | rest => .ok (b.pushChars (.single ']'), rest)
  | _, rest => .ok (b, rest)

/-- Whether a class in colons is negated, its characters and what follows it, read after its
opening bracket. -/
def colons? (rest : Rest) : Option (Bool × CodeSet × Rest) :=
  match rest with
  | ':' :: rest =>
    let (negated, rest) := match rest with
      | '^' :: rest => (true, rest)
      | _ => (false, rest)
    match rest.dropWhile (· ≠ ':') with
    | ':' :: ']' :: after =>
      (NamedClass.ofName? (String.ofList (rest.takeWhile (· ≠ ':')))).map (negated, ·, after)
    | _ => none
  | _ => none

/-- One character or escape. -/
def item (flags : Flags) : Rest → Except Fault (Escape × Rest)
  | [] => .error .unclosedClass
  | '\\' :: rest => Escape.read flags rest
  | c :: rest => .ok (.char c, rest)

/-- A character, a set, or a range from one character to another. -/
def range (flags : Flags) (rest : Rest) : Except Fault (CodeSet × Rest) := do
  let (first, rest) ← item flags rest
  let rest := flags.skip rest
  let alone : Except Fault (CodeSet × Rest) :=
    match first with
    | .char c => do .ok (.single (← flags.member c), rest)
    | .chars s => .ok (s, rest)
    | .look _ => .error .notInClass
  match rest with
  | [] => .error .unclosedClass
  | '-' :: behind =>
    let peeked := flags.peek behind
    if peeked = some ']' ∨ peeked = some '-' then alone
    else
      match flags.skip behind with
      | [] => .error .unclosedClass
      | behind =>
        let (last, rest) ← item flags behind
        match first, last with
        | .char c, .char d =>
          if c ≤ d then .ok (.range (← flags.member c) (← flags.member d), rest)
          else .error .invalidRange
        | _, _ => .error .notInClass
  | _ => alone

/-- Reads on with the brackets `b` and `outer` open, `b` being the innermost, and gives the outermost
one.  The count of characters bounds the number of steps. -/
def read (flags : Flags) (b : Bracket) (outer : List Bracket) :
    (count : Nat) → Rest → Except Fault (SetPart × Rest)
  | 0, _ => .error .unclosedClass
  | count + 1, rest => do
    match flags.skip rest with
    | [] => .error .unclosedClass
    | ']' :: rest =>
      let part ← b.close flags
      match outer with
      | [] => .ok (part, rest)
      | b :: outer => read flags (b.push part) outer count rest
    | '[' :: inner =>
      match colons? inner with
      | some (negated, s, rest) =>
        let s := flags.fold s
        let s ← if negated then flags.complement s else .ok s
        read flags (b.pushChars s) outer count rest
      | none =>
        let (b', rest) ← opening flags inner
        read flags b' (b :: outer) count rest
    | '&' :: '&' :: rest => read flags (b.operate flags .intersection) outer count rest
    | '-' :: '-' :: rest => read flags (b.operate flags .difference) outer count rest
    | '~' :: '~' :: rest => read flags (b.operate flags .exclusive) outer count rest
    | rest =>
      let (s, rest) ← range flags rest
      read flags (b.pushChars s) outer count rest

end Bracket

end Polyad.Pattern
