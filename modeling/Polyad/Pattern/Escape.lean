/-
Polyad/Pattern/Escape.lean

What a backslash introduces: a character, a set of characters or a condition.  Every reader here
takes the text behind what has been read and gives what it found and the text that is left.
-/
import Polyad.Pattern.Flags
import Polyad.Pattern.NamedClass

namespace Polyad.Pattern

/-- What an escape stands for. -/
inductive Escape where
  | char (c : Char)
  | chars (s : CodeSet)
  | look (l : Look)

namespace Escape

/-! ### Numbers of characters -/

/-- The value of a hexadecimal digit. -/
def hexDigit? (c : Char) : Option Nat :=
  if c.isDigit then some (c.toNat - '0'.toNat)
  else if 'a' ≤ c ∧ c ≤ 'f' then some (c.toNat - 'a'.toNat + 10)
  else if 'A' ≤ c ∧ c ≤ 'F' then some (c.toNat - 'A'.toNat + 10)
  else none

/-- The character with a number, unless there is none. -/
def ofCode (n : Nat) : Except Fault Char :=
  if n.isValidChar then .ok (Char.ofNat n) else .error .invalidCode

/-- A number of so many hexadecimal digits, put behind `n`. -/
def fixedCode (flags : Flags) : (digits : Nat) → (n : Nat) → Rest → Except Fault (Char × Rest)
  | 0, n, rest => do .ok (← ofCode n, rest)
  | _ + 1, _, [] => .error .danglingEscape
  | digits + 1, n, c :: rest =>
    match hexDigit? c with
    | some d => fixedCode flags digits (16 * n + d) (flags.skip rest)
    | none => .error .invalidCode

/-- A number of hexadecimal digits up to a closing brace.  The count of characters bounds the
number of steps. -/
def bracedCode (flags : Flags) (n : Option Nat) : (count : Nat) → Rest → Except Fault (Char × Rest)
  | 0, _ | _, [] => .error .danglingEscape
  | count + 1, c :: rest =>
    if c = '\x7d' then
      match n with
      | some n => do .ok (← ofCode n, flags.skip rest)
      | none => .error .invalidCode
    else
      match hexDigit? c with
      | some d => bracedCode flags (some (16 * n.getD 0 + d)) count (flags.skip rest)
      | none => .error .invalidCode

/-- A number of hexadecimal digits, in braces or of fixed length.  Two digits without braces give a
byte, which in the alphabet of ASCII has to be one of its characters. -/
def code (flags : Flags) (digits : Nat) (rest : Rest) : Except Fault (Escape × Rest) := do
  match flags.skip rest with
  | [] => .error .danglingEscape
  | '\x7b' :: rest =>
    let (c, rest) ← bracedCode flags none (rest.length + 1) (flags.skip rest)
    .ok (.char c, rest)
  | rest =>
    let (c, rest) ← fixedCode flags digits 0 rest
    .ok (.char (← if digits = 2 then flags.member c else .ok c), rest)

/-! ### Word boundaries -/

/-- The kind of word boundary with this name. -/
def boundary? : String → Option WordEdge
  | "start" => some .start
  | "end" => some .finish
  | "start-half" => some .startHalf
  | "end-half" => some .finishHalf
  | _ => none

/-- The characters of a name of letters and hyphens, and what follows it.  The count of characters
bounds the number of steps. -/
def boundaryName (flags : Flags) : (count : Nat) → Rest → Rest × Rest
  | 0, rest => ([], rest)
  | _, [] => ([], [])
  | count + 1, c :: rest =>
    if c.isAlpha || c = '-' then
      let (name, rest) := boundaryName flags count (flags.skip rest)
      (c :: name, rest)
    else ([], c :: rest)

/-- A word boundary, with its kind in braces; other braces belong to a repetition. -/
def wordBoundary (flags : Flags) (rest : Rest) : Except Fault (Escape × Rest) :=
  let look (edge : WordEdge) : Escape := .look (.word flags.alphabet edge)
  match rest with
  | '\x7b' :: inner =>
    match flags.skip inner with
    | [] => .error .unclosedCount
    | inner =>
      match boundaryName flags inner.length inner with
      | ([], _) => .ok (look .boundary, rest)
      | (name, '\x7d' :: rest) =>
        match boundary? (String.ofList name) with
        | some edge => .ok (look edge, rest)
        | none => .error .unknownBoundary
      | _ => .error .unknownBoundary
  | _ => .ok (look .boundary, rest)

/-! ### All escapes -/

/-- What the text after a backslash stands for.  A sign stands for itself; a letter or a digit has
a meaning of its own or is refused. -/
def read (flags : Flags) : Rest → Except Fault (Escape × Rest)
  | [] => .error .danglingEscape
  | c :: rest =>
    let inside (s : Alphabet → CodeSet) : Except Fault (Escape × Rest) :=
      .ok (.chars (s flags.alphabet), rest)
    let outside (s : Alphabet → CodeSet) : Except Fault (Escape × Rest) := do
      .ok (.chars (← flags.complement (s flags.alphabet)), rest)
    let word (edge : WordEdge) : Except Fault (Escape × Rest) :=
      .ok (.look (.word flags.alphabet edge), rest)
    match c with
    | 'd' => inside NamedClass.digit
    | 'D' => outside NamedClass.digit
    | 's' => inside NamedClass.blank
    | 'S' => outside NamedClass.blank
    | 'w' => inside NamedClass.word
    | 'W' => outside NamedClass.word
    | 'x' => code flags 2 rest
    | 'u' => code flags 4 rest
    | 'U' => code flags 8 rest
    | 'a' => .ok (.char '\x07', rest)
    | 'f' => .ok (.char '\x0c', rest)
    | 't' => .ok (.char '\t', rest)
    | 'n' => .ok (.char '\n', rest)
    | 'r' => .ok (.char '\r', rest)
    | 'v' => .ok (.char '\x0b', rest)
    | 'A' => .ok (.look .textStart, rest)
    | 'z' => .ok (.look .textEnd, rest)
    | 'b' => wordBoundary flags rest
    | 'B' => word .notBoundary
    | '<' => word .start
    | '>' => word .finish
    | _ =>
      if c.isDigit then .error .backreference
      else if c.isAlpha || 0x80 ≤ c.toNat then .error .unknownEscape
      else .ok (.char c, rest)

end Escape

end Polyad.Pattern
