/-
Polyad/Text/Quoted.lean

Quoted text.  Inside quotes a backslash stands before itself, before the quote in use and before
the letters for the common controls; a character that would not show as itself is written as its
number in hexadecimal.
-/
import Polyad.Text.Printing

namespace Polyad.Quoted

/-- The lower-case hexadecimal digits of `n`. -/
def hex (n : Nat) : String :=
  String.ofList (Nat.toDigits 16 n)

/-- How the character `c` is written between two marks `mark`. -/
def escape (mark c : Char) : String :=
  if c = '\x00' then "\\0"
  else if c = '\t' then "\\t"
  else if c = '\r' then "\\r"
  else if c = '\n' then "\\n"
  else if c = '\\' ∨ c = mark then "\\" ++ c.toString
  else if CodeSet.extending.contains c || CodeSet.unprintable.contains c then
    "\\u\x7b" ++ hex c.toNat ++ "\x7d"
  else c.toString

/-- A text between two marks. -/
def between (mark : Char) (text : List Char) : String :=
  mark.toString ++ String.join (text.map (escape mark)) ++ mark.toString

/-- A text in double quotes. -/
def text (s : String) : String :=
  between '"' s.toList

/-- A character in single quotes. -/
def char (c : Char) : String :=
  between '\'' [c]

end Polyad.Quoted
