/-
Polyad/Document.lean

Documents: the data of the text format in which tuples are written and read, with its compact
text.  A number without a fraction or an exponent is an integer; a number that has no text of its
own (an infinity, a NaN) is written as `null`.
-/
import Polyad.Decimal.Layout
import Polyad.Text.Quoted

namespace Polyad

/-- A document. -/
inductive Document where
  | null
  | bool (value : Bool)
  | integer (value : Int)
  | number {p : Precision} (value : Binary p)
  | string (value : String)
  | array (items : List Document)
  | object (fields : List (String × Document))
deriving Inhabited

namespace Document

/-- How a character is written inside a string. -/
def escape (c : Char) : String :=
  if c = '"' then "\\\""
  else if c = '\\' then "\\\\"
  else if c = '\n' then "\\n"
  else if c = '\r' then "\\r"
  else if c = '\t' then "\\t"
  else if c = '\x08' then "\\b"
  else if c = '\x0c' then "\\f"
  else if c.toNat < 0x20 then
    "\\u00" ++ (if c.toNat < 0x10 then "0" else "") ++ Quoted.hex c.toNat
  else c.toString

/-- A string in quotes. -/
def quote (s : String) : String :=
  "\"" ++ String.join (s.toList.map escape) ++ "\""

/-- The text of a number. -/
def numberText {p : Precision} (x : Binary p) : String :=
  if x.isFinite then Decimal.Layout.document.write x else "null"

mutual

/-- The text without blanks. -/
def compact : Document → String
  | .null => "null"
  | .bool b => if b then "true" else "false"
  | .integer n => toString n
  | .number x => numberText x
  | .string s => quote s
  | .array items => "[" ++ ",".intercalate (compactItems items) ++ "]"
  | .object fields => "\x7b" ++ ",".intercalate (compactFields fields) ++ "\x7d"

def compactItems : List Document → List String
  | [] => []
  | item :: items => compact item :: compactItems items

def compactFields : List (String × Document) → List String
  | [] => []
  | (name, value) :: fields => (quote name ++ ":" ++ compact value) :: compactFields fields

end

/-- What a document is called where something else was asked for. -/
def found : Document → String
  | .null => "null"
  | .bool b => "boolean `" ++ (if b then "true" else "false") ++ "`"
  | .integer n => "integer `" ++ toString n ++ "`"
  | .number x => "floating point `" ++ numberText x ++ "`"
  | .string s => "string " ++ Quoted.text s
  | .array _ => "sequence"
  | .object _ => "map"

end Document

end Polyad
