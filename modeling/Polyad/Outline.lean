/-
Polyad/Outline.lean

The outline of a value: its structure with the names and texts by which it is shown, before any
decision on lines.  An outline is rendered on one line (`compact`), or with every item on a line of
its own (`expanded`).
-/

namespace Polyad

/-- The structure in which a value is shown. -/
inductive Outline where
  /-- Shown as this text. -/
  | atom (text : String)
  /-- Items in brackets. -/
  | list (items : List Outline)
  /-- Items in parentheses after a name, the name alone if there are none. -/
  | tuple (name : String) (items : List Outline)
  /-- Named fields in braces after a name. -/
  | record (name : String) (fields : List (String × Outline))

namespace Outline

mutual

/-- The outline on one line. -/
def compact : Outline → String
  | .atom text => text
  | .list items => "[" ++ ", ".intercalate (compactItems items) ++ "]"
  | .tuple name [] => name
  | .tuple name (item :: items) =>
    name ++ "(" ++ ", ".intercalate (compact item :: compactItems items) ++ ")"
  | .record name fields => name ++ " \x7b " ++ ", ".intercalate (compactFields fields) ++ " \x7d"

def compactItems : List Outline → List String
  | [] => []
  | item :: items => compact item :: compactItems items

def compactFields : List (String × Outline) → List String
  | [] => []
  | (name, value) :: fields => (name ++ ": " ++ compact value) :: compactFields fields

end

/-- A new line, `level` levels in. -/
def newline (level : Nat) : String :=
  "\n" ++ String.ofList (List.replicate (4 * level) ' ')

/-- Items between two marks, each on a line of its own and followed by a comma. -/
def block (level : Nat) (opening closing : String) (items : List String) : String :=
  opening ++ String.join (items.map fun item => newline (level + 1) ++ item ++ ",") ++
    newline level ++ closing

mutual

/-- The outline over many lines; the first line is taken to be `level` levels in. -/
def expandedAt (level : Nat) : Outline → String
  | .atom text => text
  | .list [] => "[]"
  | .list (item :: items) =>
    block level "[" "]" (expandedAt (level + 1) item :: expandedItems (level + 1) items)
  | .tuple name [] => name
  | .tuple name (item :: items) =>
    block level (name ++ "(") ")"
      (expandedAt (level + 1) item :: expandedItems (level + 1) items)
  | .record name fields =>
    block level (name ++ " \x7b") "\x7d" (expandedFields (level + 1) fields)

def expandedItems (level : Nat) : List Outline → List String
  | [] => []
  | item :: items => expandedAt level item :: expandedItems level items

def expandedFields (level : Nat) : List (String × Outline) → List String
  | [] => []
  | (name, value) :: fields =>
    (name ++ ": " ++ expandedAt level value) :: expandedFields level fields

end

/-- The outline with every item on a line of its own. -/
def expanded (o : Outline) : String :=
  expandedAt 0 o

end Outline

end Polyad
