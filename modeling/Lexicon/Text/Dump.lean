/-
Structured dumps of values. A dump is a tree of named tuples, records, lists and maps; `compact` writes it on one
line, `indented` gives every part a line of its own.
-/

namespace Lexicon

/-- the shape of a value -/
inductive Dump where
  | atom (text : String)
  | tuple (name : String) (fields : List Dump)
  | record (name : String) (fields : List (String × Dump))
  | list (items : List Dump)
  | map (entries : List (Dump × Dump))

namespace Dump

/-- an optional value -/
def option : Option Dump → Dump
  | none => .atom "None"
  | some d => .tuple "Some" [d]

mutual

/-- the value on one line -/
def compact : Dump → String
  | .atom text => text
  | .tuple name [] => name
  | .tuple name fields => name ++ "(" ++ String.intercalate ", " (compactAll fields) ++ ")"
  | .record name fields => name ++ " \x7b " ++ String.intercalate ", " (compactFields fields) ++ " \x7d"
  | .list items => "[" ++ String.intercalate ", " (compactAll items) ++ "]"
  | .map entries => "\x7b" ++ String.intercalate ", " (compactEntries entries) ++ "\x7d"

/-- values on one line each -/
def compactAll : List Dump → List String
  | [] => []
  | d :: ds => d.compact :: compactAll ds

/-- named values on one line each -/
def compactFields : List (String × Dump) → List String
  | [] => []
  | (name, d) :: ds => (name ++ ": " ++ d.compact) :: compactFields ds

/-- entries on one line each -/
def compactEntries : List (Dump × Dump) → List String
  | [] => []
  | (k, d) :: ds => (k.compact ++ ": " ++ d.compact) :: compactEntries ds

end

/-- the blanks in front of a line at a depth -/
def margin (depth : Nat) : String := String.ofList (List.replicate (4 * depth) ' ')

/-- parts between brackets, each on lines of its own -/
def block (depth : Nat) (opening closing : String) (parts : List String) : String :=
  match parts with
  | [] => opening ++ closing
  | parts =>
    opening ++ "\n" ++ String.join (parts.map fun p => margin (depth + 1) ++ p ++ ",\n") ++ margin depth ++ closing

mutual

/-- the value with a line for each part, standing at a depth -/
def indentedAt (depth : Nat) : Dump → String
  | .atom text => text
  | .tuple name [] => name
  | .tuple name fields => name ++ block depth "(" ")" (indentedAll (depth + 1) fields)
  | .record name fields => name ++ " " ++ block depth "\x7b" "\x7d" (indentedFields (depth + 1) fields)
  | .list items => block depth "[" "]" (indentedAll (depth + 1) items)
  | .map entries => block depth "\x7b" "\x7d" (indentedEntries (depth + 1) entries)

/-- values with a line for each part -/
def indentedAll (depth : Nat) : List Dump → List String
  | [] => []
  | d :: ds => d.indentedAt depth :: indentedAll depth ds

/-- named values with a line for each part -/
def indentedFields (depth : Nat) : List (String × Dump) → List String
  | [] => []
  | (name, d) :: ds => (name ++ ": " ++ d.indentedAt depth) :: indentedFields depth ds

/-- entries with a line for each part -/
def indentedEntries (depth : Nat) : List (Dump × Dump) → List String
  | [] => []
  | (k, d) :: ds => (k.indentedAt depth ++ ": " ++ d.indentedAt depth) :: indentedEntries depth ds

end

/-- the value with a line for each part -/
def indented (d : Dump) : String := d.indentedAt 0

end Dump

end Lexicon
