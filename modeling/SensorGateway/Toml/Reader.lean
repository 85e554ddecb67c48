import SensorGateway.Toml.Lexeme
import SensorGateway.Toml.Tree

/-!
# Reading TOML

Version 1.0 of the format.  A text is a row of lines, each of which is empty, a comment, a header or
a key with its value; a value may go over several lines.  A byte order mark in front is skipped.
-/

namespace SensorGateway.Toml

open Lexeme

/-- The parts of a key in front of the last, and the last. -/
def splitKey (parts : List String) : List String × String :=
  (parts.dropLast, parts.getLastD "")

/-- A value that begins with a digit or a sign. -/
def numeric : Scan Toml := do
  match ← Scan.optional Lexeme.dateTime with
  | some () => return .dateTime
  | none =>
      match ← Scan.optional fractional with
      | some x => return .float x
      | none =>
          match ← Scan.optional specialFloat with
          | some x => return .float x
          | none => return .integer (← Lexeme.integer)

/-- The items of an array, its opening bracket being taken. -/
def arrayItems (value : Scan Toml) : Scan (List Toml) := do
  let items ← Scan.repeated do
    space
    if (← Scan.peek) == some ']' then return none
    let item ← value
    space
    if !(← Scan.char? ',') && (← Scan.peek) != some ']' then failure
    return some item
  Scan.char ']'
  return items

/-- The keys and values of an inline table, its opening brace being taken. -/
def inlineEntries (value : Scan Toml) : Scan (List (List String × Toml)) := do
  let entry : Scan (List String × Toml) := do
    let parts ← key
    Scan.char '='
    blanks
    let item ← value
    blanks
    return (parts, item)
  blanks
  if ← Scan.char? '\x7d' then return []
  let first ← entry
  let others ← Scan.repeated do
    if ← Scan.char? ',' then return some (← entry) else return none
  Scan.char '\x7d'
  return first :: others

/-- The table of keys with values. -/
def inlineTable (entries : List (List String × Toml)) : Option Toml := do
  let tree ← entries.foldlM (fun tree (parts, item) =>
    let (path, last) := splitKey parts
    Tree.assign last item path tree) ([] : Tree)
  return .table (entriesToToml tree)

/-- A value that holds arrays and inline tables at most `depth` deep. -/
def value (depth : Nat) : Scan Toml := do
  match ← Scan.peek with
  | some '"' | some '\'' => return .string (← anyString)
  | some '[' =>
      match depth with
      | 0 => failure
      | depth + 1 =>
          Scan.char '['
          return .array (← arrayItems (value depth))
  | some '\x7b' =>
      match depth with
      | 0 => failure
      | depth + 1 =>
          Scan.char '\x7b'
          let entries ← inlineEntries (value depth)
          (inlineTable entries : Option Toml)
  | some 't' => Scan.literal "true"; return .boolean true
  | some 'f' => Scan.literal "false"; return .boolean false
  | some 'i' | some 'n' => return .float (← specialFloat)
  | _ => numeric

/-- Takes a header and opens its table. -/
def header (d : Document) : Scan Document := do
  Scan.char '['
  let isRow ← Scan.char? '['
  let (path, last) := splitKey (← key)
  Scan.literal (if isRow then "]]" else "]")
  lineEnd
  (if isRow then d.openRow path last else d.openTable path last : Option Document)

/-- Takes a key with its value. -/
def assignment (d : Document) : Scan Document := do
  let (path, last) := splitKey (← key)
  Scan.char '='
  blanks
  let item ← value maxDepth
  lineEnd
  (d.assign path last item : Option Document)

/-- Takes the lines of a document, of which there are at most `fuel`. -/
def lines : Nat → Document → Scan Document
  | 0, _ => failure
  | fuel + 1, d => do
      blanks
      match ← Scan.peek with
      | none => return d
      | some '[' => lines fuel (← header d)
      | some c =>
          if c == '#' || c == '\n' || c == '\r' then
            lineEnd
            lines fuel d
          else lines fuel (← assignment d)

/-- The table that a text says. -/
def parse? (text : String) : Option (List (String × Toml)) := do
  let scan : Scan Document := do
    let _ ← Scan.char? '\uFEFF'
    lines ((← Scan.remaining).length + 1) {}
  let d ← Scan.run scan text
  return entriesToToml (← d.close)

end SensorGateway.Toml
