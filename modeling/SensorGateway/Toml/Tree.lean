/-!
# How keys and headers make tables

What a TOML text says, once it has been read, is a value.  Nothing in a configuration is a date, so
of a date or time only the fact remains.

A table comes about in three ways: a header opens it, a key with dots creates it in passing, or a
longer header does.  The last two can still be gone on with, each in its own way only; a table that
was written out is closed.  `Tree` is a table under construction, and each way to add to it refuses
what would define something twice.
-/

namespace SensorGateway

/-- A TOML value. -/
inductive Toml
  | string (s : String)
  /-- An integer of 64 bits. -/
  | integer (n : Int)
  | float (x : Float)
  | boolean (b : Bool)
  /-- A date, a time, or both. -/
  | dateTime
  | array (items : List Toml)
  | table (entries : List (String × Toml))
  deriving Inhabited

namespace Toml

/-- What stands under a key of a table under construction. -/
inductive Node
  /-- A value that was written out. -/
  | leaf (value : Toml)
  /-- A table, with the ways in which it can be gone on with: whether it was only created in passing,
  and whether by a key with dots. -/
  | branch (passing dotted : Bool) (entries : List (String × Node))
  /-- A row of tables, each opened by a header. -/
  | row (items : List Node)

/-- A table under construction. -/
abbrev Tree := List (String × Node)

namespace Tree

/-- What stands under a key. -/
def find? (t : Tree) (key : String) : Option Node := t.lookup key

/-- Puts something else under a key that is there. -/
def replace (t : Tree) (key : String) (node : Node) : Tree :=
  t.map fun (k, old) => if k = key then (k, node) else (k, old)

/-- Adds something under a key that is not there. -/
def add (t : Tree) (key : String) (node : Node) : Tree := t ++ [(key, node)]

/-- Takes a key away. -/
def erase (t : Tree) (key : String) : Tree := t.filter fun entry => entry.1 != key

/-- Sets a value under a key with the given parts in front of the last.  The tables on the way are
created, or have been created in passing; the last of them by such a key. -/
def assign (last : String) (value : Toml) : List String → Tree → Option Tree
  | [], t =>
      match t.find? last with
      | some _ => none
      | none => some (t.add last (.leaf value))
  | key :: path, t =>
      match t.find? key with
      | none => do
          let inner ← assign last value path []
          return t.add key (.branch true true inner)
      | some (.leaf _) => none
      | some (.branch passing dotted entries) =>
          if !passing || (path.isEmpty && !dotted) then none
          else do
            let inner ← assign last value path entries
            return t.replace key (.branch passing dotted inner)
      | some (.row items) =>
          if path.isEmpty then none
          else
            match items.reverse with
            | .branch passing dotted entries :: before => do
                let inner ← assign last value path entries
                return t.replace key (.row (before.reverse ++ [.branch passing dotted inner]))
            | _ => none

/-- Changes the table that a header's parts lead to, and hands out something from it.  Tables on the
way are created; of a row the last table is taken. -/
def within {α : Type} (change : Tree → Option (Tree × α)) : List String → Tree → Option (Tree × α)
  | [], t => change t
  | key :: path, t =>
      match t.find? key with
      | none => do
          let (inner, result) ← within change path []
          return (t.add key (.branch true false inner), result)
      | some (.leaf _) => none
      | some (.branch passing dotted entries) => do
          let (inner, result) ← within change path entries
          return (t.replace key (.branch passing dotted inner), result)
      | some (.row items) =>
          match items.reverse with
          | .branch passing dotted entries :: before => do
              let (inner, result) ← within change path entries
              return (t.replace key (.row (before.reverse ++ [.branch passing dotted inner])), result)
          | _ => none

/-- Takes out the table that a header opens: a new one, or one that longer headers have created. -/
def openTable (last : String) (t : Tree) : Option (Tree × Tree) :=
  match t.find? last with
  | none => some (t, [])
  | some (.branch true false entries) => some (t.erase last, entries)
  | some _ => none

/-- Makes sure that there is a row under a key. -/
def openRow (last : String) (t : Tree) : Option (Tree × Unit) :=
  match t.find? last with
  | none => some (t.add last (.row []), ())
  | some (.row _) => some (t, ())
  | some _ => none

/-- Puts a table that is complete under its key. -/
def closeTable (last : String) (table : Tree) (t : Tree) : Option (Tree × Unit) :=
  match t.find? last with
  | none => some (t.add last (.branch false false table), ())
  | some _ => none

/-- Puts a table that is complete at the end of its row. -/
def closeRow (last : String) (table : Tree) (t : Tree) : Option (Tree × Unit) :=
  match t.find? last with
  | some (.row items) => some (t.replace last (.row (items ++ [.branch false false table])), ())
  | _ => none

end Tree

/-! ## Finished tables -/

mutual

/-- What a node says. -/
def Node.toToml : Node → Toml
  | .leaf value => value
  | .branch _ _ entries => .table (entriesToToml entries)
  | .row items => .array (itemsToToml items)

/-- What the entries of a table say. -/
def entriesToToml : List (String × Node) → List (String × Toml)
  | [] => []
  | (key, node) :: entries => (key, node.toToml) :: entriesToToml entries

/-- What the tables of a row say. -/
def itemsToToml : List Node → List Toml
  | [] => []
  | node :: items => node.toToml :: itemsToToml items

end

/-! ## Documents -/

/-- Where in a document the next key belongs. -/
inductive Place
  /-- Before the first header. -/
  | top
  /-- Behind the header of a table. -/
  | table (path : List String) (last : String)
  /-- Behind the header of a table in a row. -/
  | row (path : List String) (last : String)

/-- A document of which the lines so far have been taken in. -/
structure Document where
  /-- All tables that are complete. -/
  root : Tree := []
  /-- The table that the next key belongs to. -/
  current : Tree := []
  place : Place := .top

namespace Document

/-- Puts the current table to its place. -/
def close (d : Document) : Option Tree :=
  match d.place with
  | .top => some d.current
  | .table path last => (Tree.within (Tree.closeTable last d.current) path d.root).map Prod.fst
  | .row path last => (Tree.within (Tree.closeRow last d.current) path d.root).map Prod.fst

/-- Takes in a key with its value. -/
def assign (d : Document) (path : List String) (last : String) (value : Toml) : Option Document := do
  let current ← Tree.assign last value path d.current
  return { d with current }

/-- Takes in the header of a table. -/
def openTable (d : Document) (path : List String) (last : String) : Option Document := do
  let (root, current) ← Tree.within (Tree.openTable last) path (← d.close)
  return { root, current, place := .table path last }

/-- Takes in the header of a table in a row. -/
def openRow (d : Document) (path : List String) (last : String) : Option Document := do
  let (root, _) ← Tree.within (Tree.openRow last) path (← d.close)
  return { root, current := [], place := .row path last }

end Document

end Toml

end SensorGateway
