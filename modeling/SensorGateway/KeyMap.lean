/-!
# Finite maps with their keys in order

A record's fields, the members of a JSON object and the tables of the gateway are lists of pairs
that are kept in the order of their keys, each key once.  Text is ordered by code points, which is
the order of its UTF-8 bytes.
-/

namespace SensorGateway

/-- Pairs in the order of their keys. -/
abbrev KeyMap (α : Type) := List (String × α)

namespace KeyMap

variable {α β : Type}

/-- The value under a key. -/
def find? (m : KeyMap α) (key : String) : Option α :=
  m.lookup key

/-- Whether a key has a value. -/
def contains (m : KeyMap α) (key : String) : Bool :=
  (m.find? key).isSome

/-- Puts a value under a key, in the place of the value that was there. -/
def insert (m : KeyMap α) (key : String) (value : α) : KeyMap α :=
  match m with
  | [] => [(key, value)]
  | (k, v) :: rest =>
      if key < k then (key, value) :: (k, v) :: rest
      else if key = k then (key, value) :: rest
      else (k, v) :: KeyMap.insert rest key value

/-- Takes a key away. -/
def erase (m : KeyMap α) (key : String) : KeyMap α :=
  m.filter fun entry => entry.1 != key

/-- Puts all pairs of a list into a map, one after another. -/
def insertAll (m : KeyMap α) (entries : List (String × α)) : KeyMap α :=
  entries.foldl (fun m entry => m.insert entry.1 entry.2) m

/-- The map of a list of pairs; of two with one key the later counts. -/
def ofList (entries : List (String × α)) : KeyMap α :=
  insertAll [] entries

/-- The keys in order. -/
def keys (m : KeyMap α) : List String := m.map Prod.fst

end KeyMap

end SensorGateway
