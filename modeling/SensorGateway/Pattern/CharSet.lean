/-!
# Sets of characters

A set is a list of inclusive ranges of code points.  Every range has a member; ranges may overlap.
-/

namespace SensorGateway

/-- A set of characters. -/
structure CharSet where
  ranges : List (Nat × Nat)
  deriving DecidableEq, Repr

namespace CharSet

/-- Whether a character is in a set. -/
def contains (s : CharSet) (c : Char) : Bool :=
  s.ranges.any fun (first, last) => first ≤ c.toNat && c.toNat ≤ last

/-- The set without members. -/
def empty : CharSet := ⟨[]⟩

def isEmpty (s : CharSet) : Bool := s.ranges.isEmpty

/-- The set of one character. -/
def singleton (c : Char) : CharSet := ⟨[(c.toNat, c.toNat)]⟩

/-- The characters from one to another. -/
def between (first last : Char) : CharSet := ⟨[(first.toNat, last.toNat)]⟩

def union (s t : CharSet) : CharSet := ⟨s.ranges ++ t.ranges⟩

/-- What is left of a range when another one is cut out of it. -/
def cut (r : Nat × Nat) (s : Nat × Nat) : List (Nat × Nat) :=
  if s.2 < r.1 || r.2 < s.1 then [r]
  else
    (if r.1 < s.1 then [(r.1, s.1 - 1)] else []) ++ (if s.2 < r.2 then [(s.2 + 1, r.2)] else [])

/-- The members of the first set that are not in the second. -/
def diff (s t : CharSet) : CharSet :=
  ⟨t.ranges.foldl (fun rest hole => rest.flatMap (cut · hole)) s.ranges⟩

/-- The common members. -/
def inter (s t : CharSet) : CharSet := s.diff (s.diff t)

/-- The members of just one of the sets. -/
def symmDiff (s t : CharSet) : CharSet := (s.diff t).union (t.diff s)

/-- Whether all members are ASCII. -/
def isAscii (s : CharSet) : Bool := s.ranges.all fun (_, last) => last < 128

/-- All characters. -/
def scalars : CharSet := ⟨[(0, 0xD7FF), (0xE000, 0x10FFFF)]⟩

/-- The characters that are a byte each. -/
def bytes : CharSet := ⟨[(0, 255)]⟩

/-- The images of the members in a range, when the range is moved. -/
def moved (s : CharSet) (range : Nat × Nat) (move : Nat → Nat) : CharSet :=
  ⟨s.ranges.filterMap fun (first, last) =>
    let first := max first range.1
    let last := min last range.2
    if first ≤ last then some (move first, move last) else none⟩

/-- The set and the ASCII letters that differ from a member in case only. -/
def foldAscii (s : CharSet) : CharSet :=
  (s.union (s.moved (65, 90) (· + 32))).union (s.moved (97, 122) (· - 32))

def digits : CharSet := between '0' '9'
def upper : CharSet := between 'A' 'Z'
def lower : CharSet := between 'a' 'z'
def letters : CharSet := upper.union lower
def alphanumeric : CharSet := digits.union letters

/-- What words consist of. -/
def wordlike : CharSet := alphanumeric.union (singleton '_')

/-- The blank and the characters from the tab to the carriage return. -/
def space : CharSet := ⟨[(9, 13), (32, 32)]⟩

/-- The sets of ASCII characters that have a name. -/
def named : List (String × CharSet) :=
  [("alnum", alphanumeric), ("alpha", letters), ("ascii", ⟨[(0, 127)]⟩),
    ("blank", ⟨[(9, 9), (32, 32)]⟩), ("cntrl", ⟨[(0, 31), (127, 127)]⟩), ("digit", digits),
    ("graph", between '!' '~'), ("lower", lower), ("print", between ' ' '~'),
    ("punct", ⟨[(33, 47), (58, 64), (91, 96), (123, 126)]⟩), ("space", space), ("upper", upper),
    ("word", wordlike), ("xdigit", ⟨[(48, 57), (65, 70), (97, 102)]⟩)]

/-- The set with a name. -/
def ofName? (name : List Char) : Option CharSet := named.lookup (String.ofList name)

/-- Nothing is in the empty set. -/
@[simp] theorem contains_empty (c : Char) : empty.contains c = false := rfl

/-- A union holds what either set holds. -/
@[simp] theorem contains_union (s t : CharSet) (c : Char) :
    (s.union t).contains c = (s.contains c || t.contains c) := by
  simp [contains, union]

end CharSet

end SensorGateway
