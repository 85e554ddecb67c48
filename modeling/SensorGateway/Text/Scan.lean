/-!
# Reading text from the front

A `Scan` takes characters off the front of a text, or refuses.  Whatever has to be said about the
reason of a refusal is said by whoever runs it.  Repetitions are bounded by the length of the text
that is left, which they cannot outlast as each round takes at least one character.
-/

namespace SensorGateway

/-- A reader of the front of a text. -/
abbrev Scan := StateT (List Char) Option

namespace Scan

variable {α : Type}

/-- Runs a reader that has to take the whole text. -/
def run (scan : Scan α) (text : String) : Option α :=
  match StateT.run scan text.toList with
  | some (value, []) => some value
  | _ => none

/-- The next character, if there is one, without taking it. -/
def peek : Scan (Option Char) := fun rest => some (rest.head?, rest)

/-- All that is left. -/
def remaining : Scan (List Char) := fun rest => some (rest, rest)

/-- Goes on with another text. -/
def resume (rest : List Char) : Scan Unit := fun _ => some ((), rest)

/-- Takes one character. -/
def next : Scan Char
  | [] => none
  | c :: rest => some (c, rest)

/-- Takes one character of a kind. -/
def satisfy (p : Char → Bool) : Scan Char := do
  let c ← next
  if p c then return c else failure

/-- Takes one given character. -/
def char (c : Char) : Scan Unit := discard (satisfy (· == c))

/-- Takes a given character if it comes next, and says whether it did. -/
def char? (c : Char) : Scan Bool := fun rest =>
  match rest with
  | d :: rest' => if d = c then some (true, rest') else some (false, rest)
  | [] => some (false, rest)

/-- Takes a given piece of text. -/
def literal (text : String) : Scan Unit :=
  text.toList.forM char

/-- Takes a given piece of text if it comes next, and says whether it did. -/
def literal? (text : String) : Scan Bool := fun rest =>
  if text.toList.isPrefixOf rest then some (true, rest.drop text.length) else some (false, rest)

/-- Takes the characters of a kind at the front. -/
def takeWhile (p : Char → Bool) : Scan (List Char) := fun rest =>
  some (rest.takeWhile p, rest.dropWhile p)

/-- Takes the characters of a kind at the front, of which there has to be one. -/
def takeWhile1 (p : Char → Bool) : Scan (List Char) := do
  let cs ← takeWhile p
  if cs.isEmpty then failure else return cs

/-- Whether nothing is left. -/
def atEnd : Scan Bool := fun rest => some (rest.isEmpty, rest)

/-- Tries a reader and goes back when it refuses. -/
def optional (scan : Scan α) : Scan (Option α) := fun rest =>
  match scan rest with
  | some (value, rest') => some (some value, rest')
  | none => some (none, rest)

/-- Repeats a reader until it has nothing more to give. -/
def repeatFuel (scan : Scan (Option α)) : Nat → Scan (List α)
  | 0 => failure
  | fuel + 1 => do
      match ← scan with
      | none => return []
      | some value =>
          let values ← repeatFuel scan fuel
          return value :: values

/-- Repeats a reader that takes at least one character each time until it has nothing more to
give. -/
def repeated (scan : Scan (Option α)) : Scan (List α) := do
  let rest ← remaining
  repeatFuel scan (rest.length + 1)

end Scan

end SensorGateway
