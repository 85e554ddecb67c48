import SensorGateway.Pattern.Basic

/-!
# Modes of reading

How a character of a pattern is meant depends on the mode.  There are no tables of the character
database here.  So in the *wide* mode, in which a pattern speaks of all characters, nothing can be
said that would need them: case matters, and there are no words, digits and blanks.  Outside of it a
pattern speaks of bytes; there these exist for ASCII, and a set must not have other members.
-/

namespace SensorGateway.Pattern

/-- A mode. -/
structure Mode where
  /-- Case does not matter. -/
  caseless : Bool := false
  /-- There are lines in the text, each with a start and an end. -/
  multiLine : Bool := false
  /-- A point stands for a line feed too. -/
  dotAll : Bool := false
  /-- Carriage returns end lines too. -/
  returns : Bool := false
  /-- The pattern speaks of all characters. -/
  wide : Bool := true
  /-- Blanks and comments in the pattern do not count. -/
  spaced : Bool := false
  deriving DecidableEq, Repr

/-- A character as it is written in a pattern. -/
structure Letter where
  char : Char
  /-- Whether it is given by the number of a byte. -/
  isByte : Bool := false
  deriving DecidableEq, Repr

namespace Mode

/-- What a character alone stands for. -/
def letter (m : Mode) (l : Letter) : Option Pattern :=
  if m.wide then if m.caseless then none else some (one (.singleton l.char))
  else if l.isByte && 128 ≤ l.char.toNat then none
  else if m.caseless && l.char.isAlpha then
    some (one ((CharSet.singleton l.char.toUpper).union (.singleton l.char.toLower)))
  else some (one (.singleton l.char))

/-- The character that is meant inside brackets. -/
def member (m : Mode) (l : Letter) : Option Char :=
  if m.wide || l.char.toNat < 128 then some l.char else none

/-- A set with what differs in case only, if case does not matter. -/
def fold (m : Mode) (s : CharSet) : Option CharSet :=
  if !m.caseless then some s
  else if !m.wide then some s.foldAscii
  else if s.isEmpty then some s
  else none

/-- What a set stands for that may be negated. -/
def complete (m : Mode) (negated : Bool) (s : CharSet) : Option CharSet := do
  let s ← m.fold s
  let s := if negated then (if m.wide then CharSet.scalars else .bytes).diff s else s
  if m.wide || s.isAscii then some s else none

/-- What a point stands for. -/
def point (m : Mode) : Option Pattern :=
  if !m.wide then none
  else if m.dotAll then some (one .scalars)
  else if m.returns then
    some (one (CharSet.scalars.diff ((CharSet.singleton '\n').union (.singleton '\r'))))
  else some (one (CharSet.scalars.diff (.singleton '\n')))

/-- What the mark for the start stands for. -/
def start (m : Mode) : Anchor :=
  if !m.multiLine then .textStart else if m.returns then .lineStartReturn else .lineStart

/-- What the mark for the end stands for. -/
def stop (m : Mode) : Anchor :=
  if !m.multiLine then .textEnd else if m.returns then .lineEndReturn else .lineEnd

end Mode

end SensorGateway.Pattern
