import SensorGateway.Pattern.Mode
import SensorGateway.Text.Hex
import SensorGateway.Text.Parts

/-!
# The words of a pattern

Blanks, numbers, and what stands behind a backslash.
-/

namespace SensorGateway.Pattern

/-- The rest of a text without the blanks and comments before it; within a comment or not. -/
def skipSpaces : Bool → List Char → List Char
  | _, [] => []
  | true, c :: cs => if c = '\n' then skipSpaces false cs else skipSpaces true cs
  | false, c :: cs =>
      if Text.isBlank c then skipSpaces false cs
      else if c = '#' then skipSpaces true cs
      else c :: cs

/-- The rest of a text without what does not count in a mode. -/
def Mode.skip (m : Mode) (cs : List Char) : List Char :=
  if m.spaced then skipSpaces false cs else cs

/-- The character with a code point. -/
def charOf? (code : Nat) : Option Char :=
  if code < 0xD800 ∨ (0xDFFF < code ∧ code < 0x110000) then some (Char.ofNat code) else none

/-! ## Numbers -/

/-- Reads the characters of a kind, at most so many; what does not count may stand behind each. -/
def readRun (m : Mode) (p : Char → Bool) : Nat → List Char → List Char × List Char
  | 0, cs => ([], cs)
  | _, [] => ([], [])
  | n + 1, c :: cs =>
      if p c then
        let (run, rest) := readRun m p n (m.skip cs)
        (c :: run, rest)
      else ([], c :: cs)

/-- Reads a decimal number below two to the power of 32 with blanks around it. -/
def readCount (m : Mode) (cs : List Char) : Option (Nat × List Char) := do
  let cs := cs.dropWhile Text.isBlank
  let (digits, cs) := readRun m Char.isDigit cs.length cs
  let (_, cs) := readRun m Text.isBlank cs.length cs
  if digits.isEmpty then none
  else
    let n := digits.foldl (fun n c => 10 * n + (c.toNat - 48)) 0
    if n < 4294967296 then some (n, cs) else none

/-- Reads how often something is repeated, behind the opening brace. -/
def readBounds (m : Mode) (cs : List Char) : Option ((Nat × Option Nat) × List Char) := do
  let (least, cs) ← readCount m (m.skip cs)
  match cs with
  | '}' :: rest => return ((least, some least), rest)
  | ',' :: rest =>
      match m.skip rest with
      | '}' :: rest => return ((least, none), rest)
      | rest =>
          let (most, rest) ← readCount m rest
          match rest with
          | '}' :: rest => if least ≤ most then return ((least, some most), rest) else none
          | _ => none
  | _ => none

/-! ## Behind a backslash -/

/-- What a backslash can introduce. -/
inductive Escape
  | letter (l : Letter)
  | set (s : CharSet)
  | anchor (a : Anchor)
  deriving DecidableEq, Repr

/-- The characters for which there is a letter. -/
def controls : List (Char × Char) :=
  [('a', '\x07'), ('f', '\x0c'), ('t', '\t'), ('n', '\n'), ('r', '\r'), ('v', '\x0b')]

/-- The sets for which there is a letter. -/
def kinds : List (Char × CharSet) := [('d', .digits), ('s', .space), ('w', .wordlike)]

/-- The words for conditions on words. -/
def wordAnchors : List (String × Anchor) :=
  [("start", .wordStart), ("end", .wordEnd), ("start-half", .wordStartHalf),
    ("end-half", .wordEndHalf)]

/-- Reads a hexadecimal number: of a fixed number of digits, or of any number within braces. -/
def readHex (m : Mode) (digits : Nat) (cs : List Char) : Option (Letter × List Char) := do
  match m.skip cs with
  | '\x7b' :: rest =>
      let rest := m.skip rest
      let (run, rest) := readRun m (fun c => (Hex.value? c).isSome) rest.length rest
      match rest with
      | '\x7d' :: rest => return ({ char := ← charOf? (← Hex.number? run) }, m.skip rest)
      | _ => none
  | cs =>
      let (run, rest) := readRun m (fun c => (Hex.value? c).isSome) digits cs
      if run.length = digits then
        let char ← charOf? (← Hex.number? run)
        return ({ char, isByte := digits == 2 }, rest)
      else none

/-- Reads the condition that a `b` stands for.  A brace behind it belongs to it if a word follows. -/
def readWordAnchor (m : Mode) (cs : List Char) : Option (Anchor × List Char) :=
  let isInner (c : Char) : Bool := c.isAlpha || c = '-'
  match cs with
  | '\x7b' :: rest =>
      match m.skip rest with
      | [] => none
      | c :: rest =>
          if isInner c then
            let (word, rest) := readRun m isInner (rest.length + 1) (c :: rest)
            match rest with
            | '\x7d' :: rest => (wordAnchors.lookup (String.ofList word)).map (·, rest)
            | _ => none
          else some (.wordEdge, cs)
  | _ => some (.wordEdge, cs)

/-- Whether a character stands for itself behind a backslash. -/
def isEscapable (c : Char) : Bool :=
  c.toNat < 128 && !c.isAlphanum && c ≠ '<' && c ≠ '>'

/-- Reads what stands behind a backslash. -/
def readEscape (m : Mode) (cs : List Char) : Option (Escape × List Char) := do
  match cs with
  | [] => none
  | 'x' :: rest => let (l, rest) ← readHex m 2 rest; return (.letter l, rest)
  | 'u' :: rest => let (l, rest) ← readHex m 4 rest; return (.letter l, rest)
  | 'U' :: rest => let (l, rest) ← readHex m 8 rest; return (.letter l, rest)
  | 'A' :: rest => return (.anchor .textStart, rest)
  | 'z' :: rest => return (.anchor .textEnd, rest)
  | c :: rest =>
      if isEscapable c then return (.letter { char := c }, rest)
      else if let some char := controls.lookup c then return (.letter { char }, rest)
      else if m.wide then none
      else if let some set := kinds.lookup c then return (.set set, rest)
      else
        match c with
        | 'b' => let (a, rest) ← readWordAnchor m rest; return (.anchor a, rest)
        | 'B' => return (.anchor .notWordEdge, rest)
        | '<' => return (.anchor .wordStart, rest)
        | '>' => return (.anchor .wordEnd, rest)
        | _ => none

end SensorGateway.Pattern
