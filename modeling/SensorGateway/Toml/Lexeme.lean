import SensorGateway.Calendar
import SensorGateway.Number.Decimal
import SensorGateway.Text.Hex
import SensorGateway.Text.Scan

/-!
# The words of a TOML text

Blanks, comments, keys, strings, numbers and dates, each with the characters that it may hold.  None
of these readers looks beyond its word: what may follow is up to the line that the word stands in.
-/

namespace SensorGateway.Toml.Lexeme

/-! ## Blanks and comments -/

/-- The characters that may stand between two words of a line. -/
def isBlank (c : Char) : Bool := c == ' ' || c == '\t'

/-- Skips the blanks at the front. -/
def blanks : Scan Unit := discard (Scan.takeWhile isBlank)

/-- The characters that a comment or a string may hold: all but the controls, among which the tab is
not counted. -/
def isPlain (c : Char) : Bool := c == '\t' || (0x20 ≤ c.toNat && c.toNat != 0x7F)

/-- Takes a comment, if one begins here, up to the end of its line. -/
def comment : Scan Unit := do
  if ← Scan.char? '#' then discard (Scan.takeWhile isPlain)

/-- Takes the end of a line, and says whether there was one. -/
def newline? : Scan Bool := do
  if ← Scan.char? '\n' then return true else Scan.literal? "\r\n"

/-- Takes what may follow a complete line: blanks, a comment, and the end of the line or of the
text. -/
def lineEnd : Scan Unit := do
  blanks
  comment
  if !(← newline?) && !(← Scan.atEnd) then failure

/-- Takes blanks, comments and ends of lines, which may all stand between the items of an array. -/
def space : Scan Unit := do
  discard <| Scan.repeated do
    let before ← Scan.remaining
    blanks
    comment
    let _ ← newline?
    let after ← Scan.remaining
    return if after.length < before.length then some () else none

/-! ## Strings -/

/-- The character of a number of the given count of hexadecimal digits. -/
def escapedPoint (count : Nat) : Scan Char := do
  let digits ← (List.range count).mapM fun _ => Scan.next
  let n ← (Hex.number? digits : Option Nat)
  if n < 0xD800 ∨ (0xE000 ≤ n ∧ n < 0x110000) then return Char.ofNat n else failure

/-- The character that an escape stands for, its backslash being taken. -/
def escaped : Scan Char := do
  match ← Scan.next with
  | 'b' => return '\x08'
  | 'f' => return '\x0c'
  | 'n' => return '\n'
  | 'r' => return '\r'
  | 't' => return '\t'
  | '"' => return '"'
  | '\\' => return '\\'
  | 'u' => escapedPoint 4
  | 'U' => escapedPoint 8
  | _ => failure

/-- A string on one line in double quotes, with escapes. -/
def basicString : Scan String := do
  Scan.char '"'
  let cs ← Scan.repeated do
    if ← Scan.char? '"' then return none
    if ← Scan.char? '\\' then return some (← escaped)
    return some (← Scan.satisfy isPlain)
  return .ofList cs

/-- A string on one line in single quotes, taken as it stands. -/
def literalString : Scan String := do
  Scan.char '\''
  let cs ← Scan.takeWhile fun c => c != '\'' && isPlain c
  Scan.char '\''
  return .ofList cs

/-- Takes a run of quotes in a string of several lines.  Fewer than three belong to the string; three
close it, and up to two more in front of these belong to it still. -/
def quoteRun (quote : Char) : Scan (Nat × Bool) := do
  let rest ← Scan.remaining
  let run := (rest.takeWhile (· == quote)).length
  let taken := min run 5
  Scan.resume (rest.drop taken)
  return if taken < 3 then (taken, false) else (taken - 3, true)

/-- Reads the lines of a string up to its closing quotes; `piece` takes one character that is neither
quote nor end of line. -/
def stringLines (quote : Char) (piece : Scan (List Char)) : Scan String := do
  let _ ← newline?
  let rest ← Scan.remaining
  let rec pieces : Nat → Scan (List Char)
    | 0 => failure
    | fuel + 1 => do
        if (← Scan.peek) == some quote then
          let (quotes, closed) ← quoteRun quote
          let front := List.replicate quotes quote
          if closed then return front else return front ++ (← pieces fuel)
        else if ← newline? then
          return '\n' :: (← pieces fuel)
        else
          let front ← piece
          return front ++ (← pieces fuel)
  return .ofList (← pieces (rest.length + 1))

/-- Takes the rest of a backslash at the end of a line, with all blanks and ends of lines that
follow. -/
def continuedLine : Scan Unit := do
  blanks
  if !(← newline?) then failure
  discard <| Scan.repeated do
    let run ← Scan.takeWhile isBlank
    let ended ← newline?
    return if run.isEmpty && !ended then none else some ()

/-- A string of several lines in double quotes, with escapes. -/
def basicLines : Scan String := do
  Scan.literal "\"\"\""
  stringLines '"' do
    if ← Scan.char? '\\' then
      match ← Scan.optional continuedLine with
      | some () => return []
      | none => return [← escaped]
    else return [← Scan.satisfy isPlain]

/-- A string of several lines in single quotes, taken as it stands. -/
def literalLines : Scan String := do
  Scan.literal "'''"
  stringLines '\'' do return [← Scan.satisfy isPlain]

/-- A string of any kind. -/
def anyString : Scan String := do
  match ← Scan.remaining with
  | '"' :: '"' :: '"' :: _ => basicLines
  | '"' :: _ => basicString
  | '\'' :: '\'' :: '\'' :: _ => literalLines
  | _ => literalString

/-! ## Keys -/

/-- The characters of a key without quotes. -/
def isBare (c : Char) : Bool :=
  ('a' ≤ c && c ≤ 'z') || ('A' ≤ c && c ≤ 'Z') || ('0' ≤ c && c ≤ '9') || c == '-' || c == '_'

/-- One part of a key. -/
def keyPart : Scan String := do
  match ← Scan.peek with
  | some '"' => basicString
  | some '\'' => literalString
  | _ => return .ofList (← Scan.takeWhile1 isBare)

/-- No key has more parts, and no value is nested deeper, than this. -/
def maxDepth : Nat := 79

/-- A key: parts with dots between them, and blanks around these. -/
def key : Scan (List String) := do
  blanks
  let first ← keyPart
  blanks
  let others ← Scan.repeated do
    if ← Scan.char? '.' then
      blanks
      let part ← keyPart
      blanks
      return some part
    else return none
  if others.length < maxDepth then return first :: others else failure

/-! ## Numbers -/

/-- Takes a digit and more digits of a base; a single underscore may stand between two digits. -/
def digitGroups (isDigit : Char → Bool) : Scan (List Char) := do
  let first ← Scan.satisfy isDigit
  let others ← Scan.repeated do
    if ← Scan.char? '_' then return some (← Scan.satisfy isDigit)
    match ← Scan.peek with
    | some c => if isDigit c then return some (← Scan.next) else return none
    | none => return none
  return first :: others

/-- Takes a sign, if there is one: whether it is a minus. -/
def sign : Scan Bool := do
  if ← Scan.char? '-' then return true
  let _ ← Scan.char? '+'
  return false

/-- Takes decimal digits that do not begin with a needless zero. -/
def wholeDigits : Scan (List Char) := do
  if ← Scan.char? '0' then return ['0'] else digitGroups Char.isDigit

/-- The number that decimal digits make. -/
def decimal (digits : List Char) : Nat :=
  digits.foldl (fun n c => n * 10 + (c.toNat - '0'.toNat)) 0

/-- An integer in decimal digits, with a sign. -/
def decimalInteger : Scan Int := do
  let negative ← sign
  let n := decimal (← wholeDigits)
  return if negative then -n else n

/-- An integer in another base, without a sign. -/
def basedInteger (base : Nat) : Scan Int := do
  let digits ← digitGroups fun c => (Hex.value? c).any (· < base)
  return digits.foldl (fun n c => n * base + (Hex.value? c).getD 0) (0 : Nat)

/-- An integer of 64 bits. -/
def integer : Scan Int := do
  let n ←
    if ← Scan.literal? "0x" then basedInteger 16
    else if ← Scan.literal? "0o" then basedInteger 8
    else if ← Scan.literal? "0b" then basedInteger 2
    else decimalInteger
  if -twoTo 63 ≤ n ∧ n < twoTo 63 then return n else failure

/-- Takes the exponent of a number, if there is one. -/
def exponent? : Scan (Option Int) := do
  match ← Scan.peek with
  | some 'e' | some 'E' =>
      let _ ← Scan.next
      let negative ← sign
      let n := decimal (← digitGroups Char.isDigit)
      return some (if negative then -n else n)
  | _ => return none

/-- A number with a fraction or an exponent.  One that is too large is refused, unless it is
negative. -/
def fractional : Scan Float := do
  let negative ← sign
  let whole ← wholeDigits
  let fraction ← if ← Scan.char? '.' then digitGroups Char.isDigit else pure []
  let exponent ← exponent?
  if fraction.isEmpty && exponent.isNone then failure
  let x := nearestFloat (decimal (whole ++ fraction)) (exponent.getD 0 - fraction.length)
  if negative then return -x
  else if x.isInf then failure
  else return x

/-- Infinity or an undefined number, with a sign. -/
def specialFloat : Scan Float := do
  let negative ← sign
  let x : Float ← if ← Scan.literal? "inf" then pure (1 / 0) else do
    Scan.literal "nan"
    pure (0 / 0)
  return if negative then -x else x

/-! ## Dates and times -/

/-- Takes two digits that make a number within bounds. -/
def twoDigits (least greatest : Nat) : Scan Nat := do
  let a ← Scan.satisfy Char.isDigit
  let b ← Scan.satisfy Char.isDigit
  let n := decimal [a, b]
  if least ≤ n ∧ n ≤ greatest then return n else failure

/-- Takes a date that the calendar has. -/
def date : Scan Unit := do
  let year ← (List.range 4).mapM fun _ => Scan.satisfy Char.isDigit
  Scan.char '-'
  let month ← twoDigits 1 12
  Scan.char '-'
  let day ← twoDigits 1 31
  if (Date.of? (decimal year) month day).isNone then failure

/-- Takes a time, to the second at least. -/
def time : Scan Unit := do
  let _ ← twoDigits 0 23
  Scan.char ':'
  let _ ← twoDigits 0 59
  Scan.char ':'
  let _ ← twoDigits 0 60
  discard <| Scan.optional do
    Scan.char '.'
    Scan.takeWhile1 Char.isDigit

/-- Takes the distance from universal time. -/
def offset : Scan Unit := do
  match ← Scan.next with
  | 'Z' | 'z' => return ()
  | '+' | '-' =>
      let _ ← twoDigits 0 23
      Scan.char ':'
      discard (twoDigits 0 59)
  | _ => failure

/-- Takes a date, a time, or a date with a time. -/
def dateTime : Scan Unit := do
  match ← Scan.optional date with
  | none => time
  | some () =>
      discard <| Scan.optional do
        let _ ← Scan.satisfy fun c => c == 'T' || c == 't' || c == ' '
        time
        discard (Scan.optional offset)

end SensorGateway.Toml.Lexeme
