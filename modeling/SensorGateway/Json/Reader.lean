import SensorGateway.Json.Value
import SensorGateway.Number.Decimal
import SensorGateway.Text.Hex
import SensorGateway.Text.Scan

/-!
# Reading JSON

The grammar is the standard one, with these decisions.  Arrays and objects nest at most 127 deep.  A
number is an integer when it has neither fraction nor exponent and fits 64 bits, signed or unsigned;
every other number is a double, and one that is too large for a double is refused.  A double is made
from as many leading digits as fit 64 bits, multiplied or divided by a power of ten, so its last
place may differ from the nearest double's.  A string holds no bare character below U+0020 and no
escaped half of a surrogate pair.  Of two members with one key the later counts.
-/

namespace SensorGateway.Json

/-- The greatest nesting of arrays and objects. -/
def maxDepth : Nat := 127

/-- The characters that may stand between the parts of a text. -/
def isBlank (c : Char) : Bool :=
  c == ' ' || c == '\n' || c == '\t' || c == '\r'

/-- Skips what may stand between the parts of a text. -/
def skipBlank : Scan Unit := discard (Scan.takeWhile isBlank)

/-! ## Numbers -/

/-- The greatest number that the leading digits may make. -/
def maxSignificand : Nat := twoTo 64 - 1

/-- The greatest exponent that is written out. -/
def maxExponent : Nat := twoTo 31 - 1

/-- Ten to a power from 0 to 308. -/
def powerOfTen (exponent : Nat) : Float := Float.ofScientific 1 false exponent

/-- Brings a double down by powers of ten in steps of at most `10 ^ 308`. -/
def scaleDown : Nat → Float → Nat → Float
  | 0, x, _ => x
  | fuel + 1, x, exponent =>
      if exponent ≤ 308 then x / powerOfTen exponent
      else if x == 0 then x
      else scaleDown fuel (x / powerOfTen 308) (exponent - 308)

/-- The double `significand * 10 ^ exponent`, refused when it is too large. -/
def scaled (significand : Nat) (exponent : Int) : Option Float :=
  let x := significand.toUInt64.toFloat
  if exponent < 0 then some (scaleDown 4 x exponent.natAbs)
  else if exponent ≤ 308 then
    let y := x * powerOfTen exponent.toNat
    if y.isInf then none else some y
  else if significand = 0 then some x
  else none

/-- The number that digits make as long as it fits, and how many digits made it. -/
def leadingDigits : Nat → List Char → Nat × Nat
  | acc, [] => (acc, 0)
  | acc, c :: rest =>
      let next := acc * 10 + (c.toNat - '0'.toNat)
      if next ≤ maxSignificand then
        let (n, taken) := leadingDigits next rest
        (n, taken + 1)
      else (acc, 0)

/-- The value of a number that has a fraction or an exponent, or too many digits. -/
def doubleOf (whole fraction : List Char) (exponent : Option (Bool × List Char)) : Option Float :=
  let (upToPoint, taken) := leadingDigits 0 whole
  let (significand, behind) := leadingDigits upToPoint fraction
  let start : Int := (whole.length - taken : Int) - behind
  match exponent with
  | none => scaled significand start
  | some (negative, digits) =>
      let size := digits.foldl (fun n c => n * 10 + (c.toNat - '0'.toNat)) 0
      if size ≤ maxExponent then scaled significand (if negative then start - size else start + size)
      else if significand = 0 ∨ negative then some 0
      else none

/-- Reads the exponent of a number: whether it is negative, and its digits. -/
def exponent? : Scan (Option (Bool × List Char)) := do
  match ← Scan.peek with
  | some 'e' | some 'E' =>
      let _ ← Scan.next
      let negative ← Scan.char? '-'
      if !negative then
        let _ ← Scan.char? '+'
      return some (negative, ← Scan.takeWhile1 Char.isDigit)
  | _ => return none

/-- Reads a number. -/
def numeral : Scan Json := do
  let negative ← Scan.char? '-'
  let whole ← Scan.takeWhile1 Char.isDigit
  if whole.head? == some '0' && whole.length > 1 then failure
  let fraction ← if ← Scan.char? '.' then Scan.takeWhile1 Char.isDigit else pure []
  let exponent ← exponent?
  let size := whole.foldl (fun n c => n * 10 + (c.toNat - '0'.toNat)) 0
  if fraction.isEmpty && exponent.isNone && !negative && size ≤ maxSignificand then
    return integer size
  else if fraction.isEmpty && exponent.isNone && negative && 0 < size && size ≤ twoTo 63 then
    return integer (-size)
  else
    let x ← (doubleOf whole fraction exponent : Option Float)
    return float (if negative then -x else x)

/-! ## Strings -/

/-- The value of four hexadecimal digits. -/
def codeUnit? (a b c d : Char) : Option Nat := Hex.number? [a, b, c, d]

/-- The character of a surrogate pair. -/
def joinSurrogates (high low : Nat) : Char :=
  Char.ofNat (0x10000 + (high - 0xD800) * 0x400 + (low - 0xDC00))

/-- The characters of a string up to its closing quote, and what follows it. -/
def stringBody : List Char → Option (List Char × List Char)
  | '"' :: rest => some ([], rest)
  | '\\' :: 'u' :: a :: b :: c :: d :: rest => do
      let unit ← codeUnit? a b c d
      if unit < 0xD800 ∨ 0xE000 ≤ unit then
        let (cs, rest') ← stringBody rest
        return (Char.ofNat unit :: cs, rest')
      else if 0xDC00 ≤ unit then none
      else
        match rest with
        | '\\' :: 'u' :: a :: b :: c :: d :: rest => do
            let low ← codeUnit? a b c d
            if low < 0xDC00 ∨ 0xE000 ≤ low then none
            else
              let (cs, rest') ← stringBody rest
              return (joinSurrogates unit low :: cs, rest')
        | _ => none
  | '\\' :: e :: rest => do
      let c ← match e with
        | '"' => some '"'
        | '\\' => some '\\'
        | '/' => some '/'
        | 'b' => some '\x08'
        | 'f' => some '\x0c'
        | 'n' => some '\n'
        | 'r' => some '\r'
        | 't' => some '\t'
        | _ => none
      let (cs, rest') ← stringBody rest
      return (c :: cs, rest')
  | c :: rest =>
      if c.toNat < 0x20 ∨ c = '\\' then none
      else do
        let (cs, rest') ← stringBody rest
        return (c :: cs, rest')
  | [] => none

/-- Reads a string, its opening quote included. -/
def stringLiteral : Scan String := do
  Scan.char '"'
  let rest ← Scan.remaining
  let (cs, rest') ← (stringBody rest : Option (List Char × List Char))
  Scan.resume rest'
  return .ofList cs

/-! ## Values -/

/-- Reads items with commas between them up to a closing bracket, the opening one being taken. -/
def separated {α : Type} (item : Scan α) (close : Char) : Scan (List α) := do
  skipBlank
  if ← Scan.char? close then return []
  let first ← item
  let others ← Scan.repeated do
    skipBlank
    if ← Scan.char? close then return none
    Scan.char ','
    skipBlank
    return some (← item)
  return first :: others

/-- Reads a value in which arrays and objects nest at most `depth` deep. -/
def value (depth : Nat) : Scan Json := do
  skipBlank
  match ← Scan.peek with
  | some 'n' => Scan.literal "null"; return null
  | some 't' => Scan.literal "true"; return bool true
  | some 'f' => Scan.literal "false"; return bool false
  | some '"' => return string (← stringLiteral)
  | some '[' =>
      match depth with
      | 0 => failure
      | depth + 1 =>
          Scan.char '['
          return array (← separated (value depth) ']')
  | some '\x7b' =>
      match depth with
      | 0 => failure
      | depth + 1 =>
          Scan.char '\x7b'
          let member : Scan (String × Json) := do
            let key ← stringLiteral
            skipBlank
            Scan.char ':'
            return (key, ← value depth)
          return ofMembers (← separated member '\x7d')
  | _ => numeral

/-- The value written in a text; nothing if the text is not JSON. -/
def parse? (text : String) : Option Json :=
  Scan.run (do let v ← value maxDepth; skipBlank; return v) text

end SensorGateway.Json
