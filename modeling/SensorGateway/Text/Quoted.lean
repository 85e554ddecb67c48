import SensorGateway.Text.Hex
import SensorGateway.Text.Printable

/-!
# Quoted text in messages

A text from outside is quoted when a message repeats it, so that the message shows what the text
holds: controls by their usual letters, quotes and backslashes behind a backslash, and every other
character that cannot be shown by its number in braces.
-/

namespace SensorGateway.Text

/-- The digits of a number in base sixteen, at least one. -/
def hexDigits (n : Nat) : List Char := Nat.toDigits 16 n

/-- A character as it stands between quotes. -/
def quotedChar (c : Char) : List Char :=
  if c = '\x00' then ['\\', '0']
  else if c = '\t' then ['\\', 't']
  else if c = '\r' then ['\\', 'r']
  else if c = '\n' then ['\\', 'n']
  else if c = '"' then ['\\', '"']
  else if c = '\\' then ['\\', '\\']
  else if isPrintable c then [c]
  else ['\\', 'u', '\x7b'] ++ hexDigits c.toNat ++ ['\x7d']

/-- A text in quotes. -/
def quoted (s : String) : String :=
  .ofList ('"' :: s.toList.flatMap quotedChar ++ ['"'])

end SensorGateway.Text
