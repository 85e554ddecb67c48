/-!
# Parts of a text

Names and identifiers lose the blanks around them.  What is blank is decided by the property
*White_Space* of the character database, which knows more blanks than the keyboard.

Lists in a text are cut at separators, which are lost.  There is one piece more than there are
separators, so an empty text has one piece, which is empty.
-/

namespace SensorGateway.Text

/-! ## Blanks at the ends -/

/-- Whether a character is white space. -/
def isBlank (c : Char) : Bool :=
  let n := c.toNat
  (9 ≤ n && n ≤ 13) || n == 0x20 || n == 0x85 || n == 0xA0 || n == 0x1680
    || (0x2000 ≤ n && n ≤ 0x200A) || n == 0x2028 || n == 0x2029 || n == 0x202F
    || n == 0x205F || n == 0x3000

/-- A text without the characters of a kind at its end. -/
def dropEnd (p : Char → Bool) (cs : List Char) : List Char :=
  (cs.reverse.dropWhile p).reverse

/-- A text without the blanks around it. -/
def trim (cs : List Char) : List Char :=
  dropEnd isBlank (cs.dropWhile isBlank)

/-! ## Pieces between separators -/

/-- The pieces of a text between the characters of a kind. -/
def pieces (p : Char → Bool) : List Char → List (List Char)
  | [] => [[]]
  | c :: rest =>
      if p c then [] :: pieces p rest
      else
        match pieces p rest with
        | [] => [[c]]
        | piece :: others => (c :: piece) :: others

/-- Whether a text has another one inside it. -/
def hasInside (inner : List Char) : List Char → Bool
  | [] => inner.isEmpty
  | c :: rest => inner.isPrefixOf (c :: rest) || hasInside inner rest

end SensorGateway.Text
