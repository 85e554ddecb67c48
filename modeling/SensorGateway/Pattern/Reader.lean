import SensorGateway.Pattern.Bracket
import SensorGateway.Pattern.Weight

/-!
# Reading a pattern

A pattern consists of branches between bars, and a branch of items one after another: characters,
sets, conditions and groups, each perhaps with a sign for how often it is repeated.  A repetition may
be marked as preferring few, which makes no difference to whether there is one.

A text is no pattern if it cannot be read, if its parts are nested too deeply, or if the pattern
weighs too much.
-/

namespace SensorGateway.Pattern

/-- What is kept while a pattern is read. -/
structure Reading where
  mode : Mode := {}
  /-- The names of groups so far. -/
  names : List (List Char) := []

/-- A pattern that has been read, and its depth. -/
structure Item where
  pattern : Pattern
  depth : Nat := 0
  /-- Whether a sign for repetition may follow. -/
  repeatable : Bool := true

/-- What items one after another amount to. -/
def Item.sequence (items : List Item) : Item where
  pattern := Pattern.sequence (items.map (·.pattern))
  depth := listDepth (items.map (·.depth))

/-- What branches amount to. -/
def Item.choice (first : Item) (others : List Item) : Item where
  pattern := others.foldl (fun p i => either p i.pattern) first.pattern
  depth := listDepth (first.depth :: others.map (·.depth))

/-- How deeply parts may be nested. -/
def depthLimit : Nat := 250

/-! ## Groups -/

/-- Whether a character may begin the name of a group, which is said of a few alphabets only. -/
def beginsName (c : Char) : Bool :=
  let n := c.toNat
  c.isAlpha || c = '_' || n == 0xAA || n == 0xB5 || n == 0xBA
    || (0xC0 ≤ n && n ≤ 0x2C1 && n != 0xD7 && n != 0xF7)
    || (0x388 ≤ n && n ≤ 0x481 && n != 0x3F6) || (0x48A ≤ n && n ≤ 0x52F)
    || (0x3041 ≤ n && n ≤ 0x3096) || (0x30A1 ≤ n && n ≤ 0x30FA) || (0x4E00 ≤ n && n ≤ 0x9FFF)
    || (0xAC00 ≤ n && n ≤ 0xD7A3)

/-- Whether a character may stand in the name of a group. -/
def continuesName (c : Char) : Bool :=
  beginsName c || c.isDigit || c = '.' || c = '[' || c = ']'

/-- Reads the name of a group. -/
def readName (cs : List Char) : Option (List Char × List Char) :=
  let name := cs.takeWhile continuesName
  match name, cs.drop name.length with
  | c :: _, '>' :: rest => if beginsName c then some (name, rest) else none
  | _, _ => none

/-- The change of mode that a letter asks for. -/
def modeChange? (c : Char) (on : Bool) : Option (Mode → Mode) :=
  match c with
  | 'i' => some fun m => { m with caseless := on }
  | 'm' => some fun m => { m with multiLine := on }
  | 's' => some fun m => { m with dotAll := on }
  | 'R' => some fun m => { m with returns := on }
  | 'u' => some fun m => { m with wide := on }
  | 'x' => some fun m => { m with spaced := on }
  | 'U' => some id
  | _ => none

/-- Reads the letters for modes: those behind a minus sign are switched off.  No letter occurs twice,
and the sign once at most and not at the end.  The colon or parenthesis behind them is left. -/
def readMode (m : Mode) (seen : List Char) : List Char → Option (Mode × List Char × List Char)
  | [] => none
  | c :: cs =>
      if c = ':' ∨ c = ')' then
        if seen.head? = some '-' then none else some (m, seen, c :: cs)
      else if c ∈ seen then none
      else if c = '-' then readMode m (c :: seen) cs
      else do readMode ((← modeChange? c (!seen.contains '-')) m) (c :: seen) cs

/-- What stands at the beginning of a group. -/
inductive Opening
  /-- A group, and what to read it with. -/
  | group (r : Reading)
  /-- Not a group, but a mode for what follows. -/
  | mode (m : Mode)

/-- Reads the beginning of a group. -/
def readGroupOpening (r : Reading) (cs : List Char) : Option (Opening × List Char) :=
  let named (rest : List Char) : Option (Opening × List Char) := do
    let (name, rest) ← readName rest
    if name ∈ r.names then none
    else return (.group { r with names := name :: r.names }, rest)
  match r.mode.skip cs with
  | '?' :: '=' :: _ | '?' :: '!' :: _ | '?' :: '<' :: '=' :: _ | '?' :: '<' :: '!' :: _ => none
  | '?' :: 'P' :: '<' :: rest => named rest
  | '?' :: '<' :: rest => named rest
  | '?' :: rest =>
      match readMode r.mode [] rest with
      | some (mode, _, ':' :: rest) => some (.group { r with mode }, rest)
      | some (mode, _ :: _, ')' :: rest) => some (.mode mode, rest)
      | _ => none
  | cs => some (.group r, cs)

/-! ## Items -/

/-- Reads an item that is no group and not in brackets. -/
def readPlain (m : Mode) (cs : List Char) : Option (Item × List Char) :=
  match cs with
  | [] => none
  | '\\' :: rest => do
      let (escape, rest) ← readEscape m rest
      let pattern ← match escape with
        | .letter l => m.letter l
        | .set s => some (one s)
        | .anchor a => some (anchor a)
      return ({ pattern }, rest)
  | '.' :: rest => m.point.map fun pattern => ({ pattern }, rest)
  | '^' :: rest => some ({ pattern := anchor m.start }, rest)
  | '$' :: rest => some ({ pattern := anchor m.stop }, rest)
  | c :: rest => (m.letter { char := c }).map fun pattern => ({ pattern }, rest)

/-- A text without the mark for preferring few. -/
def skipMark : List Char → List Char
  | '?' :: rest => rest
  | cs => cs

/-- Reads a sign for repetition. -/
def readSign (m : Mode) (cs : List Char) : Option ((Nat × Option Nat) × List Char) :=
  match cs with
  | '?' :: rest => some ((0, some 1), skipMark rest)
  | '*' :: rest => some ((0, none), skipMark rest)
  | '+' :: rest => some ((1, none), skipMark rest)
  | '\x7b' :: rest => (readBounds m rest).map fun (bounds, rest) => (bounds, skipMark (m.skip rest))
  | _ => none

/-- Whether a character begins a sign for repetition. -/
def beginsSign (c : Char) : Bool := c = '?' || c = '*' || c = '+' || c = '\x7b'

/-- Repeats the last of some items, which are given backwards. -/
def repeatLast (bounds : Nat × Option Nat) : List Item → Option (List Item)
  | [] => none
  | i :: items =>
      if i.repeatable then
        some ({ pattern := repeated i.pattern bounds.1 bounds.2, depth := i.depth + 1 } :: items)
      else none

mutual

/-- Reads branches, to the end or to a parenthesis that closes. -/
def readBranches : Nat → Reading → List Char → Option (Item × Reading × List Char)
  | 0, _, _ => none
  | fuel + 1, r, cs => do
      let (first, r, cs) ← readItems fuel r [] cs
      let (others, r, cs) ← readOthers fuel r [] cs
      return (.choice first others.reverse, r, cs)

/-- Reads the branches behind the first one.  Those read so far are given backwards. -/
def readOthers :
    Nat → Reading → List Item → List Char → Option (List Item × Reading × List Char)
  | 0, _, _, _ => none
  | fuel + 1, r, branches, cs =>
      match cs with
      | '|' :: rest => do
          let (branch, r, rest) ← readItems fuel r [] rest
          readOthers fuel r (branch :: branches) rest
      | _ => some (branches, r, cs)

/-- Reads the items of a branch.  Those read so far are given backwards. -/
def readItems : Nat → Reading → List Item → List Char → Option (Item × Reading × List Char)
  | 0, _, _, _ => none
  | fuel + 1, r, items, cs =>
      match r.mode.skip cs with
      | [] => some (.sequence items.reverse, r, [])
      | '[' :: rest => do
          let (part, rest) ← readSet r.mode (2 * rest.length + 2) rest
          readItems fuel r ({ pattern := one part.set, depth := part.depth } :: items) rest
      | '(' :: rest => do
          let (item, r, rest) ← readGroup fuel r rest
          readItems fuel r (item :: items) rest
      | c :: rest =>
          if c = '|' ∨ c = ')' then some (.sequence items.reverse, r, c :: rest)
          else if beginsSign c then do
            let (bounds, rest) ← readSign r.mode (c :: rest)
            readItems fuel r (← repeatLast bounds items) rest
          else do
            let (item, rest) ← readPlain r.mode (c :: rest)
            readItems fuel r (item :: items) rest

/-- Reads a group, or a change of mode, behind its parenthesis. -/
def readGroup : Nat → Reading → List Char → Option (Item × Reading × List Char)
  | 0, _, _ => none
  | fuel + 1, r, cs => do
      match ← readGroupOpening r cs with
      | (.mode mode, rest) =>
          return ({ pattern := empty, repeatable := false }, { r with mode }, rest)
      | (.group inner, rest) =>
          let (body, inner, rest) ← readBranches fuel inner rest
          match rest with
          | ')' :: rest =>
              return ({ pattern := group body.pattern, depth := body.depth + 1 },
                { inner with mode := r.mode }, rest)
          | _ => none

end

/-- Reads a pattern. -/
def ofChars? (cs : List Char) : Option Pattern := do
  let (item, _, rest) ← readBranches (4 * cs.length + 4) {} cs
  if rest.isEmpty ∧ item.depth ≤ depthLimit ∧ item.pattern.weight ≤ weightLimit then
    return item.pattern
  else none

end SensorGateway.Pattern
