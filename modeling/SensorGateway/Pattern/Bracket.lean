import SensorGateway.Pattern.Lexeme

/-!
# Sets in brackets

Between brackets stand characters, ranges, named sets such as `[:digit:]`, and sets in brackets of
their own.  Two such lists can be joined by an operation, `&&`, `--` or `~~`; operations are done from
left to right.

Reading keeps the *depth*, which says how deeply the parts of what has been read are nested.
-/

namespace SensorGateway.Pattern

/-- A set and its depth. -/
structure Part where
  set : CharSet
  depth : Nat := 0

/-- An operation on sets. -/
inductive SetOp
  | inter
  | diff
  | symmDiff

/-- The result of an operation. -/
def SetOp.apply : SetOp → CharSet → CharSet → CharSet
  | inter => .inter
  | diff => .diff
  | symmDiff => .symmDiff

/-- The depth of several things side by side: a lone one has no depth of its own. -/
def listDepth : List Nat → Nat
  | [] => 0
  | [d] => d
  | ds => 1 + ds.foldl max 0

/-- What parts amount to together. -/
def Part.union (parts : List Part) : Part where
  set := parts.foldl (fun s p => s.union p.set) .empty
  depth := listDepth (parts.map (·.depth))

/-- The list that has been read, with an operation that waits for it. -/
def Part.close (m : Mode) (waiting : Option (SetOp × Part)) (parts : List Part) : Option Part :=
  let right := Part.union parts
  match waiting with
  | none => some right
  | some (op, left) => do
      let set := op.apply (← m.fold left.set) (← m.fold right.set)
      return { set, depth := 1 + max left.depth right.depth }

/-- Reads a named set behind its bracket, and whether it is negated. -/
def readNamed (cs : List Char) : Option ((Bool × CharSet) × List Char) :=
  match cs with
  | ':' :: rest =>
      let (negated, rest) := match rest with
        | '^' :: rest => (true, rest)
        | rest => (false, rest)
      let name := rest.takeWhile (· ≠ ':')
      match rest.drop name.length with
      | ':' :: ']' :: rest => (CharSet.ofName? name).map fun s => ((negated, s), rest)
      | _ => none
  | _ => none

/-- Reads one character or set. -/
def readMember (m : Mode) (cs : List Char) : Option (Escape × List Char) :=
  match cs with
  | [] => none
  | '\\' :: rest => readEscape m rest
  | c :: rest => some (.letter { char := c }, rest)

/-- Reads a range, or else one character or set. -/
def readRange (m : Mode) (cs : List Char) : Option (CharSet × List Char) := do
  let (first, cs) ← readMember m cs
  let cs := m.skip cs
  let alone : Option (CharSet × List Char) :=
    match first with
    | .letter l => (m.member l).map fun c => (.singleton c, cs)
    | .set s => some (s, cs)
    | .anchor _ => none
  match cs with
  | '-' :: rest =>
      let rest := m.skip rest
      match rest with
      | [] => none
      | ']' :: _ | '-' :: _ => alone
      | _ =>
          match first, ← readMember m rest with
          | .letter l, (.letter r, rest) =>
              let first ← m.member l
              let last ← m.member r
              if first ≤ last then return (.between first last, rest) else none
          | _, _ => none
  | [] => none
  | _ => alone

/-- Reads the dashes at the beginning, which stand for themselves. -/
def readDashes (m : Mode) : Nat → List Char → List Part × List Char
  | 0, cs => ([], cs)
  | n + 1, cs =>
      match cs with
      | '-' :: rest =>
          let (parts, rest) := readDashes m n (m.skip rest)
          ({ set := .singleton '-' } :: parts, rest)
      | cs => ([], cs)

/-- Reads what stands first behind a bracket: whether the set is negated, and the characters that
stand for themselves only there. -/
def readOpening (m : Mode) (cs : List Char) : Bool × List Part × List Char :=
  let cs := m.skip cs
  let (negated, cs) := match cs with
    | '^' :: rest => (true, m.skip rest)
    | cs => (false, cs)
  let (parts, cs) := readDashes m cs.length cs
  match parts, cs with
  | [], ']' :: rest => (negated, [{ set := .singleton ']' }], m.skip rest)
  | _, _ => (negated, parts, cs)

mutual

/-- Reads a set behind its bracket. -/
def readSet (m : Mode) : Nat → List Char → Option (Part × List Char)
  | 0, _ => none
  | fuel + 1, cs => do
      let (negated, parts, cs) := readOpening m cs
      let (part, cs) ← readParts m fuel none parts.reverse cs
      return ({ set := ← m.complete negated part.set, depth := 1 + part.depth }, cs)

/-- Reads to the closing bracket.  The parts read so far are given backwards. -/
def readParts (m : Mode) :
    Nat → Option (SetOp × Part) → List Part → List Char → Option (Part × List Char)
  | 0, _, _, _ => none
  | fuel + 1, waiting, parts, cs => do
      let operate (op : SetOp) (rest : List Char) : Option (Part × List Char) := do
        readParts m fuel (some (op, ← Part.close m waiting parts.reverse)) [] rest
      match m.skip cs with
      | [] => none
      | ']' :: rest => return (← Part.close m waiting parts.reverse, rest)
      | '&' :: '&' :: rest => operate .inter rest
      | '-' :: '-' :: rest => operate .diff rest
      | '~' :: '~' :: rest => operate .symmDiff rest
      | '[' :: rest =>
          match readNamed rest with
          | some ((negated, s), rest) =>
              readParts m fuel waiting ({ set := ← m.complete negated s } :: parts) rest
          | none => do
              let (part, rest) ← readSet m fuel rest
              readParts m fuel waiting (part :: parts) rest
      | cs => do
          let (set, rest) ← readRange m cs
          readParts m fuel waiting ({ set } :: parts) rest

end

end SensorGateway.Pattern
