import SensorGateway.Pattern.CharSet

/-!
# Patterns in a text

A pattern says how a piece of a text may look.  What it means is a function on *marks*: a mark for
each position of the text, the one behind its end included.  From the positions at which a piece may
begin a pattern makes those at which it may end.  So no way of matching is followed to its end before
the others, and every pattern takes a bounded number of steps.
-/

namespace SensorGateway

/-- A condition on a position between two characters. -/
inductive Anchor
  | textStart
  | textEnd
  /-- Behind a line feed, or at the start. -/
  | lineStart
  | lineEnd
  /-- The same where carriage returns end lines too, alone or before a line feed. -/
  | lineStartReturn
  | lineEndReturn
  /-- Between a character of a word and another one. -/
  | wordEdge
  | notWordEdge
  | wordStart
  | wordEnd
  /-- Not behind a character of a word. -/
  | wordStartHalf
  | wordEndHalf
  deriving DecidableEq, Repr

namespace Anchor

/-- Whether a character belongs to a word. -/
def isWord (c : Option Char) : Bool := c.elim false CharSet.wordlike.contains

/-- Whether a position is so, by what is before and behind it. -/
def holds (before behind : Option Char) : Anchor → Bool
  | textStart => before.isNone
  | textEnd => behind.isNone
  | lineStart => before.isNone || before == some '\n'
  | lineEnd => behind.isNone || behind == some '\n'
  | lineStartReturn =>
      before.isNone || before == some '\n' || (before == some '\r' && behind != some '\n')
  | lineEndReturn =>
      behind.isNone || behind == some '\r' || (behind == some '\n' && before != some '\r')
  | wordEdge => isWord before != isWord behind
  | notWordEdge => isWord before == isWord behind
  | wordStart => !isWord before && isWord behind
  | wordEnd => isWord before && !isWord behind
  | wordStartHalf => !isWord before
  | wordEndHalf => !isWord behind

end Anchor

/-- A pattern. -/
inductive Pattern
  | empty
  /-- One character of a set. -/
  | one (set : CharSet)
  | anchor (a : Anchor)
  | seq (p q : Pattern)
  | either (p q : Pattern)
  /-- One after another, at least and at most so often. -/
  | repeated (p : Pattern) (least : Nat) (most : Option Nat)
  /-- In parentheses, which do not change what it means. -/
  | group (p : Pattern)
  deriving DecidableEq, Repr

namespace Pattern

/-- Which positions of a text are marked, from its start to its end. -/
abbrev Marks := List Bool

/-- The positions that are in one of two. -/
def Marks.union (m n : Marks) : Marks := List.zipWith (· || ·) m n

/-- The positions behind a character of a set that begins at a marked one. -/
def Marks.advance (m : Marks) (set : CharSet) (text : List Char) : Marks :=
  false :: List.zipWith (fun marked c => marked && set.contains c) m text

/-- What is before and behind each position of a text. -/
def gaps (before : Option Char) : List Char → List (Option Char × Option Char)
  | [] => [(before, none)]
  | c :: cs => (before, some c) :: gaps (some c) cs

/-- The marked positions that are of a kind. -/
def Marks.at (m : Marks) (a : Anchor) (text : List Char) : Marks :=
  List.zipWith (fun marked (before, behind) => marked && a.holds before behind) m (gaps none text)

/-- Applies a function so many times; no longer once it changes nothing. -/
def applyTimes (f : Marks → Marks) : Nat → Marks → Marks
  | 0, m => m
  | n + 1, m =>
      let next := f m
      if next = m then m else applyTimes f n next

/-- The positions at which a piece may end that begins at a marked one.  What may be repeated without
limit is done when no new position is reached, and each time but the last reaches one. -/
def ends (text : List Char) : Pattern → Marks → Marks
  | empty, m => m
  | one set, m => m.advance set text
  | anchor a, m => m.at a text
  | seq p q, m => q.ends text (p.ends text m)
  | either p q, m => (p.ends text m).union (q.ends text m)
  | repeated p least most, m =>
      let more := most.elim (text.length + 1) (· - least)
      applyTimes (fun m => m.union (p.ends text m)) more (applyTimes (p.ends text) least m)
  | group p, m => p.ends text m

/-- Whether a text has a piece of this pattern inside it. -/
def occursIn (p : Pattern) (text : List Char) : Bool :=
  (p.ends text (List.replicate (text.length + 1) true)).contains true

/-- One pattern after another. -/
def sequence : List Pattern → Pattern
  | [] => empty
  | [p] => p
  | p :: ps => seq p (sequence ps)

/-- Applying a function so often, without an eye on what it changes, comes to the same. -/
theorem applyTimes_eq_repeat (f : Marks → Marks) (n : Nat) (m : Marks) :
    applyTimes f n m = Nat.repeat f n m := by
  induction n generalizing m with
  | zero => rfl
  | succ n ih =>
      have comm : ∀ (k : Nat) (x : Marks), Nat.repeat f k (f x) = f (Nat.repeat f k x) := by
        intro k x
        induction k with
        | zero => rfl
        | succ k ihk => simp [Nat.repeat, ihk]
      by_cases h : f m = m
      · have fixed : ∀ k, Nat.repeat f k m = m := by
          intro k
          induction k with
          | zero => rfl
          | succ k ihk => rw [Nat.repeat, ihk, h]
        simp [applyTimes, h, fixed]
      · simp [applyTimes, h, ih, comm, Nat.repeat]

end Pattern

end SensorGateway
