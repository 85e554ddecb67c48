import SensorGateway.Pattern.Basic

/-!
# The weight of a pattern

A pattern is searched for by a machine, and a pattern whose machine is too large is refused.  The
weight of a pattern is the size of its machine in bytes, in which what is repeated a certain number
of times occurs that often.
-/

namespace SensorGateway.Pattern

/-- What a state weighs. -/
def stateWeight : Nat := 32

/-- A state with two ways out. -/
def forkWeight : Nat := stateWeight + 8

/-- The number of bytes of a character. -/
def byteCount (code : Nat) : Nat :=
  if code < 0x80 then 1 else if code < 0x800 then 2 else if code < 0x10000 then 3 else 4

/-- What a character of a set weighs. -/
def setWeight (s : CharSet) : Nat :=
  match s.ranges with
  | [] => stateWeight
  | [(first, last)] =>
      if first = last then stateWeight * byteCount first
      else if s.isAscii then 2 * stateWeight + 8
      else 1000
  | ranges => if s.isAscii then 2 * stateWeight + 8 * ranges.length else 1000

/-- The least number of characters in a piece; nothing for a pattern without pieces. -/
def leastLength? : Pattern → Option Nat
  | empty | anchor _ => some 0
  | one set => if set.isEmpty then none else some 1
  | seq p q => do return (← p.leastLength?) + (← q.leastLength?)
  | either p q =>
      match p.leastLength?, q.leastLength? with
      | some m, some n => some (min m n)
      | some m, none => some m
      | none, n => n
  | repeated p least _ => if least = 0 then some 0 else p.leastLength?.map (least * ·)
  | group p => p.leastLength?

/-- Whether all pieces are empty. -/
def isBlank : Pattern → Bool
  | empty | anchor _ => true
  | one _ => false
  | seq p q => p.isBlank && q.isBlank
  | either p q => p.isBlank && q.isBlank
  | repeated p _ most => most == some 0 || p.isBlank
  | group p => p.isBlank

/-- What a repetition weighs, by the weight of what is repeated. -/
def repeatedWeight (weight : Nat) (canBeEmpty : Bool) : Nat → Option Nat → Nat
  | 0, none => if canBeEmpty then weight + 2 * forkWeight + stateWeight else weight + forkWeight
  | least, none => least * weight + forkWeight
  | 0, some 1 => weight + forkWeight + stateWeight
  | least, some most =>
      if least = most then max stateWeight (least * weight)
      else
        max stateWeight (least * weight) + stateWeight + (most - least) * (weight + forkWeight)

/-- The weight of a pattern without what surrounds it.  Repeating what is empty is doing it once. -/
def innerWeight : Pattern → Nat
  | empty | anchor _ => stateWeight
  | one set => setWeight set
  | seq p q => p.innerWeight + q.innerWeight
  | either p q => forkWeight + stateWeight + p.innerWeight + q.innerWeight
  | repeated p least most =>
      let canBeEmpty := p.leastLength?.all (· == 0)
      let (least, most) :=
        if p.isBlank then (min least 1, some (most.elim 1 (min · 1))) else (least, most)
      if most = some 0 then stateWeight
      else repeatedWeight p.innerWeight canBeEmpty least most
  | group p => 2 * stateWeight + p.innerWeight

/-- The weight of a pattern. -/
def weight (p : Pattern) : Nat := 6 * stateWeight + p.innerWeight

/-- The most that a pattern may weigh: ten mebibytes. -/
def weightLimit : Nat := 10485760

end SensorGateway.Pattern
