import SensorGateway.Bytes
import SensorGateway.Number.Scalar

/-!
# Operations that can trap

A machine stops a program that looks beyond the end of a list, shifts a word by more bits than it
has, counts further than a word goes or divides by nothing.  In the definitions of this library none
of that shows: there a look beyond the end has an answer, or an error of its own.  A *guarded*
operation answers a *trap* wherever the machine would stop, and is the same otherwise.

What a session does is said once more with guarded operations, in the order in which the machine
comes to them.  That no trap is ever answered is then a statement about all that a session can be
given, and that the rest of the answer is the session's own shows that nothing was left out.
-/

namespace SensorGateway

/-- Why an operation has no result. -/
inductive Trap
  /-- An index, or the end of a slice, lies beyond what is there. -/
  | outside
  /-- A difference is below zero, a count too large for its word, or a word is shifted by more bits
  than it has. -/
  | overflow
  /-- A division by zero. -/
  | zeroDivisor
  /-- A frame has been refused for something that was looked at before. -/
  | misjudged
  /-- A loop goes on for longer than it may. -/
  | endless
  deriving DecidableEq, Repr

namespace Guarded

/-! ## The operations -/

section Operations

variable {α : Type}

/-- The element at an index. -/
def get (xs : List α) (i : Nat) : Except Trap α :=
  match xs[i]? with
  | some x => .ok x
  | none => .error .outside

/-- The first elements. -/
def front (xs : List α) (count : Nat) : Except Trap (List α) :=
  if count ≤ xs.length then .ok (xs.take count) else .error .outside

/-- What is left without the first elements. -/
def cut (xs : List α) (count : Nat) : Except Trap (List α) :=
  if count ≤ xs.length then .ok (xs.drop count) else .error .outside

/-- A difference of numbers without a sign. -/
def minus (a b : Nat) : Except Trap Nat :=
  if b ≤ a then .ok (a - b) else .error .overflow

/-- A counter of 64 bits that is to go up. -/
def plus (counter n : Nat) : Except Trap Nat :=
  if counter + n < twoTo 64 then .ok (counter + n) else .error .overflow

/-- A single bit, in a word of so many. -/
def bit (width place : Nat) : Except Trap Nat :=
  if place < width then .ok (1 <<< place) else .error .overflow

/-- A number divided by a count. -/
def share [Scalar α] (x : α) (count : Nat) : Except Trap α :=
  if count = 0 then .error .zeroDivisor else .ok (x / Scalar.ofNat count)

/-- What a decoder answers, if it has not asked for a byte outside its payload. -/
def answer {ε : Type} (wild : ε → Bool) : Except ε α → Except Trap (Except ε α)
  | .ok a => .ok (.ok a)
  | .error e => if wild e then .error .outside else .ok (.error e)

end Operations

/-! ## When they do not trap -/

section Safe

variable {α : Type}

/-- An item that is there can be got. -/
theorem get_eq_ok {xs : List α} {i : Nat} {x : α} (h : xs[i]? = some x) : get xs i = .ok x := by
  rw [get, h]

/-- A front part that is not too long can be taken, -/
theorem front_eq_ok {xs : List α} {count : Nat} (h : count ≤ xs.length) :
    front xs count = .ok (xs.take count) := if_pos h

/-- and cut off. -/
theorem cut_eq_ok {xs : List α} {count : Nat} (h : count ≤ xs.length) :
    cut xs count = .ok (xs.drop count) := if_pos h

/-- A number can be subtracted if it is not greater. -/
theorem minus_eq_ok {a b : Nat} (h : b ≤ a) : minus a b = .ok (a - b) := if_pos h

/-- A counter can be raised if it does not overflow. -/
theorem plus_eq_ok {counter n : Nat} (h : counter + n < twoTo 64) :
    plus counter n = .ok (counter + n) := if_pos h

/-- A bit can be made at each place within the width. -/
theorem bit_eq_ok {width place : Nat} (h : place < width) : bit width place = .ok (1 <<< place) :=
  if_pos h

/-- A number can be divided among some. -/
theorem share_eq_ok [Scalar α] {x : α} {count : Nat} (h : count ≠ 0) :
    share x count = .ok (x / Scalar.ofNat count) := if_neg h

/-- A decoder can be believed if none of its errors comes of a read outside. -/
theorem answer_eq_ok {ε : Type} {wild : ε → Bool} {r : Except ε α}
    (h : ∀ e, r = .error e → wild e = false) : answer wild r = .ok r := by
  cases r with
  | ok a => rfl
  | error e => simp [answer, h e rfl]

end Safe

end Guarded

end SensorGateway
