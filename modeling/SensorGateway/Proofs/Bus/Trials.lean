import Mathlib.Data.List.Basic
import SensorGateway.Log.Entry

/-!
# Trials of one kind

Something is tried again and again.  While trials fail there is a trouble; a failure after a success
begins it, and a success after a failure ends it.  A mark remembers how the last trial ended, and
what is to be said about a trial is decided by the mark as it was before (`Trial.told`).  So the lines
tell of the edges (`EdgeTriggered`): of the first failure of a trouble, or of each of them if repeats
are wanted, and of the first success after it.
-/

namespace SensorGateway

/-- Something was tried. -/
structure Trial where
  /-- The line that warns of the failure; nothing if the trial succeeded. -/
  warning : Option Log.Entry
  /-- What was said about it. -/
  said : List Log.Entry

namespace Trial

/-- Whether the trial failed. -/
def failed (x : Trial) : Bool := x.warning.isSome

/-- Whether the last of the trials failed; if there are none, what is given. -/
def failsAfter (failing : Bool) (xs : List Trial) : Bool := (xs.getLast?.map failed).getD failing

variable (suppress : Bool) (recovery : Log.Entry)

/-- What is to be said about a trial, if the one before it has failed or not. -/
def told (failing : Bool) (x : Trial) : List Log.Entry :=
  match x.warning with
  | some w => if suppress && failing then [] else [w]
  | none => if failing then [recovery] else []

/-- About each of the trials is said what is to be said. -/
def Told : Bool → List Trial → Prop
  | _, [] => True
  | failing, x :: xs => x.said = x.told suppress recovery failing ∧ Told x.failed xs

/-- The mark is moved by a trial, and what is to be said is said; without one it stays. -/
def Moves (mark : Bool) (x? : Option Trial) (mark' : Bool) : Prop :=
  match x? with
  | none => mark' = mark
  | some x => mark' = x.failed ∧ x.said = x.told suppress recovery mark

variable {suppress : Bool} {recovery : Log.Entry} {failing : Bool} {xs ys : List Trial} {x : Trial}
  {w : Log.Entry}

/-- How the last of several trials ended does not depend on what was before the first of them. -/
theorem failsAfter_cons (failing : Bool) (x : Trial) (xs : List Trial) :
    failsAfter failing (x :: xs) = failsAfter x.failed xs := by
  unfold failsAfter
  rw [List.getLast?_cons]
  cases xs.getLast? <;> rfl

/-- The last trial is the one that was made last. -/
theorem failsAfter_concat (failing : Bool) (xs : List Trial) (x : Trial) :
    failsAfter failing (xs ++ [x]) = x.failed := by
  unfold failsAfter
  rw [List.getLast?_concat]
  rfl

/-- What is said about later trials depends on how the earlier ones have ended. -/
theorem told_append :
    Told suppress recovery failing (xs ++ ys) ↔
      Told suppress recovery failing xs ∧
        Told suppress recovery (failsAfter failing xs) ys := by
  induction xs generalizing failing with
  | nil => exact (true_and _).symm.to_iff
  | cons x xs ih => rw [List.cons_append, Told, Told, ih, and_assoc, failsAfter_cons]

/-- What is said about one of the trials is decided by those before it. -/
theorem Told.said_eq {past later : List Trial} (h : Told suppress recovery false xs)
    (hxs : xs = past ++ x :: later) :
    x.said = x.told suppress recovery (failsAfter false past) := by
  rw [hxs, told_append] at h
  exact h.2.1

/-- While failures go on, nothing more is said of them. -/
theorem Told.silent (h : Told true recovery true xs) (hfailed : ∀ x ∈ xs, x.failed = true) :
    xs.flatMap said = [] ∧ failsAfter true xs = true := by
  induction xs with
  | nil => exact ⟨rfl, rfl⟩
  | cons x xs ih =>
      obtain ⟨hx, hxs⟩ := List.forall_mem_cons.mp hfailed
      obtain ⟨w, hw⟩ := Option.isSome_iff_exists.mp hx
      obtain ⟨hsaid, h⟩ := h
      rw [hx] at h
      obtain ⟨hnone, hlast⟩ := ih h hxs
      refine ⟨?_, ?_⟩
      · rw [List.flatMap_cons, hnone, hsaid, told, hw]
        rfl
      · rw [failsAfter_cons, hx]
        exact hlast

/-- Nothing is said about a trial that ends as the one before it. -/
theorem told_of_same (hsame : x.failed = failing) : x.told true recovery failing = [] := by
  unfold told
  cases hw : x.warning with
  | none =>
      obtain rfl : failing = false := by rw [← hsame, failed, hw]; rfl
      rfl
  | some w =>
      obtain rfl : failing = true := by rw [← hsame, failed, hw]; rfl
      rfl

/-- At an even place there is a warning of one of the trials, and at an odd place the recovery. -/
def Placed (recovery : Log.Entry) (xs : List Trial) (place : Nat) (line : Log.Entry) : Prop :=
  if place % 2 = 0 then ∃ x ∈ xs, x.warning = some line else line = recovery

/-- An earlier trial, and an even number of lines, make no difference to a later line. -/
theorem Placed.later {i j : Nat} {line : Log.Entry} (h : Placed recovery xs i line)
    (hparity : i % 2 = j % 2) : Placed recovery (x :: xs) j line := by
  unfold Placed at *
  rw [hparity] at h
  split
  next heven =>
    rw [if_pos heven] at h
    obtain ⟨y, hy, hw⟩ := h
    exact ⟨y, List.mem_cons_of_mem x hy, hw⟩
  next hodd =>
    rw [if_neg hodd] at h
    exact h

/-- When failures begin or end, one line is said. -/
theorem told_of_change (hchange : x.failed ≠ failing) :
    ∃ line, x.told true recovery failing = [line] ∧
      Placed recovery (x :: xs) failing.toNat line := by
  unfold told
  cases hw : x.warning with
  | none =>
      have hfailed : x.failed = false := by rw [failed, hw]; rfl
      obtain rfl : failing = true := eq_true_of_ne_false fun h => hchange (h ▸ hfailed)
      exact ⟨recovery, rfl, rfl⟩
  | some w =>
      have hfailed : x.failed = true := by rw [failed, hw]; rfl
      obtain rfl : failing = false := eq_false_of_ne_true fun h => hchange (h ▸ hfailed)
      exact ⟨w, rfl, x, List.mem_cons_self, hw⟩

/-- Warnings and recoveries take turns.  A recovery comes first if there is a failure to recover
from. -/
theorem Told.alternate (h : Told true recovery failing xs) {i : Nat} {line : Log.Entry}
    (hline : (xs.flatMap said)[i]? = some line) :
    Placed recovery xs (i + failing.toNat) line := by
  induction xs generalizing failing i with
  | nil => cases hline
  | cons x xs ih =>
      obtain ⟨hsaid, h⟩ := h
      rw [List.flatMap_cons, hsaid] at hline
      by_cases hsame : x.failed = failing
      · rw [told_of_same hsame, List.nil_append] at hline
        exact (ih h hline).later (by rw [hsame])
      · obtain ⟨first, htold, hfirst⟩ := told_of_change hsame
        rw [htold, List.singleton_append] at hline
        cases i with
        | zero =>
            obtain rfl : first = line := Option.some.inj hline
            rw [Nat.zero_add]
            exact hfirst
        | succ i =>
            -- The later lines are one place further back, and the latch has moved.
            have hmoved : x.failed.toNat + failing.toNat = 1 := by
              cases hx : x.failed <;> cases failing <;> simp_all
            exact (ih h hline).later (by omega)

end Trial

/-! ## Edges -/

/-- What is said about trials of one kind: that a trouble has begun, and that it is over. -/
structure EdgeTriggered (suppress : Bool) (recovery : Log.Entry) (trials : List Trial) : Prop where
  /-- A failure is warned of, unless repeats are suppressed and the trial before it failed too. -/
  failing : ∀ {past later : List Trial} {x : Trial} {w : Log.Entry},
    trials = past ++ x :: later → x.warning = some w →
      x.said = if suppress && Trial.failsAfter false past then [] else [w]
  /-- Of the successes, those that follow a failure are told. -/
  succeeding : ∀ {past later : List Trial} {x : Trial},
    trials = past ++ x :: later → x.warning = none →
      x.said = if Trial.failsAfter false past then [recovery] else []
  /-- If repeats are suppressed, every second line is the recovery, and the first one a warning. -/
  alternating : suppress = true → ∀ {i : Nat} {line : Log.Entry},
    (trials.flatMap Trial.said)[i]? = some line →
      if i % 2 = 0 then ∃ x ∈ trials, x.warning = some line else line = recovery
  /-- If repeats are suppressed, failures in a row, as many as there are, are warned of once, and
  the success after them is told. -/
  once : suppress = true → ∀ {before failures after : List Trial} {x : Trial} {w : Log.Entry},
    trials = before ++ x :: failures ++ after → Trial.failsAfter false before = false →
      x.warning = some w → (∀ y ∈ failures, y.failed = true) →
        (∀ y ∈ after.head?, y.failed = false) →
          (x :: failures).flatMap Trial.said = [w] ∧ ∀ y ∈ after.head?, y.said = [recovery]

/-- Trials that are told about as they should be are told about at the edges. -/
theorem Trial.Told.edgeTriggered {suppress : Bool} {recovery : Log.Entry} {xs : List Trial}
    (h : Told suppress recovery false xs) : EdgeTriggered suppress recovery xs := by
  refine ⟨fun hxs hw => ?_, fun hxs hw => ?_, fun hsuppress => ?_, fun hsuppress => ?_⟩
  · rw [h.said_eq hxs, told, hw]
  · rw [h.said_eq hxs, told, hw]
  · subst hsuppress
    exact h.alternate
  · subst hsuppress
    intro before failures after x w hxs hbefore hw hfailed hafter
    have hx : x.failed = true := by rw [failed, hw]; rfl
    rw [hxs, List.append_assoc, List.cons_append, told_append, hbefore] at h
    obtain ⟨-, hsaid, h⟩ := h
    rw [hx, told_append] at h
    obtain ⟨hnone, hlast⟩ := h.1.silent hfailed
    refine ⟨?_, fun y hy => ?_⟩
    · rw [List.flatMap_cons, hnone, hsaid, told, hw]
      rfl
    · cases after with
      | nil => cases hy
      | cons z later =>
          obtain rfl : z = y := Option.some.inj hy
          have hrecovered := h.2.1
          have hz := Option.isSome_eq_false_iff.mp (hafter z hy)
          rw [hlast, told, Option.isNone_iff_eq_none.mp hz] at hrecovered
          exact hrecovered

/-! ## The mark -/

/-- The trials so far have been told about as they should be, and the mark says how the last one
ended. -/
structure Latched (suppress : Bool) (recovery : Log.Entry) (trials : List Trial) (mark : Bool) :
    Prop where
  told : Trial.Told suppress recovery false trials
  last : Trial.failsAfter false trials = mark

namespace Latched

variable {suppress : Bool} {recovery : Log.Entry} {trials : List Trial} {mark mark' : Bool}

/-- Before the first trial the mark is not set. -/
theorem nil : Latched suppress recovery [] false := ⟨trivial, rfl⟩

/-- A further trial moves the mark. -/
theorem append {x? : Option Trial} (h : Latched suppress recovery trials mark)
    (hmoves : Trial.Moves suppress recovery mark x? mark') :
    Latched suppress recovery (trials ++ x?.toList) mark' := by
  cases x? with
  | none =>
      obtain rfl : mark' = mark := hmoves
      rw [Option.toList_none, List.append_nil]
      exact h
  | some x =>
      obtain ⟨rfl, hsaid⟩ := hmoves
      refine ⟨?_, Trial.failsAfter_concat false trials x⟩
      rw [Option.toList_some, Trial.told_append, h.last]
      exact ⟨h.told, hsaid, trivial⟩

end Latched

end SensorGateway
