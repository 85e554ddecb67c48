import SensorGateway.Proofs.Gateway.Aligned
import SensorGateway.Proofs.Session.Outputs

/-!
# What a move does with a task

A move does one of a few things with a task, if it does anything: it queues a chunk for it, or lets
it come a step further (`Task.Advances`).  Three things are worth a note, which nothing in the
gateway looks at: a chunk that is queued, what the task makes of a chunk, and what it reports, which
is its record for the publisher and the events for the application.

Everything that is said of what becomes of a task in a run is said by going through these cases
(`Moment.advances_step`).
-/

namespace SensorGateway

/-! ## Notes -/

/-- A chunk that a task has handled, when, and the events that it made of it. -/
structure Handling where
  chunk : Bytes
  time : Instant
  events : List Event

/-- What the session was given. -/
def Handling.input (h : Handling) : Bytes × Instant := (h.chunk, h.time)

/-- What the task does with its chunk in its next step, if it has taken one. -/
def Task.handling? (t : Task) (now : Instant) : Option Handling :=
  match t.phase with
  | .decoding chunk => some { chunk, time := now, events := (t.session.handle chunk now).events }
  | .waiting | .reporting _ | .publishing _ | .emitting _ | .ended => none

/-- What the task reports in its next step. -/
def Task.report? (t : Task) : Option Output :=
  match t.phase with
  | .publishing events => some { events, record := t.session.record.timeless }
  | .waiting | .decoding _ | .reporting _ | .emitting _ | .ended => none

/-- The chunk, if this is the task that it is pushed to and it is queued there. -/
def Gateway.queued? (g : Gateway) (n k : Nat) (chunk : Bytes) : Option Bytes :=
  if k = n ∧ (g.push k chunk).1 = .queued then some chunk else none

/-- The chunk that the access queues for a task. -/
def Access.received? (g : Gateway) (n : Nat) : Access → Option Bytes
  | send k chunk | offer k chunk => g.queued? n k chunk
  | _ => none

namespace Moment

/-- The chunk that the move queues for a task. -/
def received? (n : Nat) (m : Moment) : Move → Option Bytes
  | .offer k chunk => m.gateway.queued? n k chunk
  | .access => m.pending.head?.bind (Access.received? m.gateway n)
  | _ => none

/-- What the task does with a chunk in the move. -/
def handling? (n : Nat) (m : Moment) : Move → Option Handling
  | .task k now => if k = n then (m.gateway.task? n).bind (Task.handling? · now) else none
  | _ => none

/-- What the task reports in the move. -/
def report? (n : Nat) (m : Moment) : Move → Option Output
  | .task k _ => if k = n then (m.gateway.task? n).bind Task.report? else none
  | _ => none

end Moment

/-! ## What can become of a task -/

/-- What one move can do with a task: queue a chunk for it, let it come to something, let it
report. -/
inductive Task.Advances (t : Task) : Option Bytes → Option Handling → Option Output → Task → Prop
  | idle {t' : Task} : t'.session = t.session → t'.phase = t.phase → t'.chunks = t.chunks →
      Advances t none none none t'
  | enqueue (chunk : Bytes) : t.phase ≠ .ended →
      Advances t (some chunk) none none (t.enqueue chunk)
  | takeChunk : t.phase = .waiting → Advances t none none none t.takeChunk
  | finish : t.phase ≠ .ended → Advances t none none none t.finish
  | decode {chunk : Bytes} (now : Instant) : t.phase = .decoding chunk →
      Advances t none
        (some { chunk, time := now, events := (t.session.handle chunk now).events }) none
        (t.decode chunk now).1
  | check {events : List Event} : t.phase = .reporting events →
      Advances t none none none { t with phase := .publishing events }
  | publish {events : List Event} : t.phase = .publishing events →
      Advances t none none (some { events, record := t.session.record.timeless })
        { t with phase := .emitting events }
  | emit {events : List Event} : t.phase = .emitting events →
      Advances t none none none (t.goOn events.tail)

namespace Task

variable {t t' t'' : Task}

/-- A task may stay as it is. -/
theorem Advances.refl (t : Task) : t.Advances none none none t := .idle rfl rfl rfl

/-- A task that looks for a chunk advances by nothing that is noted, -/
theorem advances_take (hphase : t.phase = .waiting) : t.Advances none none none t.take := by
  unfold take
  split
  · exact .finish (by simp [hphase])
  · exact .takeChunk hphase

/-- and so does one that lingers, -/
theorem advances_linger (t : Task) : t.Advances none none none t.linger := by
  unfold linger
  split
  next hphase => exact .takeChunk hphase
  all_goals exact .refl t

/-- and one that looks whether to report. -/
theorem advances_check {events : List Event} (hphase : t.phase = .reporting events) :
    t.Advances none none none (t.check events) := by
  unfold Task.check
  split
  · exact .check hphase
  · exact .finish (by simp [hphase])

end Task

namespace Gateway

variable {g h : Gateway} {n k : Nat} {t : Task}

/-- A task advances by what is done to it, and the others by nothing. -/
theorem advances_modifyTask {received : Option Bytes} {handled : Option Handling}
    {report : Option Output} {f : Task → Task} (ht : g.task? n = some t)
    (hk : k = n → t.Advances received handled report (f t))
    (hne : k ≠ n → received = none ∧ handled = none ∧ report = none) :
    ∃ t', (g.modifyTask k f).task? n = some t' ∧ t.Advances received handled report t' := by
  rw [task?_modifyTask, ht]
  split
  next heq => exact ⟨f t, rfl, hk heq⟩
  next hother =>
    obtain ⟨rfl, rfl, rfl⟩ := hne hother
    exact ⟨t, rfl, .refl t⟩

/-- A task to which a chunk is pushed advances by it, if it is queued. -/
theorem advances_push (ht : g.task? n = some t) (k : Nat) (chunk : Bytes) :
    ∃ t', (g.push k chunk).2.task? n = some t' ∧
      t.Advances (g.queued? n k chunk) none none t' := by
  unfold queued?
  rcases g.push_cases k chunk with ⟨hlost, hsame⟩ | hpushed
  · rw [if_neg fun hqueued => hlost hqueued.2, hsame]
    exact ⟨t, ht, .refl t⟩
  · rw [hpushed]
    refine advances_modifyTask ht (fun heq => ?_) fun hne => ⟨?_, rfl, rfl⟩
    · rw [if_pos ⟨heq, rfl⟩]
      refine .enqueue chunk fun hended => ?_
      -- nothing is queued for a task that is over
      subst heq
      have hover : t.isEnded = true := by
        rw [Task.isEnded, hended]
        rfl
      have hclosed : g.push k chunk = (.closed, g) := by simp [push, ht, hover]
      rw [hclosed] at hpushed
      cases hpushed
    · exact if_neg fun hqueued => hne hqueued.1

/-- In an access a task advances by the chunk that is queued for it. -/
theorem advances_change (ht : g.task? n = some t) (x : Access) :
    ∃ t', (x.change g).task? n = some t' ∧ t.Advances (x.received? g n) none none t' := by
  cases x with
  | silence k =>
      exact advances_modifyTask ht (fun _ => .idle rfl rfl rfl) fun _ => ⟨rfl, rfl, rfl⟩
  | abort k =>
      exact advances_modifyTask ht (fun _ => .idle rfl rfl rfl) fun _ => ⟨rfl, rfl, rfl⟩
  | bind id topics =>
      refine ⟨t, ?_, .refl t⟩
      rw [Access.change, task?, tasks_bind]
      exact ht
  | start id device chunk =>
      refine ⟨t, ?_, .refl t⟩
      have hlt : n < g.tasks.length := (List.getElem?_eq_some_iff.mp ht).1
      rw [Access.change, task?_start, if_neg (Nat.ne_of_lt hlt), ht]
  | send k chunk => exact advances_push ht k chunk
  | offer k chunk => exact advances_push ht k chunk
  | unlist | unlistAll | detach | enlist | find | findTank => exact ⟨t, ht, .refl t⟩

/-- In its step a task advances by what it handles or reports, and the others by nothing. -/
theorem advances_advance (ht : g.task? n = some t) {now : Instant} {o : Outcome Unit}
    (ho : g.advance k now = some o) :
    ∃ t', o.gateway.task? n = some t' ∧
      t.Advances none (if k = n then t.handling? now else none)
        (if k = n then t.report? else none) t' := by
  obtain ⟨t₁, ht₁, hstep⟩ := advance_eq_some_iff.mp ho
  by_cases hk : k = n
  · subst hk
    cases ht.symm.trans ht₁
    simp only [if_true]
    -- what the step makes of the task is what becomes of it
    have hbecomes {f : Task → Task} {handled : Option Handling} {report : Option Output}
        {h : Gateway} (hf : t.Advances none handled report (f t))
        (hh : h.task? k = (g.modifyTask k f).task? k) :
        ∃ t', h.task? k = some t' ∧ t.Advances none handled report t' := by
      refine ⟨f t, ?_, hf⟩
      rw [hh, task?_modifyTask, if_pos rfl, ht, Option.map_some]
    cases hstep with
    | take hphase =>
        simp only [Task.handling?, Task.report?, hphase]
        exact hbecomes (Task.advances_take hphase) rfl
    | decode hphase =>
        simp only [Task.handling?, Task.report?, hphase]
        exact hbecomes (.decode now hphase) rfl
    | check hphase =>
        simp only [Task.handling?, Task.report?, hphase]
        exact hbecomes (Task.advances_check hphase) rfl
    | publish hphase =>
        simp only [Task.handling?, Task.report?, hphase]
        exact hbecomes (.publish hphase) rfl
    | emit hphase =>
        simp only [Task.handling?, Task.report?, hphase]
        exact hbecomes (.emit hphase) rfl
  · rw [if_neg hk, if_neg hk]
    refine ⟨t, ?_, .refl t⟩
    rw [← ht]
    cases hstep <;> exact (task?_modifyTask ..).trans (if_neg hk)

/-- Only by being started does a task come into being. -/
theorem absent_change (habsent : g.task? n = none) (x : Access) :
    (x.change g).task? n = none ∨
      ∃ id device chunk, x = .start id device chunk ∧
        (x.change g).task? n = some (.new (g.newSession device)) := by
  have hmodify (k : Nat) (f : Task → Task) : (g.modifyTask k f).task? n = none := by
    rw [task?_modifyTask, habsent, Option.map_none, ite_self]
  have hpush (k : Nat) (chunk : Bytes) : (g.push k chunk).2.task? n = none := by
    rcases g.push_eq k chunk with h | h
    · rw [h, habsent]
    · rw [h]
      exact hmodify k _
  cases x with
  | start id device chunk =>
      rw [Access.change, task?_start]
      split
      · exact Or.inr ⟨id, device, chunk, rfl, rfl⟩
      · exact Or.inl habsent
  | silence k => exact Or.inl (hmodify k _)
  | abort k => exact Or.inl (hmodify k _)
  | bind id topics =>
      refine Or.inl ?_
      rw [Access.change, task?, tasks_bind]
      exact habsent
  | send k chunk => exact Or.inl (hpush k chunk)
  | offer k chunk => exact Or.inl (hpush k chunk)
  | unlist | unlistAll | detach | enlist | find | findTank => exact Or.inl habsent

end Gateway

namespace Moment

variable {m m' : Moment} {move : Move} {n : Nat} {t : Task}

/-- What becomes of a task in a move, and what the journals say of it. -/
theorem advances_step (hstep : m.step? move = some m') (ht : m.gateway.task? n = some t) :
    ∃ t', m'.gateway.task? n = some t' ∧
      t.Advances (m.received? n move) (m.handling? n move) (m.report? n move) t' := by
  cases move with
  | call c =>
      obtain ⟨-, rfl⟩ := step?_call hstep
      exact ⟨t, ht, .refl t⟩
  | access =>
      obtain ⟨x, rest, hpending, -, rfl⟩ := step?_access hstep
      simp only [received?, handling?, report?, hpending, List.head?_cons, Option.bind_some]
      exact Gateway.advances_change ht x
  | task k now =>
      obtain ⟨o, ho, rfl⟩ := Option.map_eq_some_iff.mp hstep
      simp only [received?, handling?, report?, ht, Option.bind_some]
      exact Gateway.advances_advance ht ho
  | linger k =>
      cases hstep
      exact Gateway.advances_modifyTask ht (fun _ => t.advances_linger) fun _ => ⟨rfl, rfl, rfl⟩
  | offer k chunk =>
      cases hstep
      exact Gateway.advances_push ht k chunk
  | dispatch sink =>
      obtain ⟨d, -, rfl⟩ := Option.map_eq_some_iff.mp hstep
      exact ⟨t, ht, .refl t⟩
  | receive =>
      cases hstep
      exact ⟨t, ht, .refl t⟩

/-- A task that is not there yet has been given nothing and done nothing. -/
theorem notes_of_absent (habsent : m.gateway.task? n = none) (move : Move) :
    m.received? n move = none ∧ m.handling? n move = none := by
  have hpush (k : Nat) (chunk : Bytes) : m.gateway.queued? n k chunk = none := by
    refine if_neg ?_
    rintro ⟨rfl, hqueued⟩
    rw [Gateway.push, habsent] at hqueued
    cases hqueued
  cases move with
  | access =>
      refine ⟨?_, rfl⟩
      cases hpending : m.pending with
      | nil => simp only [received?, hpending, List.head?_nil, Option.bind_none]
      | cons x rest =>
          simp only [received?, hpending, List.head?_cons, Option.bind_some]
          cases x with
          | send k chunk => exact hpush k chunk
          | offer k chunk => exact hpush k chunk
          | _ => rfl
  | task k now =>
      refine ⟨rfl, ?_⟩
      rw [handling?, habsent, Option.bind_none, ite_self]
  | offer k chunk => exact ⟨hpush k chunk, rfl⟩
  | call | linger | dispatch | receive => exact ⟨rfl, rfl⟩

/-- The access that starts a task is the only way for it to come into being. -/
theorem started_of_absent (habsent : m.gateway.task? n = none) (hstep : m.step? move = some m')
    {t : Task} (ht : m'.gateway.task? n = some t) :
    ∃ id device chunk rest, m.pending = .start id device chunk :: rest ∧
      t = .new (m.gateway.newSession device) := by
  rcases step_cases hstep with
    ⟨c, -, -, rfl⟩ | ⟨x, rest, -, hpending, -, rfl⟩ | ⟨-, -, hagrees, -⟩
  · cases habsent.symm.trans ht
  · rcases Gateway.absent_change habsent x with hnone | ⟨id, device, chunk, rfl, hnew⟩
    · cases hnone.symm.trans ht
    · exact ⟨id, device, chunk, rest, hpending, Option.some.inj (ht.symm.trans hnew)⟩
  · have hbadge := hagrees.badge n
    rw [Gateway.badge?, Gateway.badge?, habsent, ht] at hbadge
    cases hbadge

end Moment

end SensorGateway
