import SensorGateway.Proofs.Gateway.Advance

/-!
# What a task has been given, and what came of it

Of a run two journals are kept for each task: the chunks that were queued for it, and what it did
with those that it took.  They are kept beside the gateway; no move looks at them.

The journals tell all that matters of the task (`Moment.carries_run`): its session is the one that
comes of handling the chunks in the second journal, the events are those told on the way, and the
chunks of the first journal are those of the second, then one that has been taken and not yet
handled, then those that wait.
-/

namespace SensorGateway

/-! ## The journals -/

namespace Moment

/-- What is noted of the moves, one after another. -/
def journal {α : Type} (note : Moment → Move → Option α) (m : Moment) : List Move → List α
  | [] => []
  | move :: moves =>
      (note m move).toList ++ (m.step? move).elim [] fun m' => m'.journal note moves

/-- The chunks that the moves queue for a task. -/
def received (m : Moment) (n : Nat) (moves : List Move) : List Bytes :=
  m.journal (received? n) moves

/-- What the task does with chunks in the moves. -/
def handled (m : Moment) (n : Nat) (moves : List Move) : List Handling :=
  m.journal (handling? n) moves

/-- A journal begins with what is noted of the first move. -/
theorem journal_cons {α : Type} {note : Moment → Move → Option α} {m m' : Moment} {move : Move}
    (hstep : m.step? move = some m') (moves : List Move) :
    m.journal note (move :: moves) = (note m move).toList ++ m'.journal note moves := by
  rw [journal, hstep]
  rfl

end Moment

/-! ## Following a task -/

namespace Task

/-- The chunks that the task has been given and has not yet handled. -/
def held (t : Task) : List Bytes :=
  match t.phase with
  | .decoding chunk => chunk :: t.chunks
  | .waiting | .reporting _ | .publishing _ | .emitting _ | .ended => t.chunks

/-- With these chunks received and these handled, the task `t` has become `t'`. -/
structure Follows (t : Task) (received : List Bytes) (handled : List Handling) (t' : Task) :
    Prop where
  session : (t.session.handleAll (handled.map Handling.input)).session = t'.session
  events : (t.session.handleAll (handled.map Handling.input)).events
    = handled.flatMap Handling.events
  held : t'.phase ≠ .ended → t.phase ≠ .ended ∧
    t.held ++ received = handled.map Handling.chunk ++ t'.held

variable {t t' t'' : Task}

/-- A task whose session and chunks stay the same has received and handled nothing. -/
theorem Follows.of_same (hsession : t'.session = t.session)
    (hheld : t'.phase ≠ .ended → t.phase ≠ .ended ∧ t'.held = t.held) : t.Follows [] [] t' where
  session := hsession.symm
  events := rfl
  held hgoing := ⟨(hheld hgoing).1, by rw [(hheld hgoing).2, List.append_nil]; rfl⟩

/-- A task to which nothing happens has received and handled nothing. -/
theorem Follows.refl (t : Task) : t.Follows [] [] t := .of_same rfl fun hgoing => ⟨hgoing, rfl⟩

/-- What a task goes through in two stretches it goes through in both. -/
theorem Follows.trans {received later : List Bytes} {handled after : List Handling}
    (h : t.Follows received handled t') (h' : t'.Follows later after t'') :
    t.Follows (received ++ later) (handled ++ after) t'' where
  session := by
    rw [List.map_append, DeviceSession.session_handleAll_append, h.session, h'.session]
  events := by
    rw [List.map_append, DeviceSession.events_handleAll_append, h.session, h.events, h'.events,
      List.flatMap_append]
  held hgoing := by
    obtain ⟨hgoing, hlater⟩ := h'.held hgoing
    obtain ⟨hgoing, hheld⟩ := h.held hgoing
    refine ⟨hgoing, ?_⟩
    calc t.held ++ (received ++ later)
        = (t.held ++ received) ++ later := (List.append_assoc ..).symm
      _ = handled.map Handling.chunk ++ (t'.held ++ later) := by rw [hheld, List.append_assoc]
      _ = (handled ++ after).map Handling.chunk ++ t''.held := by
          rw [hlater, List.map_append, List.append_assoc]

/-! ## What a task does -/

/-- A task that takes a chunk holds it until it is handled. -/
theorem follows_takeChunk (hphase : t.phase = .waiting) : t.Follows [] [] t.takeChunk := by
  unfold takeChunk
  cases hchunks : t.chunks with
  | nil => exact .refl t
  | cons chunk rest =>
      refine .of_same rfl fun _ => ⟨by simp [hphase], ?_⟩
      simp only [held, hphase, hchunks]

/-- A task that has ended holds its chunks for ever. -/
theorem follows_finish (t : Task) : t.Follows [] [] t.finish :=
  .of_same rfl fun hgoing => absurd rfl hgoing

/-- A task that decodes a chunk has handled it. -/
theorem follows_decode {chunk : Bytes} (hphase : t.phase = .decoding chunk) (now : Instant) :
    t.Follows [] [{ chunk, time := now, events := (t.session.handle chunk now).events }]
      (t.decode chunk now).1 := by
  refine ⟨rfl, ?_, fun _ => ⟨by simp [hphase], ?_⟩⟩
  · simp [Handling.input, DeviceSession.handleAll]
  · -- it waits, or has something to report
    unfold decode
    dsimp only
    split <;> simp [held, hphase]

/-- Emitting handles nothing. -/
theorem follows_goOn {events : List Event} (hphase : t.phase = .emitting events)
    (rest : List Event) : t.Follows [] [] (t.goOn rest) := by
  refine .of_same rfl fun _ => ⟨by simp [hphase], ?_⟩
  rcases t.goOn_cases rest with h | h <;> simp only [h, held, hphase]

/-- A task has received a chunk that is put into its queue. -/
theorem follows_enqueue (t : Task) (chunk : Bytes) : t.Follows [chunk] [] (t.enqueue chunk) := by
  refine ⟨rfl, rfl, fun hgoing => ⟨hgoing, ?_⟩⟩
  unfold held enqueue
  cases t.phase <;> rfl

/-- What a task does in a move is what the journals say of it. -/
theorem Advances.follows {received : Option Bytes} {handled : Option Handling}
    {report : Option Output} (h : t.Advances received handled report t') :
    t.Follows received.toList handled.toList t' := by
  cases h with
  | idle hsession hphase hchunks =>
      refine .of_same hsession fun hgoing => ⟨hphase ▸ hgoing, ?_⟩
      rw [held, held, hphase, hchunks]
  | enqueue chunk _ => exact t.follows_enqueue chunk
  | takeChunk hphase => exact follows_takeChunk hphase
  | finish _ => exact t.follows_finish
  | decode now hphase => exact follows_decode hphase now
  | check hphase => exact .of_same rfl fun _ => ⟨by simp [hphase], by simp only [held, hphase]⟩
  | publish hphase => exact .of_same rfl fun _ => ⟨by simp [hphase], by simp only [held, hphase]⟩
  | emit hphase => exact follows_goOn hphase _

end Task

/-- The task with this number goes on as the journals say. -/
def Gateway.Carries (g : Gateway) (n : Nat) (received : List Bytes) (handled : List Handling)
    (g' : Gateway) : Prop :=
  ∀ t, g.task? n = some t → ∃ t', g'.task? n = some t' ∧ t.Follows received handled t'

/-! ## Following a run -/

namespace Moment

variable {m m' : Moment} {moves : List Move}

/-- A task that is there goes on as the journals of the run say. -/
theorem carries_run (hrun : m.run? moves = some m') (n : Nat) :
    m.gateway.Carries n (m.received n moves) (m.handled n moves) m'.gateway := by
  induction moves generalizing m with
  | nil =>
      cases hrun
      exact fun t ht => ⟨t, ht, .refl t⟩
  | cons move moves ih =>
      obtain ⟨m₁, hstep, hrun⟩ := Option.bind_eq_some_iff.mp hrun
      intro t ht
      obtain ⟨t₁, ht₁, hfirst⟩ := advances_step hstep ht
      obtain ⟨t', ht', hrest⟩ := ih hrun t₁ ht₁
      refine ⟨t', ht', ?_⟩
      rw [received, handled, journal_cons hstep, journal_cons hstep]
      exact hfirst.follows.trans hrest

end Moment

end SensorGateway
