import SensorGateway.Gateway.Basic

/-!
# What one step of a task can do

The steps of a task, one for each phase that it can be in.  Everything that is said of a step is
said by going through these cases (`advance_eq_some_iff`).
-/

namespace SensorGateway.Gateway

/-- A step of the task `t`, whose number is `n`, and what comes of it. -/
inductive TaskStep (g : Gateway) (n : Nat) (now : Instant) (t : Task) : Outcome Unit → Prop
  | take : t.phase = .waiting → (t.chunks.isEmpty && !t.aborted) = false →
      TaskStep g n now t { value := (), gateway := g.modifyTask n Task.take, logs := [] }
  | decode {chunk : Bytes} : t.phase = .decoding chunk →
      TaskStep g n now t
        { value := ()
          gateway := g.modifyTask n fun _ => (t.decode chunk now).1
          logs := (t.decode chunk now).2 }
  | check {events : List Event} : t.phase = .reporting events →
      TaskStep g n now t
        { value := (), gateway := g.modifyTask n (Task.check · events), logs := [] }
  | publish {events : List Event} : t.phase = .publishing events →
      TaskStep g n now t
        { value := ()
          gateway :=
            { g with
              publisher :=
                (g.publisher.publish t.session.device t.session.record now).publisher
            }.modifyTask n fun t => { t with phase := .emitting events }
          logs := (g.publisher.publish t.session.device t.session.record now).logs }
  | emit {events : List Event} : t.phase = .emitting events →
      TaskStep g n now t
        { value := ()
          gateway := (g.emit (events.take 1)).modifyTask n (Task.goOn · events.tail)
          logs := [] }

variable {g : Gateway} {n : Nat} {now : Instant} {o : Outcome Unit}

/-- The steps of a task, one for each of its phases, are all that it can do. -/
theorem advance_eq_some_iff :
    g.advance n now = some o ↔ ∃ t, g.task? n = some t ∧ g.TaskStep n now t o := by
  unfold advance
  cases ht : g.task? n with
  | none => simp
  | some t =>
      simp only [Option.some.injEq, exists_eq_left']
      constructor
      · intro ho
        cases hphase : t.phase with
        | ended => simp [hphase] at ho
        | waiting =>
            simp only [hphase] at ho
            split at ho
            · cases ho
            next hchunk =>
              cases ho
              exact .take hphase (Bool.eq_false_iff.mpr hchunk)
        | decoding chunk =>
            simp only [hphase, Option.some.injEq] at ho
            exact ho ▸ .decode hphase
        | reporting events =>
            simp only [hphase, Option.some.injEq] at ho
            exact ho ▸ .check hphase
        | publishing events =>
            simp only [hphase, Option.some.injEq] at ho
            exact ho ▸ .publish hphase
        | emitting events =>
            simp only [hphase, Option.some.injEq] at ho
            exact ho ▸ .emit hphase
      · intro hstep
        cases hstep with
        | take hphase hchunk => simp [hphase, hchunk]
        | decode hphase => simp [hphase]
        | check hphase => simp [hphase]
        | publish hphase => simp [hphase]
        | emit hphase => simp [hphase]

end SensorGateway.Gateway
