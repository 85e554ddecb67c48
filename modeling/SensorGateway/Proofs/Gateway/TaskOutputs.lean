import SensorGateway.Proofs.Gateway.Journal

/-!
# What a task yields

Beside the chunks that are queued for a task, two more journals are kept of it: what comes of each
chunk that it handles, and what it reports.  They hang together (`Task.Yields`): the outputs are
those of the session for the chunks queued so far, without the last ones perhaps, and the reports
are those outputs that have events.  Whether a report gets through is not the task's concern.
-/

namespace SensorGateway

/-! ## Outputs of a task -/

/-- What comes of a chunk, for the session that handles it. -/
def Handling.output (h : Handling) (s : DeviceSession) : Output := s.output h.chunk h.time

/-- What will come of the chunk that the task has taken. -/
def Task.output? (t : Task) (now : Instant) : Option Output :=
  (t.handling? now).map (Handling.output · t.session)

/-- What comes of a chunk in the move. -/
def Moment.output? (n : Nat) (m : Moment) : Move → Option Output
  | .task k now => if k = n then (m.gateway.task? n).bind (Task.output? · now) else none
  | _ => none

/-- What comes of a chunk in a move is what the session makes of the chunk that is handled. -/
theorem Moment.output?_eq {m : Moment} {n : Nat} {t : Task} (ht : m.gateway.task? n = some t)
    (move : Move) : m.output? n move = (m.handling? n move).map (Handling.output · t.session) := by
  cases move with
  | task k now =>
      simp only [output?, handling?, ht, Option.bind_some, Task.output?]
      split <;> rfl
  | call | access | linger | offer | dispatch | receive => rfl

/-- Of a task that is not there yet nothing comes. -/
theorem Moment.output?_of_absent {m : Moment} {n : Nat} (habsent : m.gateway.task? n = none)
    (move : Move) : m.output? n move = none ∧ m.report? n move = none := by
  cases move with
  | task k now => simp [output?, report?, habsent]
  | call | access | linger | offer | dispatch | receive => exact ⟨rfl, rfl⟩

/-! ## How the journals hang together -/

namespace Task

variable {t t' t'' : Task}

/-- What the task has still to report. -/
def due (t : Task) : List Output :=
  match t.phase with
  | .reporting events | .publishing events => [{ events, record := t.session.record.timeless }]
  | .waiting | .decoding _ | .emitting _ | .ended => []

/-- With these chunks received, these outputs and these reports, the task `t` has become `t'`. -/
structure Yields (t : Task) (received : List Bytes) (outputs reports : List Output) (t' : Task) :
    Prop where
  /-- The outputs are those of the session for the first of the chunks, all but those that the task
  still has; a task that has ended may have lost some. -/
  work : ∃ inputs, (t.session.handleAll inputs).session = t'.session ∧
    t.session.outputsAt inputs = outputs ∧ inputs.map Prod.fst <+: t.held ++ received ∧
      (t'.phase ≠ .ended → t.held ++ received = inputs.map Prod.fst ++ t'.held)
  /-- What has been reported was due, or came of a chunk that had events. -/
  reported : reports <+: t.due ++ outputs.filter (!·.events.isEmpty) ∧
    (t'.phase ≠ .ended → t.due ++ outputs.filter (!·.events.isEmpty) = reports ++ t'.due)
  /-- A task that is over stays so. -/
  stays : t.phase = .ended → received = [] ∧ outputs = [] ∧ t'.phase = .ended

/-- A task to which nothing happens yields nothing. -/
theorem Yields.refl (t : Task) : t.Yields [] [] [] t where
  work := ⟨[], rfl, rfl, List.nil_prefix, fun _ => List.append_nil _⟩
  reported := ⟨List.nil_prefix, fun _ => List.append_nil _⟩
  stays hended := ⟨rfl, rfl, hended⟩

/-- A task that has ended has nothing due. -/
theorem due_of_ended (hended : t.phase = .ended) : t.due = [] := by
  simp only [due, hended]

/-- A task that makes no output has yielded nothing new if it still has what it had. -/
theorem Yields.of_held {received : List Bytes} (hsession : t'.session = t.session)
    (hheld : t'.phase ≠ .ended → t'.held = t.held ++ received ∧ t'.due = t.due)
    (hover : t.phase = .ended → received = [] ∧ t'.phase = .ended) :
    t.Yields received [] [] t' where
  work := ⟨[], hsession.symm, rfl, List.nil_prefix, fun hgoing => (hheld hgoing).1.symm⟩
  reported := by
    refine ⟨List.nil_prefix, fun hgoing => ?_⟩
    rw [(hheld hgoing).2]
    exact List.append_nil _
  stays hended := ⟨(hover hended).1, rfl, (hover hended).2⟩

/-- Taking a chunk yields nothing. -/
theorem yields_takeChunk (hphase : t.phase = .waiting) : t.Yields [] [] [] t.takeChunk := by
  unfold takeChunk
  cases hchunks : t.chunks with
  | nil => exact .refl t
  | cons chunk rest =>
      refine .of_held rfl (fun _ => ⟨?_, ?_⟩) fun hended => by simp [hphase] at hended
      · simp only [held, hphase, hchunks, List.append_nil]
      · simp only [due, hphase]

/-- Decoding a chunk yields its output. -/
theorem yields_decode {chunk : Bytes} (hphase : t.phase = .decoding chunk) (now : Instant) :
    t.Yields [] [t.session.output chunk now] [] (t.decode chunk now).1 := by
  have hheld : t.held = chunk :: t.chunks := by simp only [held, hphase]
  have hdue : t.due = [] := by simp only [due, hphase]
  have hevents : (t.session.output chunk now).events = (t.session.handle chunk now).events := rfl
  refine ⟨⟨[(chunk, now)], rfl, rfl, ?_, fun _ => ?_⟩, ⟨List.nil_prefix, fun _ => ?_⟩,
    fun hended => by simp [hphase] at hended⟩
  · rw [hheld]
    exact ⟨t.chunks, by simp⟩
  · -- it waits, or has something to report
    rw [hheld, List.append_nil]
    unfold decode
    dsimp only
    split <;> rfl
  · rw [hdue, List.nil_append, List.nil_append, List.filter_cons, hevents]
    unfold decode
    dsimp only
    by_cases hnone : (t.session.handle chunk now).events.isEmpty = true
    · simp [hnone, due]
    · simp [hnone, due, DeviceSession.output]

/-- Publishing yields the report that was due. -/
theorem yields_publish {events : List Event} (hphase : t.phase = .publishing events) :
    t.Yields [] [] [{ events, record := t.session.record.timeless }]
      { t with phase := .emitting events } := by
  have hdue : t.due = [{ events, record := t.session.record.timeless }] := by
    simp only [due, hphase]
  refine ⟨⟨[], rfl, rfl, List.nil_prefix, fun _ => ?_⟩, ?_,
    fun hended => by simp [hphase] at hended⟩
  · simp only [held, hphase, List.map_nil, List.nil_append, List.append_nil]
  · rw [hdue]
    exact ⟨⟨[], by simp⟩, fun _ => rfl⟩

/-- What a task yields in a move is read off what it does there. -/
theorem Advances.yields {received : Option Bytes} {handled : Option Handling}
    {report : Option Output} (h : t.Advances received handled report t') :
    t.Yields received.toList (handled.map (Handling.output · t.session)).toList report.toList
      t' := by
  cases h with
  | idle hsession hphase hchunks =>
      refine .of_held hsession (fun _ => ⟨?_, ?_⟩) fun hended => ⟨rfl, hphase.trans hended⟩
      · rw [held, held, hphase, hchunks]
        exact (List.append_nil _).symm
      · rw [due, due, hphase, hsession]
  | enqueue chunk hgoing =>
      refine .of_held rfl (fun _ => ⟨?_, rfl⟩) fun hended => absurd hended hgoing
      unfold held Task.enqueue
      cases t.phase <;> rfl
  | takeChunk hphase => exact yields_takeChunk hphase
  | finish hgoing =>
      exact .of_held rfl (fun hstill => absurd rfl hstill) fun hended => absurd hended hgoing
  | decode now hphase => exact yields_decode hphase now
  | check hphase =>
      refine .of_held rfl (fun _ => ⟨?_, ?_⟩) fun hended => by simp [hphase] at hended
      · simp [held, hphase]
      · simp only [due, hphase]
  | publish hphase => exact yields_publish hphase
  | @emit events hphase =>
      refine .of_held rfl (fun _ => ⟨?_, ?_⟩) fun hended => by simp [hphase] at hended
      · rcases t.goOn_cases events.tail with h | h <;> simp [h, held, hphase]
      · rcases t.goOn_cases events.tail with h | h <;> simp only [h, due, hphase]

/-- What a task yields in two stretches it yields in both. -/
theorem Yields.trans {received later : List Bytes} {outputs after reports news : List Output}
    (h : t.Yields received outputs reports t') (h' : t'.Yields later after news t'') :
    t.Yields (received ++ later) (outputs ++ after) (reports ++ news) t'' := by
  obtain ⟨inputs, hsession, houtputs, hprefix, hheld⟩ := h.work
  obtain ⟨inputs', hsession', houtputs', hprefix', hheld'⟩ := h'.work
  have hwhole : (t.session.handleAll (inputs ++ inputs')).session = t''.session ∧
      t.session.outputsAt (inputs ++ inputs') = outputs ++ after := by
    rw [DeviceSession.session_handleAll_append, DeviceSession.outputsAt_append, hsession, houtputs,
      houtputs']
    exact ⟨hsession', rfl⟩
  by_cases hended : t'.phase = .ended
  · -- nothing more comes of a task that is over
    obtain ⟨rfl, rfl, hended'⟩ := h'.stays hended
    have hnone : inputs' = [] := List.eq_nil_of_length_eq_zero (by
      rw [← DeviceSession.length_outputsAt, houtputs', List.length_nil])
    have hnews : news = [] := by
      have hdue := h'.reported.1
      rw [due_of_ended hended] at hdue
      exact List.prefix_nil.mp hdue
    refine ⟨⟨inputs ++ inputs', hwhole.1, hwhole.2, ?_, fun hgoing => absurd hended' hgoing⟩,
      ⟨?_, fun hgoing => absurd hended' hgoing⟩, fun hover => ?_⟩
    · rw [hnone, List.append_nil, List.append_nil]
      exact hprefix
    · rw [hnews, List.append_nil, List.append_nil]
      exact h.reported.1
    · obtain ⟨rfl, rfl, -⟩ := h.stays hover
      exact ⟨rfl, rfl, hended'⟩
  · have hsplit : t.held ++ (received ++ later)
        = inputs.map Prod.fst ++ (t'.held ++ later) := by
      rw [← List.append_assoc, hheld hended, List.append_assoc]
    have hdue : t.due ++ (outputs ++ after).filter (!·.events.isEmpty)
        = reports ++ (t'.due ++ after.filter (!·.events.isEmpty)) := by
      rw [List.filter_append, ← List.append_assoc, h.reported.2 hended, List.append_assoc]
    refine ⟨⟨inputs ++ inputs', hwhole.1, hwhole.2, ?_, fun hgoing => ?_⟩, ⟨?_, fun hgoing => ?_⟩,
      fun hover => absurd (h.stays hover).2.2 hended⟩
    · rw [hsplit, List.map_append]
      exact (List.prefix_append_right_inj _).mpr hprefix'
    · rw [hsplit, hheld' hgoing, List.map_append, List.append_assoc]
    · rw [hdue]
      exact (List.prefix_append_right_inj _).mpr h'.reported.1
    · rw [hdue, h'.reported.2 hgoing, List.append_assoc]

end Task

end SensorGateway
