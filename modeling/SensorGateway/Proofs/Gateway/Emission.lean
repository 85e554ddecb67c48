import SensorGateway.Proofs.Gateway.EventLog
import SensorGateway.Proofs.Gateway.LastPayload

/-!
# What one move does with events

A live task emits what it has decoded, in its order (`Moment.passes_step`).  What there is room for
goes through the queue (`Moment.queues_step`).  And the last payload of a device with a live task
changes only when this task publishes (`Moment.lastKnown_step`).
-/

namespace SensorGateway

/-! ## What a live task has still to emit -/

namespace Task

variable {t t' : Task}

/-- The task has not come to life, and has still to emit what it had. -/
structure Rests (t t' : Task) : Prop where
  live : t'.live = true → t.live = true
  unsent : t'.unsent = t.unsent

/-- A task to which nothing happens rests. -/
theorem Rests.refl (t : Task) : t.Rests t := ⟨id, rfl⟩

/-- A task that takes a chunk has nothing more to emit, -/
theorem rests_takeChunk (hphase : t.phase = .waiting) : t.Rests t.takeChunk := by
  unfold takeChunk
  split
  · exact .refl t
  · refine ⟨id, ?_⟩
    simp only [unsent, hphase]

/-- nor has one that looks for a chunk, -/
theorem rests_take (hphase : t.phase = .waiting) : t.Rests t.take := by
  unfold take
  split
  · refine ⟨id, ?_⟩
    simp only [finish, unsent, hphase]
  · exact rests_takeChunk hphase

/-- nor one that lingers. -/
theorem rests_linger (t : Task) : t.Rests t.linger := by
  unfold linger
  split
  next hphase => exact rests_takeChunk hphase
  all_goals exact .refl t

/-- A task that finds itself live has still to emit what it had. -/
theorem rests_check {events : List Event} (hphase : t.phase = .reporting events)
    (hlive : (t.check events).live = true) : t.Rests (t.check events) := by
  unfold check at hlive ⊢
  split
  · refine ⟨id, ?_⟩
    simp only [unsent, hphase]
  next hsilent =>
    rw [if_neg hsilent] at hlive
    exact absurd hlive hsilent

/-- What a live task has to emit and what it decodes, it emits or has still to emit; and it emits
nothing before it has published. -/
structure Passes (n : Nat) (t : Task) (new : List Occurrence) (t' : Task) : Prop where
  live : t.live = true
  events : t.unsent ++ Occurrence.decodedBy n new = Occurrence.emittedBy n new ++ t'.unsent
  settled : t'.isSettled = false → Occurrence.emittedBy n new = []

/-- A task that rests has passed nothing on. -/
theorem Rests.passes (h : t.Rests t') (hlive : t'.live = true) {n : Nat} {new : List Occurrence}
    (hdecoded : Occurrence.decodedBy n new = []) (hemitted : Occurrence.emittedBy n new = []) :
    t.Passes n new t' where
  live := h.live hlive
  events := by
    rw [hdecoded, hemitted, h.unsent]
    exact List.append_nil _
  settled _ := hemitted

/-- What a task has to emit after it has decoded a chunk are the events of the chunk. -/
theorem unsent_decode (t : Task) (chunk : Bytes) (now : Instant) :
    (t.decode chunk now).1.unsent = (t.session.handle chunk now).events := by
  unfold decode unsent
  dsimp only
  cases (t.session.handle chunk now).events <;> rfl

/-- After an event has been emitted the rest of them are left. -/
theorem unsent_goOn (t : Task) (events : List Event) : (t.goOn events).unsent = events := by
  unfold goOn unsent
  cases events <;> rfl

section passes

variable (hlive : t.live = true) {n : Nat} {now : Instant} {waiting : Nat}

include hlive

/-- A task that decodes a chunk is going to emit its events. -/
theorem passes_decode {chunk : Bytes} (hphase : t.phase = .decoding chunk) :
    t.Passes n (t.occurrence? n now waiting).toList (t.decode chunk now).1 := by
  have hnone : t.unsent = [] := by simp only [unsent, hphase]
  simp only [occurrence?, hphase]
  refine ⟨hlive, ?_, fun _ => rfl⟩
  rw [hnone, unsent_decode]
  exact Occurrence.decodedBy_decoded n _

/-- A task emits the first of its events. -/
theorem passes_goOn {events : List Event} (hphase : t.phase = .emitting events) :
    t.Passes n (t.occurrence? n now waiting).toList (t.goOn events.tail) := by
  have hunsent : t.unsent = events := by simp only [unsent, hphase]
  refine ⟨hlive, ?_, fun hunsettled => ?_⟩
  · rw [unsent_goOn, hunsent]
    cases events with
    | nil =>
        simp only [occurrence?, hphase]
        rfl
    | cons event events =>
        simp only [occurrence?, hphase, Option.toList_some]
        rw [Occurrence.emittedBy_emitted, if_pos rfl]
        exact List.append_nil _
  · rcases t.goOn_cases events.tail with h | h <;> rw [h] at hunsettled <;> cases hunsettled

end passes

end Task

namespace Gateway

variable {g : Gateway} {n k : Nat} {t t' : Task}

/-- Tasks rest if what is done to one of them lets it rest. -/
theorem rests_modifyTask {f : Task → Task} (ht : g.task? n = some t)
    (ht' : (g.modifyTask k f).task? n = some t') (hf : ∀ t : Task, t.Rests (f t)) : t.Rests t' := by
  rw [task?_modifyTask, ht] at ht'
  split at ht'
  · cases ht'
    exact hf t
  · cases ht'
    exact .refl t

/-- Putting a chunk into a queue lets tasks rest. -/
theorem rests_push (ht : g.task? n = some t) {chunk : Bytes}
    (ht' : (g.push k chunk).2.task? n = some t') : t.Rests t' := by
  rcases g.push_eq k chunk with h | h
  · rw [h] at ht'
    cases ht.symm.trans ht'
    exact .refl t
  · rw [h] at ht'
    exact rests_modifyTask ht ht' fun _ => ⟨id, rfl⟩

/-- So does every access. -/
theorem rests_change (ht : g.task? n = some t) {x : Access}
    (ht' : (x.change g).task? n = some t') : t.Rests t' := by
  have hsame (h : g.task? n = some t') : t.Rests t' := by
    cases ht.symm.trans h
    exact .refl t
  cases x with
  | silence k => exact rests_modifyTask ht ht' fun _ => ⟨nofun, rfl⟩
  | abort k => exact rests_modifyTask ht ht' fun _ => ⟨id, rfl⟩
  | bind id topics =>
      rw [Access.change, task?, tasks_bind] at ht'
      exact hsame ht'
  | start id device chunk =>
      have hlt : n < g.tasks.length := (List.getElem?_eq_some_iff.mp ht).1
      rw [Access.change, task?_start, if_neg (Nat.ne_of_lt hlt)] at ht'
      exact hsame ht'
  | send k chunk => exact rests_push ht ht'
  | offer k chunk => exact rests_push ht ht'
  | unlist | unlistAll | detach | enlist | find | findTank => exact hsame ht'

/-- In its step a task passes on what is written down of it. -/
theorem passes_advance {now : Instant} {o : Outcome Unit} (ht : g.task? n = some t)
    (ho : g.advance n now = some o) (ht' : o.gateway.task? n = some t') (hlive : t'.live = true) :
    t.Passes n (t.occurrence? n now g.events.length).toList t' := by
  obtain ⟨t₀, ht₀, hstep⟩ := advance_eq_some_iff.mp ho
  cases ht.symm.trans ht₀
  -- the task afterwards is what the step makes of it
  have hbecomes {f : Task → Task} {h : Gateway} (hh : h.task? n = (g.modifyTask n f).task? n)
      (ht' : h.task? n = some t') : t' = f t := by
    rw [hh, task?_modifyTask, if_pos rfl, ht] at ht'
    exact (Option.some.inj ht').symm
  cases hstep with
  | take hphase =>
      obtain rfl := hbecomes rfl ht'
      simp only [Task.occurrence?, hphase]
      exact (Task.rests_take hphase).passes hlive rfl rfl
  | decode hphase =>
      obtain rfl := hbecomes rfl ht'
      exact Task.passes_decode (t := t) hlive hphase
  | check hphase =>
      obtain rfl := hbecomes rfl ht'
      simp only [Task.occurrence?, hphase]
      exact (Task.rests_check hphase hlive).passes hlive rfl rfl
  | @publish events hphase =>
      obtain rfl := hbecomes rfl ht'
      have hrests : t.Rests { t with phase := .emitting events } := by
        refine ⟨id, ?_⟩
        simp only [Task.unsent, hphase]
      simp only [Task.occurrence?, hphase]
      exact hrests.passes hlive rfl rfl
  | emit hphase =>
      obtain rfl := hbecomes rfl ht'
      exact Task.passes_goOn (t := t) hlive hphase

/-- A step of one task leaves the others alone. -/
theorem task?_advance_of_ne {now : Instant} {o : Outcome Unit} (ho : g.advance k now = some o)
    (hne : k ≠ n) : o.gateway.task? n = g.task? n := by
  obtain ⟨t, -, hstep⟩ := advance_eq_some_iff.mp ho
  cases hstep <;> exact (task?_modifyTask ..).trans (if_neg hne)

end Gateway

namespace Moment

variable {m m' : Moment} {move : Move} {n k : Nat} {t t' : Task}

/-- In every move a task passes on what is written down of it. -/
theorem passes_step (hstep : m.step? move = some m') (ht : m.gateway.task? n = some t)
    (ht' : m'.gateway.task? n = some t') (hlive : t'.live = true) :
    t.Passes n (m.occurrence? move).toList t' := by
  cases move with
  | call c =>
      obtain ⟨-, rfl⟩ := step?_call hstep
      cases ht.symm.trans ht'
      exact (Task.Rests.refl t).passes hlive rfl rfl
  | access =>
      obtain ⟨x, rest, -, -, rfl⟩ := step?_access hstep
      exact (Gateway.rests_change ht ht').passes hlive rfl rfl
  | task k now =>
      obtain ⟨o, ho, rfl⟩ := Option.map_eq_some_iff.mp hstep
      by_cases hk : k = n
      · subst hk
        simp only [occurrence?, ht, Option.bind_some]
        exact Gateway.passes_advance ht ho ht' hlive
      · obtain ⟨hhandlings, hemitted⟩ := m.occurrence?_of_ne now hk
        rw [Gateway.task?_advance_of_ne ho hk] at ht'
        cases ht.symm.trans ht'
        refine (Task.Rests.refl t).passes hlive ?_ hemitted
        rw [Occurrence.decodedBy, hhandlings]
        rfl
  | linger k =>
      cases hstep
      exact (Gateway.rests_modifyTask ht ht' Task.rests_linger).passes hlive rfl rfl
  | offer k chunk =>
      cases hstep
      exact (Gateway.rests_push ht ht').passes hlive rfl rfl
  | dispatch sink =>
      obtain ⟨d, -, rfl⟩ := Option.map_eq_some_iff.mp hstep
      cases ht.symm.trans ht'
      exact (Task.Rests.refl t).passes hlive rfl rfl
  | receive count =>
      cases hstep
      cases ht.symm.trans ht'
      exact (Task.Rests.refl t).passes hlive rfl rfl

end Moment

/-! ## The queue -/

/-- No access touches the queue of events. -/
theorem Gateway.events_change (g : Gateway) (x : Access) : (x.change g).events = g.events := by
  have hpush (n : Nat) (chunk : Bytes) : (g.push n chunk).2.events = g.events := by
    rcases g.push_eq n chunk with h | h
    · rw [h]
    · rw [h]
      rfl
  cases x with
  | bind id topics =>
      simp only [Access.change, bind]
      split <;> rfl
  | send n chunk => exact hpush n chunk
  | offer n chunk => exact hpush n chunk
  | unlist | unlistAll | silence | abort | detach | start | enlist | find | findTank => rfl

/-- What there is no room for is lost. -/
theorem Gateway.events_emit (g : Gateway) (event : Event) :
    (g.emit [event]).events =
      if g.events.length < eventCapacity then g.events ++ [event] else g.events := by
  unfold emit
  dsimp only
  split
  next hroom =>
    rw [List.take_of_length_le]
    rw [List.length_singleton]
    omega
  next hfull =>
    have hnone : eventCapacity - g.events.length = 0 := by omega
    rw [hnone, List.take_zero, List.append_nil]

namespace Moment

variable {m m' : Moment} {move : Move}

/-- What is received and what waits afterwards are what waits before and what is put into the queue,
in this order. -/
structure Queues (m : Moment) (new : List Occurrence) (m' : Moment) : Prop where
  events : m.gateway.events ++ Occurrence.queued new =
    Occurrence.receivedAll new ++ m'.gateway.events
  room : m.gateway.events.length ≤ Gateway.eventCapacity →
    m'.gateway.events.length ≤ Gateway.eventCapacity ∧
      ∀ e ∈ Occurrence.emissions new, e.waiting ≤ Gateway.eventCapacity

/-- When the queue of events stays as it is, nothing is put into it or taken out. -/
theorem queues_of_same (hsame : m'.gateway.events = m.gateway.events) : m.Queues [] m' where
  events := by
    rw [hsame]
    exact List.append_nil _
  room hroom := by
    rw [hsame]
    exact ⟨hroom, List.forall_mem_nil _⟩

/-- The first of the events goes into the queue, if there is one and there is room for it. -/
theorem queues_emit {t : Task} {events : List Event} (hphase : t.phase = .emitting events) (n : Nat)
    (now : Instant) (hevents : m'.gateway.events = (m.gateway.emit (events.take 1)).events) :
    m.Queues (t.occurrence? n now m.gateway.events.length).toList m' := by
  cases events with
  | nil =>
      simp only [Task.occurrence?, hphase]
      refine queues_of_same (hevents.trans ?_)
      rw [← List.append_nil m.gateway.events]
      exact congrArg _ List.take_nil
  | cons event events =>
      simp only [Task.occurrence?, hphase, Option.toList_some]
      replace hevents := hevents.trans (m.gateway.events_emit event)
      refine ⟨?_, fun hle => ⟨?_, List.forall_mem_singleton.mpr hle⟩⟩
      · rw [Occurrence.queued_emitted]
        refine Eq.trans ?_ hevents.symm
        simp only [Emission.isQueued, decide_eq_true_eq]
        split
        · rfl
        · exact List.append_nil _
      · rw [hevents]
        split
        next hroom =>
          rw [List.length_append]
          exact hroom
        · exact hle

/-- In its step a task puts into the queue what is written down of it, if there is room. -/
theorem queues_advance {n : Nat} {now : Instant} {o : Outcome Unit}
    (ho : m.gateway.advance n now = some o) :
    m.Queues (m.occurrence? (.task n now)).toList { m with gateway := o.gateway } := by
  obtain ⟨t, ht, hstep⟩ := Gateway.advance_eq_some_iff.mp ho
  simp only [occurrence?, ht, Option.bind_some]
  cases hstep with
  | take hphase =>
      simp only [Task.occurrence?, hphase]
      exact queues_of_same rfl
  | decode hphase =>
      simp only [Task.occurrence?, hphase]
      exact ⟨List.append_nil _, fun hroom => ⟨hroom, List.forall_mem_nil _⟩⟩
  | check hphase =>
      simp only [Task.occurrence?, hphase]
      exact queues_of_same rfl
  | publish hphase =>
      simp only [Task.occurrence?, hphase]
      exact queues_of_same rfl
  | emit hphase => exact queues_emit hphase n now rfl

/-- In every move the queue changes by what is written down of it. -/
theorem queues_step (hstep : m.step? move = some m') :
    m.Queues (m.occurrence? move).toList m' := by
  cases move with
  | call c =>
      obtain ⟨-, rfl⟩ := step?_call hstep
      exact queues_of_same rfl
  | access =>
      obtain ⟨x, rest, -, -, rfl⟩ := step?_access hstep
      exact queues_of_same (m.gateway.events_change x)
  | task n now =>
      obtain ⟨o, ho, rfl⟩ := Option.map_eq_some_iff.mp hstep
      exact queues_advance ho
  | linger n =>
      cases hstep
      exact queues_of_same rfl
  | offer n chunk =>
      cases hstep
      exact queues_of_same (m.gateway.events_change (.offer n chunk))
  | dispatch sink =>
      obtain ⟨d, -, rfl⟩ := Option.map_eq_some_iff.mp hstep
      exact queues_of_same rfl
  | receive count =>
      cases hstep
      refine ⟨?_, fun hroom => ⟨?_, List.forall_mem_nil _⟩⟩
      · refine (List.append_nil _).trans ?_
        rw [occurrence?, Option.toList_some, Occurrence.receivedAll_received]
        exact (List.take_append_drop count _).symm
      · exact Nat.le_trans (List.drop_sublist count _).length_le hroom

end Moment

/-! ## The last payload -/

namespace Gateway

variable {g : Gateway} {n k : Nat} {id : String}

/-- A device is not forgotten as long as its task is live. -/
theorem lastKnown_change {x : Access} {rest : List Access} (hready : x.Ready g rest)
    (hlive : (x.change g).LiveFor n id) :
    (x.change g).publisher.lastKnown.find? id = g.publisher.lastKnown.find? id := by
  cases x with
  | detach other =>
      rw [Access.change, lastKnown_detach, if_neg]
      rintro rfl
      exact hready n hlive
  | bind other topics =>
      simp only [Access.change, bind]
      split <;> rfl
  | send k chunk => exact congrArg (·.lastKnown.find? id) (g.publisher_push k chunk)
  | offer k chunk => exact congrArg (·.lastKnown.find? id) (g.publisher_push k chunk)
  | unlist | unlistAll | silence | abort | start | enlist | find | findTank => rfl

/-- No other task publishes for the device. -/
theorem lastKnown_advance {now : Instant} {o : Outcome Unit} (orderly : g.Orderly)
    (locks : g.LocksLive) (ho : g.advance k now = some o) (hlive : o.gateway.LiveFor n id) :
    o.gateway.publisher.lastKnown.find? id = g.publisher.lastKnown.find? id ∨
      ∃ t, o.gateway.task? n = some t ∧ t.isSettled = true := by
  have hbefore := (agrees_advance ho).liveFor_iff.mp hlive
  obtain ⟨t, ht, hstep⟩ := advance_eq_some_iff.mp ho
  cases hstep with
  | @publish events hphase =>
      by_cases hdevice : id = t.session.device
      · have hk : t.live = true := locks k t ht (by simp [Task.holdsLock, hphase])
        obtain rfl := orderly.alone hbefore ⟨t, ht, hk, hdevice.symm⟩
        refine Or.inr ⟨{ t with phase := .emitting events }, ?_, rfl⟩
        rw [task?_modifyTask, if_pos rfl]
        exact congrArg _ ht
      · exact Or.inl (g.publisher.lastKnown_publish_of_ne hdevice t.session.record now)
  | take | decode | check | emit => exact Or.inl rfl

end Gateway

namespace Moment

variable {m m' : Moment} {move : Move}

/-- The last payload of a device with a live task stays as it is, unless the task publishes. -/
theorem lastKnown_step (h : m.Upkept) (hstep : m.step? move = some m') {n : Nat} {id : String}
    (hlive : m'.gateway.LiveFor n id) :
    m'.gateway.publisher.lastKnown.find? id = m.gateway.publisher.lastKnown.find? id ∨
      ∃ t, m'.gateway.task? n = some t ∧ t.isSettled = true := by
  cases move with
  | call c =>
      obtain ⟨-, rfl⟩ := step?_call hstep
      exact Or.inl rfl
  | access =>
      obtain ⟨x, rest, hpending, -, rfl⟩ := step?_access hstep
      have hproceeds := h.proceeds
      rw [hpending] at hproceeds
      cases hproceeds with
      | access hready _ => exact Or.inl (Gateway.lastKnown_change hready hlive)
  | task k now =>
      obtain ⟨o, ho, rfl⟩ := Option.map_eq_some_iff.mp hstep
      exact Gateway.lastKnown_advance h.orderly h.locks ho hlive
  | linger k =>
      cases hstep
      exact Or.inl rfl
  | offer k chunk =>
      cases hstep
      have hsame := congrArg Publisher.lastKnown (m.gateway.publisher_push k chunk)
      exact Or.inl (congrArg (·.find? id) hsame)
  | dispatch sink =>
      obtain ⟨d, hd, rfl⟩ := Option.map_eq_some_iff.mp hstep
      exact Or.inl (congrArg (·.find? id) (Publisher.knowsSame_step hd).lastKnown)
  | receive count =>
      cases hstep
      exact Or.inl rfl

end Moment

end SensorGateway
