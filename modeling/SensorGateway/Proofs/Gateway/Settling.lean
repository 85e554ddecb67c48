import SensorGateway.Proofs.Gateway.Emission
import SensorGateway.Proofs.Gateway.ListedTasks
import SensorGateway.Proofs.Gateway.Resting

/-!
# Settling empties the queues

`Gateway.settle` lets every task that has something to do make a number of steps that is fixed in
advance.  The number is large enough: each step of a task takes it nearer to where it has to wait
(`Task.stepsLeft`), and that many steps it has been given (`Gateway.runTask_waits`).  The one thing
to be seen for this is that a chunk cannot make more events than there are bytes to decode, since
those that make an event are used up (`DeviceSession.length_events_handle`).

Whoever puts a chunk into a queue notes that its task has something to do (`Gateway.Wakeful`).  So
when a gateway has settled the queues of its listed tasks are empty
(`Gateway.Serves.atRest_settle`), and a chunk that had to wait for room is taken
(`Gateway.Serves.sendChunk_of_listed`).
-/

namespace SensorGateway

/-! ## Bytes and events -/

/-- Each frame takes up its bytes of the buffer. -/
theorem Wire.Reassembler.length_drain (buffer : Bytes) (stats : ReassemblyStats) :
    overhead * (drain buffer stats).1.length + (drain buffer stats).2.buffer.length
      ≤ buffer.length := by
  induction buffer using Front.induction generalizing stats with
  | nil =>
      rw [drain_nil]
      exact Nat.le_refl 0
  | undecided buffer h =>
      rw [drain_of_undecided stats h]
      simp
  | noise b rest h ih =>
      rw [drain_of_noise stats h, List.length_cons]
      exact Nat.le_succ_of_le (ih stats.noise)
  | damaged b rest h ih =>
      rw [drain_of_damaged stats h, List.length_cons]
      exact Nat.le_succ_of_le (ih stats.damaged)
  | frame f rest hf ih =>
      have hrest := ih stats.frame
      rw [drain_toBytes_append stats hf, List.length_append, Frame.length_toBytes, List.length_cons]
      simp only [overhead] at hrest ⊢
      omega

namespace BatterySession

/-- A report of the pack makes two events at most, any other frame one. -/
theorem length_events_handleFrame (s : BatterySession) (f : Wire.Frame) (now : Instant) :
    (s.handleFrame f now).events.length ≤ 2 := by
  cases handling f with
  | undecoded _ hkept =>
      obtain ⟨logs, hsame⟩ := hkept s now
      rw [hsame]
      exact Nat.zero_le 2
  | hardwareInfo _ _ info _ htaken =>
      rw [htaken, events_takeHardwareInfo]
      cases (s.alarm.update info.soc).1 with
      | none => exact Nat.le_succ 1
      | some => exact Nat.le_refl 2
  | cellInfo _ _ info htaken =>
      rw [htaken]
      exact Nat.le_succ 1
  | deviceName _ _ name htaken =>
      rw [htaken]
      exact Nat.le_succ 1

/-- A frame makes two events at most. -/
theorem length_events_handleFrames (s : BatterySession) (now : Instant) (frames : List Wire.Frame) :
    (s.handleFrames now frames).events.length ≤ 2 * frames.length := by
  induction frames generalizing s with
  | nil => exact Nat.le_refl 0
  | cons f frames ih =>
      have hfirst := s.length_events_handleFrame f now
      have hlater := ih (s.handleFrame f now).session
      simp only [handleFrames, List.length_append, List.length_cons]
      omega

/-- Events are paid for with bytes: a chunk makes no more of them than bytes go out of the buffer.
-/
theorem length_events_handleChunk (s : BatterySession) (chunk : Bytes) (now : Instant) :
    (s.handleChunk chunk now).events.length
        + (s.handleChunk chunk now).session.reassembler.buffer.length
      ≤ s.reassembler.buffer.length + chunk.length := by
  have hframes := (s.feed chunk).length_events_handleFrames now (s.reassembler.feed chunk).1
  have hkept := (s.feed chunk).reassembler_handleFrames now (s.reassembler.feed chunk).1
  have hdrained := Wire.Reassembler.length_drain (s.reassembler.buffer ++ chunk)
    s.reassembler.stats
  rw [List.length_append, Wire.overhead] at hdrained
  have hchunk : s.handleChunk chunk now
      = (s.feed chunk).handleFrames now (s.reassembler.feed chunk).1 := rfl
  rw [hchunk, hkept]
  simp only [feed, Wire.Reassembler.feed] at hframes ⊢
  omega

end BatterySession

/-- A broadcast of no bytes is no reading. -/
theorem TankSession.length_events_handleAdvertisement (s : TankSession) (payload : Bytes)
    (now : Instant) : (s.handleAdvertisement payload now).events.length ≤ payload.length := by
  cases payload with
  | nil => exact Nat.le_refl 0
  | cons b payload =>
      unfold handleAdvertisement
      split
      · exact Nat.zero_le _
      · exact Nat.succ_le_succ (Nat.zero_le _)

/-- The same holds of any session that is handed a chunk. -/
theorem DeviceSession.length_events_handle (s : DeviceSession) (chunk : Bytes) (now : Instant) :
    (s.handle chunk now).events.length + (s.handle chunk now).session.buffered
      ≤ s.buffered + chunk.length := by
  cases s with
  | battery s => exact s.length_events_handleChunk chunk now
  | tank s =>
      have hone := s.length_events_handleAdvertisement chunk now
      simp only [handle, buffered]
      omega

/-! ## The steps of a task -/

namespace Task

variable {t : Task}

/-- How far a task is from where it waits or ends, apart from what it has to decode and to emit. -/
def distance (t : Task) : Nat :=
  match t.phase with
  | .ended => 0
  | .waiting => 1
  | .decoding _ => 4
  | .reporting events => if events.isEmpty then 4 else 3
  | .publishing events => if events.isEmpty then 3 else 2
  | .emitting events => if events.isEmpty then 2 else 1

/-- More than the steps that the task can make with what it has. -/
def stepsLeft (t : Task) : Nat :=
  t.unsent.length + t.undecoded + 4 * t.chunks.length + t.distance

/-- A task is four steps at most from where it waits. -/
theorem distance_le (t : Task) : t.distance ≤ 4 := by
  unfold distance
  split
  · decide
  · decide
  · decide
  all_goals
    split
    · decide
    · decide

/-- As many steps are given to a task as it can make. -/
theorem stepsLeft_le_stepsOf (t : Task) : t.stepsLeft ≤ Gateway.stepsOf t := by
  have := t.distance_le
  unfold stepsLeft Gateway.stepsOf
  omega

/-- To a task that has ended nothing is left but what its session has not taken apart. -/
theorem stepsLeft_finish (t : Task) : t.finish.stepsLeft = t.session.buffered := by
  simp [stepsLeft, finish, unsent, undecoded, distance]

/-- Taking a chunk brings a task nearer to its rest. -/
theorem stepsLeft_take (hphase : t.phase = .waiting)
    (hchunk : (t.chunks.isEmpty && !t.aborted) = false) : t.take.stepsLeft < t.stepsLeft := by
  have hbefore : t.stepsLeft
      = t.session.buffered + t.chunks.flatten.length + 4 * t.chunks.length + 1 := by
    simp [stepsLeft, unsent, undecoded, distance, hphase]
  rw [hbefore]
  unfold take
  split
  · rw [stepsLeft_finish]
    omega
  next haborted =>
    unfold takeChunk
    split
    next hnone => simp [hnone, haborted] at hchunk
    next chunk rest hchunks =>
      simp only [stepsLeft, unsent, undecoded, distance, hchunks, List.length_nil, List.length_cons,
        List.flatten_cons, List.length_append]
      omega

/-- So does decoding it, -/
theorem stepsLeft_decode {chunk : Bytes} (hphase : t.phase = .decoding chunk) (now : Instant) :
    (t.decode chunk now).1.stepsLeft < t.stepsLeft := by
  have hused := t.session.length_events_handle chunk now
  have hbefore : t.stepsLeft = chunk.length + (t.session.buffered + t.chunks.flatten.length)
      + 4 * t.chunks.length + 4 := by
    simp [stepsLeft, unsent, undecoded, distance, hphase]
  rw [hbefore]
  simp only [decode, stepsLeft, unsent, undecoded, distance]
  cases hevents : (t.session.handle chunk now).events with
  | nil =>
      rw [hevents, List.length_nil] at hused
      simp only [List.isEmpty_nil, if_true, List.length_nil]
      omega
  | cons event events =>
      rw [hevents, List.length_cons] at hused
      simp only [List.isEmpty_cons, Bool.false_eq_true, if_false, List.length_cons]
      omega

/-- and looking whether to report what has come of it, -/
theorem stepsLeft_check {events : List Event} (hphase : t.phase = .reporting events) :
    (t.check events).stepsLeft < t.stepsLeft := by
  have hbefore : t.stepsLeft = events.length + (t.session.buffered + t.chunks.flatten.length)
      + 4 * t.chunks.length + (if events.isEmpty then 4 else 3) := by
    simp [stepsLeft, unsent, undecoded, distance, hphase]
  rw [hbefore]
  unfold check
  split
  · simp only [stepsLeft, unsent, undecoded, distance]
    split <;> omega
  · rw [stepsLeft_finish]
    split <;> omega

/-- and publishing the record, -/
theorem stepsLeft_publish {events : List Event} (hphase : t.phase = .publishing events) :
    { t with phase := .emitting events }.stepsLeft < t.stepsLeft := by
  simp only [stepsLeft, unsent, undecoded, distance, hphase]
  split <;> omega

/-- and emitting an event. -/
theorem stepsLeft_goOn {events : List Event} (hphase : t.phase = .emitting events) :
    (t.goOn events.tail).stepsLeft < t.stepsLeft := by
  have hbefore : t.stepsLeft = events.length + (t.session.buffered + t.chunks.flatten.length)
      + 4 * t.chunks.length + (if events.isEmpty then 2 else 1) := by
    simp [stepsLeft, unsent, undecoded, distance, hphase]
  rw [hbefore]
  simp only [goOn, stepsLeft, unsent, undecoded, distance]
  cases events with
  | nil => simp
  | cons _ later =>
      cases later with
      | nil => simp
      | cons => simp

end Task

namespace Gateway

variable {g : Gateway} {config : Config} {n m : Nat} {id : String} {t : Task} {now : Instant}

/-! ## Letting the tasks run -/

/-- A gateway serves while one of its tasks runs, -/
theorem Serves.runTask (s : g.Serves config) (n : Nat) (now : Instant) (fuel : Nat) :
    (g.runTask n now fuel).gateway.Serves config := by
  induction fuel generalizing g with
  | zero => exact s
  | succ fuel ih =>
      unfold Gateway.runTask
      split
      · exact s
      next first hadvance =>
        exact ih (s.of_agrees (agrees_advance hadvance) (s.going.advance hadvance))

section Sink

variable {σ : Type} [TopicSink σ]

/-- while the dispatcher does, -/
theorem Serves.dispatch (s : g.Serves config) (sink : σ) :
    (g.dispatch sink).gateway.Serves config :=
  s.of_agrees (g.agrees_dispatch sink) s.going

/-- while several tasks run one after another, -/
theorem Serves.runTasks (s : g.Serves config) (sink : σ) (now : Instant) (ready : List Nat) :
    (g.runTasks sink now ready).gateway.Serves config := by
  induction ready generalizing g sink with
  | nil => exact s.dispatch sink
  | cons n ready ih => exact ih ((s.runTask n now _).dispatch sink) _

/-- Settling begins with nobody noted to have something to do. -/
theorem Serves.unnoted (s : g.Serves config) : Gateway.Serves { g with ready := [] } config where
  config := s.config
  listed := s.listed
  going := s.going

/-- and until everything is at rest. -/
theorem Serves.settle (s : g.Serves config) (sink : σ) (now : Instant) :
    (g.settle sink now).gateway.Serves config :=
  s.unnoted.runTasks sink now g.ready

end Sink

/-! ## A task that has been run -/

/-- With each step fewer steps are left to a task. -/
theorem stepsLeft_advance (ht : g.task? n = some t) {o : Outcome Unit}
    (ho : g.advance n now = some o) :
    ∃ t', o.gateway.task? n = some t' ∧ t'.stepsLeft < t.stepsLeft := by
  have hafter (h : Gateway) (hsame : h.task? n = some t) (f : Task → Task) :
      (h.modifyTask n f).task? n = some (f t) := by
    rw [task?_modifyTask, if_pos rfl, hsame, Option.map_some]
  obtain ⟨t₀, ht₀, hstep⟩ := advance_eq_some_iff.mp ho
  cases ht.symm.trans ht₀
  cases hstep with
  | take hphase hchunk => exact ⟨_, hafter g ht _, Task.stepsLeft_take hphase hchunk⟩
  | decode hphase => exact ⟨_, hafter g ht _, Task.stepsLeft_decode hphase now⟩
  | check hphase => exact ⟨_, hafter g ht _, Task.stepsLeft_check hphase⟩
  | publish hphase =>
      exact ⟨_, hafter { g with publisher := _ } ht _, Task.stepsLeft_publish hphase⟩
  | emit hphase => exact ⟨_, hafter (g.emit _) ht _, Task.stepsLeft_goOn hphase⟩

/-- With enough steps a task comes to where it makes no more. -/
theorem runTask_waits {fuel : Nat} (ht : g.task? n = some t) (henough : t.stepsLeft ≤ fuel) :
    (g.runTask n now fuel).gateway.advance n now = none := by
  induction fuel generalizing g t with
  | zero =>
      cases ho : g.advance n now with
      | none => exact ho
      | some o =>
          obtain ⟨t', -, hless⟩ := stepsLeft_advance ht ho
          omega
  | succ fuel ih =>
      unfold runTask
      split
      next hnone => exact hnone
      next first ho =>
        obtain ⟨t', ht', hless⟩ := stepsLeft_advance ht ho
        exact ih ht' (by omega)

/-- A task that runs leaves the others alone. -/
theorem task?_runTask_of_ne (hne : m ≠ n) (fuel : Nat) :
    (g.runTask m now fuel).gateway.task? n = g.task? n := by
  induction fuel generalizing g with
  | zero => rfl
  | succ fuel ih =>
      unfold runTask
      split
      · rfl
      next first ho => exact ih.trans (task?_advance_of_ne ho hne)

/-- The task waits for a chunk, and none is in its queue. -/
def AtRest (g : Gateway) (n : Nat) : Prop :=
  ∃ t, g.task? n = some t ∧ t.phase = .waiting ∧ t.chunks = [] ∧ t.aborted = false

/-- A task at rest has no next step. -/
theorem AtRest.advance (h : g.AtRest n) (now : Instant) : g.advance n now = none := by
  obtain ⟨t, ht, hphase, hchunks, haborted⟩ := h
  simp [Gateway.advance, ht, hphase, hchunks, haborted]

/-- A task at rest stays so while any task runs. -/
theorem AtRest.runTask (h : g.AtRest n) (m : Nat) (now : Instant) (fuel : Nat) :
    (g.runTask m now fuel).gateway.AtRest n := by
  by_cases hm : m = n
  · subst hm
    cases fuel with
    | zero => exact h
    | succ fuel =>
        simp only [Gateway.runTask, h.advance now]
        exact h
  · unfold AtRest
    rw [task?_runTask_of_ne hm]
    exact h

/-- A live task that makes no step waits. -/
theorem Serves.atRest (s : g.Serves config) (hlive : g.LiveFor n id)
    (hnone : g.advance n now = none) : g.AtRest n := by
  obtain ⟨t, ht, hlive, -⟩ := hlive
  obtain ⟨haborted, hended⟩ := s.going n t ht hlive
  simp only [advance, ht] at hnone
  cases hphase : t.phase with
  | ended => exact absurd hphase hended
  | waiting =>
      simp only [hphase, haborted, Bool.not_false, Bool.and_true] at hnone
      split at hnone
      next hempty => exact ⟨t, ht, hphase, List.isEmpty_iff.mp hempty, haborted⟩
      · cases hnone
  | decoding | reporting | publishing | emitting => simp [hphase] at hnone

section Sink

variable {σ : Type} [TopicSink σ]

/-- When the tasks have been run, one after another, each that is live waits. -/
theorem Serves.atRest_runTasks (s : g.Serves config) (hlive : g.LiveFor n id) (sink : σ)
    (now : Instant) {ready : List Nat} (h : g.AtRest n ∨ n ∈ ready) :
    (g.runTasks sink now ready).gateway.AtRest n := by
  induction ready generalizing g sink with
  | nil => exact h.resolve_right List.not_mem_nil
  | cons m ready ih =>
      let ran := g.runTask m now ((g.task? m).elim 0 stepsOf)
      have hran : ran.gateway.Serves config := s.runTask m now _
      have hagrees : g.Agrees ran.gateway := g.agrees_runTask m now _
      have hstill : ran.gateway.LiveFor n id := hagrees.liveFor_iff.mpr hlive
      refine ih (hran.dispatch sink) ((ran.gateway.agrees_dispatch sink).liveFor_iff.mpr hstill)
        _ ?_
      rcases h with hrest | hmem
      · exact Or.inl (hrest.runTask m now _)
      · rcases List.mem_cons.mp hmem with rfl | hmem
        · obtain ⟨t, ht, -⟩ := hlive
          have hwaits : ran.gateway.advance n now = none := by
            apply runTask_waits ht
            rw [ht]
            exact t.stepsLeft_le_stepsOf
          exact Or.inl (hran.atRest hstill hwaits)
        · exact Or.inr hmem

end Sink

/-! ## Who has something to do -/

/-- A task whose queue is not empty is noted to have something to do. -/
def Wakeful (g : Gateway) : Prop := ∀ n t, g.task? n = some t → t.chunks ≠ [] → n ∈ g.ready

/-- A task that is woken is noted, and the others stay as they were. -/
theorem mem_ready_wake (g : Gateway) (n m : Nat) : m ∈ (g.wake n).ready ↔ m ∈ g.ready ∨ m = n := by
  simp only [wake]
  split
  next hmem =>
    constructor
    · exact Or.inl
    · rintro (hm | rfl)
      · exact hm
      · exact List.contains_iff_mem.mp hmem
  next => rw [List.mem_append, List.mem_singleton]

/-- In a new gateway there is no task to be noted. -/
theorem wakeful_new (config : Config) (publisher : Publisher) : (new config publisher).Wakeful := by
  intro n t ht
  simp [task?, new] at ht

/-- A task may be woken although its queue is empty. -/
theorem Wakeful.wake (w : g.Wakeful) (n : Nat) : (g.wake n).Wakeful := by
  intro m t ht hchunks
  exact (mem_ready_wake g n m).mpr (Or.inl (w m t ht hchunks))

/-- A task may be changed as long as nothing is put into its queue. -/
theorem Wakeful.modifyTask (w : g.Wakeful) {f : Task → Task}
    (hf : ∀ t, g.task? n = some t → t.chunks = [] → (f t).chunks = []) :
    (g.modifyTask n f).Wakeful := by
  intro m t ht hchunks
  rw [task?_modifyTask] at ht
  split at ht
  next heq =>
    subst heq
    obtain ⟨t₀, ht₀, rfl⟩ := Option.map_eq_some_iff.mp ht
    exact w n t₀ ht₀ fun hnone => hchunks (hf t₀ ht₀ hnone)
  · exact w m t ht hchunks

/-- Who puts a chunk into a queue wakes the task. -/
theorem Wakeful.push (w : g.Wakeful) (n : Nat) (chunk : Bytes) : (g.push n chunk).2.Wakeful := by
  rcases g.push_eq n chunk with heq | heq
  · rw [heq]
    exact w
  · rw [heq]
    intro m t ht hchunks
    rw [mem_ready_wake]
    by_cases hm : n = m
    · exact Or.inr hm.symm
    · refine Or.inl (w m t ?_ hchunks)
      have hsame := g.task?_modifyTask n m (Task.enqueue · chunk)
      rw [if_neg hm] at hsame
      exact hsame.symm.trans ht

/-- A task that is started has nothing in its queue. -/
theorem Wakeful.start (w : g.Wakeful) (session : DeviceSession) : (g.start session).Wakeful := by
  intro m t ht hchunks
  rw [task?_start] at ht
  split at ht
  · cases ht
    exact absurd rfl hchunks
  · exact (mem_ready_wake _ _ m).mpr (Or.inl (w m t ht hchunks))

/-- Whatever a call does, no queue is filled without its task being noted. -/
theorem Wakeful.change (w : g.Wakeful) (x : Access) : (x.change g).Wakeful := by
  cases x with
  | silence n => exact w.modifyTask fun _ _ => id
  | abort n =>
      have haborted : (g.modifyTask n fun t => { t with aborted := true }).Wakeful :=
        w.modifyTask fun _ _ => id
      exact haborted.wake n
  | start id device chunk => exact w.start (g.newSession device)
  | send n chunk => exact w.push n chunk
  | offer n chunk => exact w.push n chunk
  | bind id topics =>
      simp only [Access.change, bind]
      split
      · exact w
      · exact w
  | unlist | unlistAll | detach | enlist | find | findTank => exact w

end Gateway

/-- The steps of a task put nothing into its queue. -/
theorem Task.chunks_takeChunk {t : Task} (h : t.chunks = []) : t.takeChunk.chunks = [] := by
  simp only [takeChunk, h]

/-- An empty queue is left empty when a chunk is taken, -/
theorem Task.chunks_take {t : Task} (h : t.chunks = []) : t.take.chunks = [] := by
  unfold take
  split
  · rfl
  · exact chunks_takeChunk h

/-- when the task lingers, -/
theorem Task.chunks_linger {t : Task} (h : t.chunks = []) : t.linger.chunks = [] := by
  unfold linger
  split
  · exact chunks_takeChunk h
  all_goals exact h

/-- and when it looks whether to report. -/
theorem Task.chunks_check {t : Task} (h : t.chunks = []) (events : List Event) :
    (t.check events).chunks = [] := by
  unfold check
  split
  · exact h
  · rfl

namespace Gateway

variable {g : Gateway} {config : Config} {n m : Nat} {id : String} {t : Task} {now : Instant}

/-- No step of a task fills a queue. -/
theorem Wakeful.advance (w : g.Wakeful) {o : Outcome Unit} (ho : g.advance n now = some o) :
    o.gateway.Wakeful := by
  obtain ⟨t, ht, hstep⟩ := advance_eq_some_iff.mp ho
  cases hstep with
  | take => exact w.modifyTask fun _ _ => Task.chunks_take
  | decode =>
      refine w.modifyTask fun t' ht' hchunks => ?_
      cases ht.symm.trans ht'
      exact hchunks
  | check => exact w.modifyTask fun _ _ hchunks => Task.chunks_check hchunks _
  | publish => exact Wakeful.modifyTask (g := { g with publisher := _ }) w fun _ _ => id
  | emit => exact Wakeful.modifyTask (g := g.emit _) w fun _ _ => id

end Gateway

/-- Whatever happens in a gateway, no queue is filled without its task being noted, -/
theorem Moment.wakeful_step {m m' : Moment} {move : Move} (w : m.gateway.Wakeful)
    (hstep : m.step? move = some m') : m'.gateway.Wakeful := by
  cases move with
  | call c =>
      obtain ⟨-, rfl⟩ := step?_call hstep
      exact w
  | access =>
      obtain ⟨x, rest, -, -, rfl⟩ := step?_access hstep
      exact w.change x
  | task n now =>
      obtain ⟨o, ho, rfl⟩ := Option.map_eq_some_iff.mp hstep
      exact w.advance ho
  | linger n =>
      cases hstep
      exact w.modifyTask fun _ _ => Task.chunks_linger
  | offer n chunk =>
      cases hstep
      exact w.push n chunk
  | dispatch sink =>
      obtain ⟨d, -, rfl⟩ := Option.map_eq_some_iff.mp hstep
      exact w
  | receive =>
      cases hstep
      exact w

/-- also when calls overlap, -/
theorem Crowd.wakeful_step {c c' : Crowd} {turn : Turn} (w : c.gateway.Wakeful)
    (hstep : c.step? turn = some c') : c'.gateway.Wakeful := by
  rcases exists_seen hstep with ⟨-, hsame⟩ | ⟨m, move, m', -, hm, hmove, hm'⟩
  · rw [hsame]
    exact w
  · rw [← hm']
    exact Moment.wakeful_step (hm ▸ w) hmove

/-- and so it is in every run. -/
theorem Crowd.wakeful_run {c c' : Crowd} {turns : List Turn} (w : c.gateway.Wakeful)
    (hrun : c.run? turns = some c') : c'.gateway.Wakeful :=
  run?_preserves (P := fun c => c.gateway.Wakeful) (fun _ => wakeful_step) w hrun

/-! ## A chunk that waits for room -/

namespace Gateway

variable {g : Gateway} {config : Config} {n : Nat} {id : String}
variable {σ : Type} [TopicSink σ]

/-- When a gateway has settled, the listed tasks that had something to do wait. -/
theorem Serves.atRest_settle (s : g.Serves config) (hn : g.deviceTask? id = some n)
    (hready : n ∈ g.ready) (sink : σ) (now : Instant) :
    (g.settle sink now).gateway.AtRest n :=
  s.unnoted.atRest_runTasks (s.listed hn) sink now (Or.inr hready)

/-- A chunk for a device that is listed is taken, at once or when the gateway has settled. -/
theorem Serves.sendChunk_of_listed (s : g.Serves config) (w : g.Wakeful)
    (hn : g.deviceTask? id = some n) (sink : σ) (chunk : Bytes) (now : Instant) :
    (g.sendChunk sink id chunk now).value = .ok () := by
  obtain ⟨t, ht, -, -, hphase⟩ := s.exists_task hn
  have hpush := push_of_not_ended_eq ht hphase chunk
  simp only [sendChunk, hn, send]
  cases hfull : t.isFull with
  | false =>
      rw [hfull] at hpush
      simp only [hpush, Bool.false_eq_true, if_false]
  | true =>
      rw [hfull] at hpush
      have hchunks : t.chunks ≠ [] := by
        intro hnone
        rw [Task.isFull, hnone] at hfull
        exact absurd hfull (by decide)
      obtain ⟨t', ht', hphase', hnone, -⟩ := s.atRest_settle hn (w n t ht hchunks) sink now
      have hroom : t'.isFull = false := by
        rw [Task.isFull, hnone]
        rfl
      have hlater := push_of_not_ended_eq ht' (by rw [hphase']; exact nofun) chunk
      rw [hroom] at hlater
      simp only [hpush, if_true, hlater, Bool.false_eq_true, if_false]

end Gateway

end SensorGateway
