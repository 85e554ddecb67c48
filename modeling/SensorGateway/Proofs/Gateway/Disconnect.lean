import SensorGateway.Proofs.Gateway.Completion
import SensorGateway.Proofs.Gateway.Silence

/-!
# A disconnected device stays silent

Of every moment of a run it is known that a last payload is kept for bound devices only, that a task
which holds its lock is live, and that the call under way leads to an aligned gateway
(`Moment.Sound`).  Between two calls the gateway itself is the one that was led to.  So there the
list of devices, the live tasks, the bindings and the last payloads belong to the same devices, and
a task that a call has stopped never again publishes anything or emits an event, wherever the call
found it (`Moment.stopped_stays_mute`).
-/

namespace SensorGateway

/-- The list of devices, the live tasks, the bindings and the last payloads belong together. -/
structure Gateway.Consistent (g : Gateway) : Prop extends g.Aligned where
  known : ∀ {id}, (g.publisher.lastKnown.find? id).isSome = true →
    g.isConnected id = true ∧ (g.publisher.bindings.find? id).isSome = true

/-- Whatever step the task makes, nothing is published and no event emitted. -/
def Gateway.Mute (g : Gateway) (n : Nat) : Prop :=
  ∀ now o, g.advance n now = some o →
    o.gateway.publisher = g.publisher ∧ o.gateway.events = g.events

/-! ## What is known of the last payloads -/

namespace Gateway

variable {g : Gateway}

/-- Putting a chunk into a queue does not touch the publisher. -/
theorem publisher_push (g : Gateway) (n : Nat) (chunk : Bytes) :
    (g.push n chunk).2.publisher = g.publisher := by
  rcases g.push_eq n chunk with h | h
  · rw [h]
  · rw [h]
    rfl

/-- After every access payloads are known of bound devices only, -/
theorem boundOnly_change (h : g.publisher.KnowsBoundOnly) (x : Access) :
    (x.change g).publisher.KnowsBoundOnly := by
  cases x with
  | detach id => exact Publisher.boundOnly_detach h id
  | bind id topics =>
      simp only [Access.change, bind]
      split
      · exact h
      · exact Publisher.boundOnly_bind h id topics
  | send n chunk =>
      simp only [Access.change, publisher_push]
      exact h
  | offer n chunk =>
      simp only [Access.change, publisher_push]
      exact h
  | unlist | unlistAll | silence | abort | start | enlist | find | findTank => exact h

/-- and after every step of a task, too. -/
theorem boundOnly_advance (h : g.publisher.KnowsBoundOnly) {n : Nat} {now : Instant}
    {o : Outcome Unit} (ho : g.advance n now = some o) : o.gateway.publisher.KnowsBoundOnly := by
  obtain ⟨t, -, hstep⟩ := advance_eq_some_iff.mp ho
  cases hstep with
  | publish => exact Publisher.boundOnly_publish h t.session.device t.session.record now
  | take | decode | check | emit => exact h

/-- If list, live tasks and bindings are in step, and payloads are known of bound devices only, all
four belong together. -/
theorem Aligned.consistent (s : g.Aligned) (h : g.publisher.KnowsBoundOnly) : g.Consistent where
  toAligned := s
  known {id} hknown := by
    obtain ⟨b, hb⟩ := Option.isSome_iff_exists.mp (h id hknown)
    obtain ⟨hconnected, -⟩ := s.bound_iff.mp (congrArg (Option.map Binding.topics) hb)
    exact ⟨hconnected, h id hknown⟩

end Gateway

/-! ## Every moment of a run -/

namespace Moment

/-- What holds of every moment of a run, also while a call is under way. -/
structure Sound (m : Moment) : Prop where
  boundOnly : m.gateway.publisher.KnowsBoundOnly
  locks : m.gateway.LocksLive
  leads : ∃ g, m.LeadsTo g ∧ g.Aligned

/-- A gateway begins soundly. -/
theorem sound_start (config : Config) (capacity : Nat) (suppressRepeats : Bool) :
    (start config capacity suppressRepeats).Sound where
  boundOnly _ hknown := by cases hknown
  locks := Gateway.locksLive_new config _
  leads := ⟨_, ⟨_, .done _, .refl _⟩, Gateway.aligned_new config capacity suppressRepeats⟩

variable {m m' : Moment} {move : Move} {n : Nat}

/-- In every move payloads stay known of bound devices only, -/
theorem boundOnly_step (h : m.gateway.publisher.KnowsBoundOnly) (hstep : m.step? move = some m') :
    m'.gateway.publisher.KnowsBoundOnly := by
  cases move with
  | call c =>
      obtain ⟨-, rfl⟩ := step?_call hstep
      exact h
  | access =>
      obtain ⟨x, rest, -, -, rfl⟩ := step?_access hstep
      exact Gateway.boundOnly_change h x
  | task n now =>
      obtain ⟨o, ho, rfl⟩ := Option.map_eq_some_iff.mp hstep
      exact Gateway.boundOnly_advance h ho
  | linger n =>
      cases hstep
      exact h
  | offer n chunk =>
      cases hstep
      rw [Gateway.publisher_push]
      exact h
  | dispatch sink =>
      obtain ⟨d, hd, rfl⟩ := Option.map_eq_some_iff.mp hstep
      exact (Publisher.knowsSame_step hd).boundOnly h
  | receive =>
      cases hstep
      exact h

/-- and locks stay with live tasks. -/
theorem locksLive_step (locks : m.gateway.LocksLive) (hstep : m.step? move = some m') :
    m'.gateway.LocksLive := by
  cases move with
  | call c =>
      obtain ⟨-, rfl⟩ := step?_call hstep
      exact locks
  | access =>
      obtain ⟨x, rest, -, hfree, rfl⟩ := step?_access hstep
      exact locks.change hfree
  | task n now =>
      obtain ⟨o, ho, rfl⟩ := Option.map_eq_some_iff.mp hstep
      exact locks.advance ho
  | linger n =>
      cases hstep
      exact locks.modifyTask fun t ht => Task.live_of_holdsLock_linger (locks n t ht)
  | offer n chunk =>
      cases hstep
      exact locks.push n chunk
  | dispatch sink =>
      obtain ⟨d, -, rfl⟩ := Option.map_eq_some_iff.mp hstep
      exact locks
  | receive =>
      cases hstep
      exact locks

/-- The call that begins finds an aligned gateway, and leads to one. -/
theorem leads_step (h : ∃ g, m.LeadsTo g ∧ g.Aligned) (hstep : m.step? move = some m') :
    ∃ g, m'.LeadsTo g ∧ g.Aligned := by
  obtain ⟨g, hleads, haligned⟩ := h
  rcases step_cases hstep with ⟨c, -, idle, rfl⟩ | ⟨x, rest, rfl, -⟩ | ⟨hcall, -⟩
  · have hhere : m.gateway.Aligned := haligned.of_agrees (hleads.agrees idle)
    exact ⟨c.perform m.gateway, leadsTo_call m.gateway c, hhere.perform c⟩
  · exact ⟨g, hleads.step rfl hstep, haligned⟩
  · exact ⟨g, hleads.step hcall hstep, haligned⟩

/-- Every move is sound, -/
theorem Sound.step (h : m.Sound) (hstep : m.step? move = some m') : m'.Sound where
  boundOnly := boundOnly_step h.boundOnly hstep
  locks := locksLive_step h.locks hstep
  leads := leads_step h.leads hstep

/-- and so is every run. -/
theorem Sound.run (h : m.Sound) {moves : List Move} (hrun : m.run? moves = some m') : m'.Sound :=
  run?_preserves (fun _ => Sound.step) h hrun

/-- When no call is under way, list, live tasks and bindings are in step. -/
theorem Sound.aligned (h : m.Sound) (idle : m.pending = []) : m.gateway.Aligned := by
  obtain ⟨g, hleads, haligned⟩ := h.leads
  exact haligned.of_agrees (hleads.agrees idle)

/-- A task that has been silenced is mute at every moment. -/
theorem Sound.mute (h : m.Sound) (s : m.gateway.Silenced n) : m.gateway.Mute n :=
  fun _ _ ho => s.advance h.locks ho

/-! ## Silence lasts -/

/-- A task that has been silenced stays so in every move, -/
theorem silenced_step (s : m.gateway.Silenced n) (hstep : m.step? move = some m') :
    m'.gateway.Silenced n := by
  rcases step_cases hstep with ⟨c, -, -, rfl⟩ | ⟨x, rest, -, -, -, rfl⟩ | ⟨-, -, hagrees, -⟩
  · exact s
  · exact s.change x
  · exact hagrees.silenced_iff.mpr s

/-- and in every run. -/
theorem silenced_run (s : m.gateway.Silenced n) {moves : List Move}
    (hrun : m.run? moves = some m') : m'.gateway.Silenced n :=
  run?_preserves (P := fun m => m.gateway.Silenced n) (fun _ => silenced_step) s hrun

/-- **A stopped session stays silent.**  Whatever tasks, dispatcher and listeners do beside the
calls: between two calls the gateway is consistent, and once a call that stops a device is over, the
task that the device had stays mute. -/
theorem stopped_stays_mute {config : Config} {capacity : Nat} {suppressRepeats : Bool}
    {before : List Move} {m : Moment}
    (hbefore : (start config capacity suppressRepeats).run? before = some m)
    (idle : m.pending = []) :
    m.gateway.Consistent ∧
      ∀ {c : Call} {id : String} {n : Nat}, c.Stops id → m.gateway.deviceTask? id = some n →
        ∀ {during : List Move} {m' : Moment}, m.run? (.call c :: during) = some m' →
          (∀ move ∈ during, move.isCall = false) → m'.pending = [] →
          ∀ {later : List Move} {m'' : Moment}, m'.run? later = some m'' →
            m''.gateway.Mute n := by
  have hsound := (sound_start config capacity suppressRepeats).run hbefore
  have haligned := hsound.aligned idle
  refine ⟨haligned.consistent hsound.boundOnly, ?_⟩
  intro c id n hstops hn during m' hduring hcalls idle' later m'' hlater
  have hover : m'.gateway.Silenced n :=
    (agrees_perform_of_run hduring hcalls idle').silenced_iff.mpr
      (haligned.silenced_perform hstops hn)
  exact ((hsound.run hduring).run hlater).mute (silenced_run hover hlater)

/-- A battery's name has been decoded but not yet reported when the battery is disconnected. -/
theorem stopped_stays_mute_unreported :
    let config : Config :=
      { batteries :=
          [{ id := "battery", bleName := "", lowSocThreshold := none, topics := ["topic"]
             pollIntervalMs := 1000 }] }
    let before : List Move :=
      [.call (.connect "battery"), .access, .access, .access, .access,
        .offer 0 [0xDD, 0x05, 0x00, 0x01, 0x41, 0xFF, 0xBE, 0x77], .task 0 ⟨0, 0⟩, .task 0 ⟨0, 0⟩]
    let during : List Move := [.access, .access, .access, .access]
    ∃ m m' m'', (start config 1 true).run? before = some m ∧ m.pending = [] ∧
      (m.gateway.task? 0).any (·.phase == .reporting [⟨"battery", .deviceName "A"⟩]) = true ∧
      m.run? (.call (.disconnect "battery") :: during) = some m' ∧ m'.pending = [] ∧
      m'.run? [.task 0 ⟨0, 0⟩] = some m'' ∧ m''.gateway.Mute 0 := by
  intro config before during
  obtain ⟨m, hm, hidle, hn, hphase⟩ : ∃ m, (start config 1 true).run? before = some m ∧
      m.pending = [] ∧ m.gateway.deviceTask? "battery" = some 0 ∧
      (m.gateway.task? 0).any (·.phase == .reporting [⟨"battery", .deviceName "A"⟩]) = true :=
    ⟨_, rfl, rfl, rfl, by decide +kernel⟩
  have hover : ((start config 1 true).run? (before ++ .call (.disconnect "battery") :: during)).map
      (fun m => m.pending.isEmpty) = some true := by decide +kernel
  rw [run?_append, hm, Option.bind_some] at hover
  obtain ⟨m', hm', hidle'⟩ := Option.map_eq_some_iff.mp hover
  have hlater :
      ((start config 1 true).run?
        (before ++ (.call (.disconnect "battery") :: during ++ [.task 0 ⟨0, 0⟩]))).isSome
      = true := by
    decide +kernel
  rw [run?_append, hm, Option.bind_some, run?_append, hm', Option.bind_some] at hlater
  obtain ⟨m'', hm''⟩ := Option.isSome_iff_exists.mp hlater
  have hidle' : m'.pending = [] := List.isEmpty_iff.mp hidle'
  exact ⟨m, m', m'', hm, hidle, hphase, hm', hidle', hm'',
    (stopped_stays_mute hm hidle).2 (.disconnect "battery") hn hm' (by decide) hidle' hm''⟩

end Moment

end SensorGateway
