import SensorGateway.Proofs.Gateway.Journal
import SensorGateway.Proofs.Gateway.LastPayload

/-!
# What is published follows what is decoded

The two strands come together for a battery with topics that is seen connected when all that its
task has handled is published (`Sighting`).  The journals say what its session was given and what it
told (`Moment.exists_origin`), and the last payload is the one of the session's record
(`Moment.Upkept`).  So the last payload is a matter of the bytes alone, but for its timestamp: not
of how they were cut, nor of what queue and sink did with the envelopes
(`Sighting.lastKnown_tracks`).
-/

namespace SensorGateway

/-- No access touches the configuration. -/
theorem Access.config_change (g : Gateway) (x : Access) : (x.change g).config = g.config := by
  cases x with
  | bind id topics => exact g.config_bind id topics
  | send n chunk => exact (g.agrees_push n chunk).config
  | offer n chunk => exact (g.agrees_push n chunk).config
  | unlist | unlistAll | silence | abort | detach | start | enlist | find | findTank => rfl

/-- Whatever a task goes through, it stays with its device. -/
theorem Task.Follows.device {t t' : Task} {received : List Bytes} {handled : List Handling}
    (h : t.Follows received handled t') : t'.session.device = t.session.device := by
  rw [← h.session, DeviceSession.device_handleAll]

namespace Moment

variable {m m' : Moment} {move : Move} {moves : List Move} {n : Nat}

/-- No move touches the configuration, -/
theorem config_step (hstep : m.step? move = some m') : m'.gateway.config = m.gateway.config := by
  rcases step_cases hstep with ⟨c, -, -, rfl⟩ | ⟨x, rest, -, -, -, rfl⟩ | ⟨-, -, hagrees, -⟩
  · rfl
  · exact x.config_change m.gateway
  · exact hagrees.config

/-- so it is the same in a whole run. -/
theorem config_run (hrun : m.run? moves = some m') : m'.gateway.config = m.gateway.config :=
  run?_preserves (P := fun m' => m'.gateway.config = m.gateway.config)
    (fun _ hconfig hstep => (config_step hstep).trans hconfig) rfl hrun

/-- A task that has come into being in a run was started with a new session for a device of the
configuration, and has gone on as the journals of the run say. -/
theorem exists_origin (h : m.Upkept) (habsent : m.gateway.task? n = none)
    (hrun : m.run? moves = some m') {t : Task} (ht : m'.gateway.task? n = some t) :
    ∃ device, m.gateway.config.device? t.session.device = some device ∧
      (Task.new (m.gateway.newSession device)).Follows (m.received n moves) (m.handled n moves)
        t := by
  induction moves generalizing m with
  | nil =>
      cases hrun
      cases habsent.symm.trans ht
  | cons move moves ih =>
      obtain ⟨m₁, hstep, hrun⟩ := Option.bind_eq_some_iff.mp hrun
      obtain ⟨hreceived, hhandled⟩ := notes_of_absent habsent move
      have hconfig := config_step hstep
      rw [received, handled, journal_cons hstep, journal_cons hstep, hreceived, hhandled]
      cases ht₁ : m₁.gateway.task? n with
      | none =>
          obtain ⟨device, hdevice, hfollows⟩ := ih (h.step hstep) ht₁ hrun
          rw [Gateway.newSession_congr hconfig] at hfollows
          exact ⟨device, hconfig ▸ hdevice, hfollows⟩
      | some t₁ =>
          obtain ⟨id, device, chunk, rest, hpending, rfl⟩ := started_of_absent habsent hstep ht₁
          obtain ⟨t', ht', hfollows⟩ := carries_run hrun n _ ht₁
          cases ht.symm.trans ht'
          have hproceeds := h.proceeds
          rw [hpending] at hproceeds
          cases hproceeds with
          | access hready _ =>
              obtain ⟨-, hdevice, -, -⟩ := hready
              refine ⟨device, ?_, hfollows⟩
              rw [hfollows.device]
              exact (congrArg _ (m.gateway.device_newSession hdevice)).trans hdevice

end Moment

/-! ## Batteries in a run -/

/-- At the end of a run a battery with topics is connected, and all that its task has handled is
published. -/
structure Sighting where
  config : Config
  capacity : Nat
  suppressRepeats : Bool
  moves : List Move
  moment : Moment
  reached : (Moment.start config capacity suppressRepeats).run? moves = some moment
  battery : BatteryConfig
  configured : config.device? battery.id = some (.battery battery)
  bound : battery.topics ≠ []
  number : Nat
  connected : moment.gateway.deviceTask? battery.id = some number
  task : Task
  found : moment.gateway.task? number = some task
  settled : task.isSettled = true

namespace Sighting

variable (s : Sighting)

/-- The chunks that were queued for the task, all of them since the battery was connected. -/
def received : List Bytes :=
  (Moment.start s.config s.capacity s.suppressRepeats).received s.number s.moves

/-- What the task has handled. -/
def handled : List Handling :=
  (Moment.start s.config s.capacity s.suppressRepeats).handled s.number s.moves

/-- The bytes that the task has handled. -/
def bytes : Bytes := (s.handled.map Handling.chunk).flatten

/-- The events that have come of them. -/
def events : List Event := s.handled.flatMap Handling.events

/-- The last payload of the battery. -/
def lastKnown? : Option Json := s.moment.gateway.publisher.lastKnown.find? s.battery.id

/-- A new session for the battery that is given what the task has handled. -/
def replay : Handled BatterySession :=
  (BatterySession.new s.battery.id s.battery.lowSocThreshold).handleChunks
    (s.handled.map Handling.input)

/-- At the sighting the last payloads are up to date. -/
theorem upkept : s.moment.Upkept :=
  (Moment.upkept_start s.config s.capacity s.suppressRepeats).run s.reached

/-- The task that is sighted is live, and the battery's. -/
theorem live : s.task.live = true ∧ s.task.session.device = s.battery.id := by
  obtain ⟨t, ht, hlive, hdevice⟩ := s.upkept.orderly.listed s.connected
  cases s.found.symm.trans ht
  exact ⟨hlive, hdevice⟩

/-- The task is one of a new session for the battery. -/
theorem follows :
    (Task.new (.battery (.new s.battery.id s.battery.lowSocThreshold))).Follows s.received s.handled
      s.task := by
  have hstart := Moment.upkept_start s.config s.capacity s.suppressRepeats
  obtain ⟨device, hdevice, hfollows⟩ := Moment.exists_origin hstart rfl s.reached s.found
  rw [s.live.2] at hdevice
  cases s.configured.symm.trans hdevice
  exact hfollows

/-- Its session is a new one that was given what has been handled. -/
theorem session_eq : s.task.session = .battery s.replay.session := by
  rw [← s.follows.session]
  exact DeviceSession.session_handleAll_battery _ _

/-- The events are those of that session. -/
theorem events_eq : s.events = s.replay.events :=
  s.follows.events.symm.trans (DeviceSession.events_handleAll_battery _ _)

/-- Events are told when the record has changed, and only then. -/
theorem told : Record.empty.Told s.events s.task.session.record := by
  have hfollows := s.follows
  rw [events, ← hfollows.events, ← hfollows.session]
  exact DeviceSession.told_handleAll _ _

/-- The last payload is the one of its record. -/
theorem lastKnown?_eq : s.lastKnown? = s.task.session.record.payload? s.battery.id := by
  obtain ⟨hlive, hdevice⟩ := s.live
  have hconfigured : s.moment.gateway.config.device? s.task.session.device
      = some (.battery s.battery) := by
    rw [Moment.config_run s.reached, hdevice]
    exact s.configured
  have hshown := s.upkept.tracks s.number s.task _ s.found hlive hconfigured s.bound
  rw [← hdevice]
  exact (congrArg _ hdevice).symm.trans (hshown.eq_payload? s.settled)

/-- Without events there is no payload, -/
theorem lastKnown?_eq_none (hnone : s.events = []) : s.lastKnown? = none := by
  rw [s.lastKnown?_eq]
  rcases s.told with ⟨-, hrecord⟩ | ⟨hsome, -⟩
  · rw [hrecord]
    rfl
  · exact absurd hnone hsome

/-- and with events it is that of the record, whatever the time. -/
theorem lastKnown?_eq_some (hsome : s.events ≠ []) (now : Instant) :
    s.lastKnown? = some (s.task.session.record.payload s.battery.id now) := by
  rw [s.lastKnown?_eq]
  rcases s.told with ⟨hnone, -⟩ | ⟨-, hchanged⟩
  · exact absurd hnone hsome
  · exact Record.payload?_eq_some hchanged _ now

/-- What has been received has been handled, but for what is held. -/
theorem received_eq : s.received = s.handled.map Handling.chunk ++ s.task.held := by
  refine (s.follows.held fun hended => ?_).2
  have hsettled := s.settled
  simp only [Task.isSettled, hended] at hsettled
  cases hsettled

/-- Whether a run ends with a sighting can be found out by following it. -/
theorem exists_of_run (config : Config) (capacity : Nat) (suppressRepeats : Bool)
    (moves : List Move) (battery : BatteryConfig) (n : Nat)
    (hconfigured : config.device? battery.id = some (.battery battery))
    (hbound : battery.topics ≠ [])
    (hrun : ((Moment.start config capacity suppressRepeats).run? moves).any (fun m =>
      decide (m.gateway.deviceTask? battery.id = some n)
        && (m.gateway.task? n).any Task.isSettled) = true) :
    ∃ s : Sighting, s.battery = battery ∧
      (Moment.start config capacity suppressRepeats).run? moves = some s.moment ∧
      s.handled = (Moment.start config capacity suppressRepeats).handled n moves := by
  obtain ⟨moment, hmoment, hseen⟩ := (Option.any_eq_true _ _).mp hrun
  obtain ⟨hconnected, hsettled⟩ := Bool.and_eq_true_iff.mp hseen
  obtain ⟨task, hfound, hsettled⟩ := (Option.any_eq_true _ _).mp hsettled
  exact ⟨⟨config, capacity, suppressRepeats, moves, moment, hmoment, battery, hconfigured, hbound,
    n, of_decide_eq_true hconnected, task, hfound, hsettled⟩, rfl, hmoment, rfl⟩

variable {s} {s' : Sighting}

/-- What a session makes of the same bytes is the same. -/
theorem replay_congr (hid : s'.battery.id = s.battery.id)
    (hthreshold : s'.battery.lowSocThreshold = s.battery.lowSocThreshold)
    (hbytes : s'.bytes = s.bytes) :
    s'.events = s.events ∧
      s'.task.session.record.timeless = s.task.session.record.timeless := by
  have hflatten : ((s'.handled.map Handling.input).map Prod.fst).flatten
      = ((s.handled.map Handling.input).map Prod.fst).flatten := by
    rw [List.map_map, List.map_map]
    exact hbytes
  rw [s.events_eq, s'.events_eq, s.session_eq, s'.session_eq, replay, replay, hid, hthreshold]
  exact BatterySession.handleChunks_congr _ _ hflatten

/-- **What is published follows what is decoded.**  The task has handled the chunks that it was
sent, in order, up to some of them.  If no event has come of them the publisher knows nothing of the
battery, else the payload of what the session knows now, whatever has become of the envelopes.
Sightings in which the same bytes have been handled, by sessions with the same threshold, differ
neither in their events nor, but for the timestamp, in the last payload. -/
theorem lastKnown_tracks (s : Sighting) :
    s.received = s.handled.map Handling.chunk ++ s.task.held ∧
      (s.events = [] → s.lastKnown? = none) ∧
      (s.events ≠ [] → ∀ now,
        s.lastKnown? = some (s.task.session.record.payload s.battery.id now)) ∧
      ∀ s' : Sighting, s'.battery.id = s.battery.id →
        s'.battery.lowSocThreshold = s.battery.lowSocThreshold → s'.bytes = s.bytes →
        s'.events = s.events ∧
          s'.lastKnown?.map (Json.blank "timestamp")
            = s.lastKnown?.map (Json.blank "timestamp") := by
  refine ⟨s.received_eq, s.lastKnown?_eq_none, s.lastKnown?_eq_some,
    fun s' hid hthreshold hbytes => ?_⟩
  obtain ⟨hevents, hrecord⟩ := replay_congr hid hthreshold hbytes
  refine ⟨hevents, ?_⟩
  by_cases hnone : s.events = []
  · rw [s.lastKnown?_eq_none hnone, s'.lastKnown?_eq_none (hevents.trans hnone)]
  · have hsome : s'.events ≠ [] := hevents ▸ hnone
    have hpayload := Record.blank_payload hrecord s.battery.id ⟨0, 0⟩ ⟨0, 0⟩
    rw [s.lastKnown?_eq_some hnone ⟨0, 0⟩, s'.lastKnown?_eq_some hsome ⟨0, 0⟩, hid,
      Option.map_some, Option.map_some, hpayload]

/-- Two names are reported, in one chunk or with the second one cut in two.  What the second chunk
brings is lost on its way. -/
theorem lastKnown_tracks_two_cuts :
    let battery : BatteryConfig :=
      { id := "battery", bleName := "", lowSocThreshold := some 20, topics := ["topic"]
        pollIntervalMs := 1000 }
    let first : Bytes := [0xDD, 0x05, 0x00, 0x01, 0x41, 0xFF, 0xBE, 0x77]
    let second : Bytes := [0xDD, 0x05, 0x00, 0x01, 0x42, 0xFF, 0xBD, 0x77]
    ∃ s s' : Sighting, s.battery = battery ∧ s'.battery = battery ∧
      s.handled.map Handling.chunk = [first ++ second] ∧
      s'.handled.map Handling.chunk = [first ++ second.take 3, second.drop 3] ∧
      s.moment.gateway.publisher.dropped = 0 ∧ s'.moment.gateway.publisher.dropped = 1 ∧
      s.events ≠ [] ∧ s.received = s.handled.map Handling.chunk ++ s.task.held ∧
      (∀ now, s.lastKnown? = some (s.task.session.record.payload s.battery.id now)) ∧
      s'.bytes = s.bytes ∧ s'.events = s.events ∧
      s'.lastKnown?.map (Json.blank "timestamp") = s.lastKnown?.map (Json.blank "timestamp") := by
  intro battery first second
  let config : Config := { batteries := [battery] }
  let connect : List Move := [.call (.connect "battery"), .access, .access, .access, .access]
  let handle : List Move := List.replicate 5 (.task 0 ⟨0, 0⟩)
  let whole : List Move := connect ++ .offer 0 (first ++ second) :: handle
  let cut : List Move :=
    connect ++ .offer 0 (first ++ second.take 3) :: handle ++ .offer 0 (second.drop 3) :: handle
  obtain ⟨s, hs, hrun, hhandled⟩ := exists_of_run config 1 true whole battery 0 rfl (by decide)
    (by decide +kernel)
  obtain ⟨s', hs', hrun', hhandled'⟩ := exists_of_run config 1 true cut battery 0 rfl (by decide)
    (by decide +kernel)
  have hchunks : s.handled.map Handling.chunk = [first ++ second] := by
    rw [hhandled]
    decide +kernel
  have hchunks' : s'.handled.map Handling.chunk = [first ++ second.take 3, second.drop 3] := by
    rw [hhandled']
    decide +kernel
  have hdropped : ((Moment.start config 1 true).run? whole).map (·.gateway.publisher.dropped)
      = some 0 := by decide +kernel
  have hdropped' : ((Moment.start config 1 true).run? cut).map (·.gateway.publisher.dropped)
      = some 1 := by decide +kernel
  rw [hrun] at hdropped
  rw [hrun'] at hdropped'
  have hevents : s.events ≠ [] := by
    rw [events, hhandled, ← List.isEmpty_eq_false_iff]
    decide +kernel
  have hbytes : s'.bytes = s.bytes := by
    rw [bytes, bytes, hchunks, hchunks']
    rfl
  obtain ⟨hreceived, -, hknown, hcuts⟩ := s.lastKnown_tracks
  obtain ⟨hsame, hlast⟩ := hcuts s' (by rw [hs, hs']) (by rw [hs, hs']) hbytes
  exact ⟨s, s', hs, hs', hchunks, hchunks', Option.some.inj hdropped, Option.some.inj hdropped',
    hevents, hreceived, hknown hevents, hbytes, hsame, hlast⟩

end Sighting

end SensorGateway
