import SensorGateway.Proofs.Gateway.Crowd
import SensorGateway.Proofs.Gateway.TaskOutputs

/-!
# A connection by itself

Many devices are served at once, calls overlap, a device is connected again and again.  All of that
is of no consequence to what comes of one connection: its outputs are those of a new session for the
device that is given the chunks which were accepted for this connection, as far as they have been
handled (`DeviceConnection.produced_as_by_new_session`).  So a second connection that has accepted
the same chunks has the same outputs, whatever else has happened around it and before it.
-/

namespace SensorGateway

/-! ## Following a task through the turns -/

namespace Crowd

variable {c c' : Crowd} {turn : Turn} {turns : List Turn} {n : Nat} {t : Task}

/-- In every turn a task yields what is noted of it. -/
theorem yields_step (hstep : c.step? turn = some c') (ht : c.gateway.task? n = some t) :
    ∃ t', c'.gateway.task? n = some t' ∧
      t.Yields (c.note? (Moment.received? n) turn).toList
        (c.note? (Moment.output? n) turn).toList (c.note? (Moment.report? n) turn).toList t' := by
  unfold note?
  rcases exists_seen hstep with ⟨hseen, hsame⟩ | ⟨m, move, m', hseen, hm, hmove, hm'⟩
  · rw [hseen, hsame]
    exact ⟨t, ht, .refl t⟩
  · rw [← hm] at ht
    obtain ⟨t', ht', hadvances⟩ := Moment.advances_step hmove ht
    have hyields := hadvances.yields
    rw [← Moment.output?_eq ht] at hyields
    rw [hseen, ← hm']
    exact ⟨t', ht', hyields⟩

/-- In a whole run a task yields what the journals say of it. -/
theorem yields_run (hrun : c.run? turns = some c') (ht : c.gateway.task? n = some t) :
    ∃ t', c'.gateway.task? n = some t' ∧
      t.Yields (c.journal (Moment.received? n) turns) (c.journal (Moment.output? n) turns)
        (c.journal (Moment.report? n) turns) t' := by
  induction turns generalizing c t with
  | nil =>
      cases hrun
      exact ⟨t, ht, .refl t⟩
  | cons turn turns ih =>
      obtain ⟨c₁, hstep, hrun⟩ := Option.bind_eq_some_iff.mp hrun
      obtain ⟨t₁, ht₁, hfirst⟩ := yields_step hstep ht
      obtain ⟨t', ht', hrest⟩ := ih hrun ht₁
      refine ⟨t', ht', ?_⟩
      rw [journal_cons hstep, journal_cons hstep, journal_cons hstep]
      exact hfirst.trans hrest

/-- Of a task that is not there yet nothing is noted. -/
theorem note?_of_absent (habsent : c.gateway.task? n = none) (hstep : c.step? turn = some c') :
    c.note? (Moment.received? n) turn = none ∧ c.note? (Moment.output? n) turn = none ∧
      c.note? (Moment.report? n) turn = none := by
  unfold note?
  rcases exists_seen hstep with ⟨hseen, -⟩ | ⟨m, move, m', hseen, hm, -, -⟩
  · simp only [hseen, Option.bind_none, and_self]
  · rw [← hm] at habsent
    obtain ⟨hreceived, -⟩ := Moment.notes_of_absent habsent move
    obtain ⟨houtput, hreport⟩ := Moment.output?_of_absent habsent move
    simp only [hseen, Option.bind_some, hreceived, houtput, hreport, and_self]

/-- A task comes into being with a new session for a device of the configuration. -/
theorem started_of_absent (h : c.Configured) (habsent : c.gateway.task? n = none)
    (hstep : c.step? turn = some c') (ht : c'.gateway.task? n = some t) :
    ∃ id device, c.gateway.config.device? id = some device ∧
      t = .new (c.gateway.newSession device) := by
  rcases step_cases hstep with
    ⟨call, -, rfl⟩ | ⟨k, x, rest, -, hk, -, rfl⟩ | ⟨move, -, hagrees, -⟩
  · cases habsent.symm.trans ht
  · rcases Gateway.absent_change habsent x with hnone | ⟨id, device, chunk, rfl, hnew⟩
    · cases hnone.symm.trans ht
    · have hdevice := h _ (List.mem_of_getElem? hk) id device chunk List.mem_cons_self
      exact ⟨id, device, hdevice, Option.some.inj (ht.symm.trans hnew)⟩
  · have hbadge := hagrees.badge n
    rw [Gateway.badge?, Gateway.badge?, habsent, ht] at hbadge
    cases hbadge

/-- A task that has come into being in a run was started with a new session for its device, and the
journals of the run say what has become of it. -/
theorem exists_origin (h : c.Configured) (habsent : c.gateway.task? n = none)
    (hrun : c.run? turns = some c') (ht : c'.gateway.task? n = some t) :
    ∃ device, c.gateway.config.device? t.session.device = some device ∧
      (Task.new (c.gateway.newSession device)).Yields (c.journal (Moment.received? n) turns)
        (c.journal (Moment.output? n) turns) (c.journal (Moment.report? n) turns) t := by
  induction turns generalizing c with
  | nil =>
      cases hrun
      cases habsent.symm.trans ht
  | cons turn turns ih =>
      obtain ⟨c₁, hstep, hrun⟩ := Option.bind_eq_some_iff.mp hrun
      obtain ⟨hreceived, houtput, hreport⟩ := note?_of_absent habsent hstep
      have hconfig := config_step hstep
      rw [journal_cons hstep, journal_cons hstep, journal_cons hstep, hreceived, houtput, hreport]
      cases ht₁ : c₁.gateway.task? n with
      | none =>
          obtain ⟨device, hdevice, hyields⟩ := ih (h.step hstep) ht₁ hrun
          rw [Gateway.newSession_congr hconfig] at hyields
          exact ⟨device, hconfig ▸ hdevice, hyields⟩
      | some t₁ =>
          obtain ⟨id, device, hdevice, rfl⟩ := started_of_absent h habsent hstep ht₁
          obtain ⟨t', ht', hyields⟩ := yields_run hrun ht₁
          cases ht.symm.trans ht'
          refine ⟨device, ?_, hyields⟩
          obtain ⟨inputs, hsession, -⟩ := hyields.work
          rw [← hsession, DeviceSession.device_handleAll]
          exact (congrArg _ (c.gateway.device_newSession hdevice)).trans hdevice

end Crowd

/-! ## Connections -/

/-- A connection at the end of a run: a task, which was started when its device was connected. -/
structure DeviceConnection where
  config : Config
  capacity : Nat
  suppressRepeats : Bool
  turns : List Turn
  crowd : Crowd
  reached : (Crowd.start config capacity suppressRepeats).run? turns = some crowd
  number : Nat
  task : Task
  found : crowd.gateway.task? number = some task

namespace DeviceConnection

variable (c : DeviceConnection)

/-- The device. -/
def id : String := c.task.session.device

/-- The chunks that were accepted for this connection. -/
def accepted : List Bytes :=
  (Crowd.start c.config c.capacity c.suppressRepeats).journal (Moment.received? c.number) c.turns

/-- What has come of those that were handled. -/
def produced : List Output :=
  (Crowd.start c.config c.capacity c.suppressRepeats).journal (Moment.output? c.number) c.turns

/-- What has been reported, to the publisher and to the application. -/
def reported : List Output :=
  (Crowd.start c.config c.capacity c.suppressRepeats).journal (Moment.report? c.number) c.turns

/-- A new session for a device. -/
def fresh (device : DeviceConfig) : DeviceSession :=
  (Crowd.start c.config c.capacity c.suppressRepeats).gateway.newSession device

/-- The task that is looked at has yielded what was produced since its start. -/
theorem exists_yields :
    ∃ device, c.config.device? c.id = some device ∧
      (Task.new (c.fresh device)).Yields c.accepted c.produced c.reported c.task := by
  have hstart : (Crowd.start c.config c.capacity c.suppressRepeats).Configured :=
    fun pending hmem => nomatch hmem
  exact Crowd.exists_origin hstart rfl c.reached c.found

/-- A new session depends on nothing but its device and, for a tank, on the table of volumes. -/
theorem fresh_congr {c c' : DeviceConnection}
    (hvolume : c'.config.volumeTable? = c.config.volumeTable?) (device : DeviceConfig) :
    c'.fresh device = c.fresh device := by
  cases device with
  | battery b => rfl
  | tank t => exact congrArg (fun v => DeviceSession.tank (.new t.id t.calibration v _)) hvolume

/-- The outputs of a task are those of its session for the first of the chunks that it was given. -/
theorem outputs_eq {received : List Bytes} {outputs reports : List Output} {s : DeviceSession}
    {t : Task} (h : (Task.new s).Yields received outputs reports t) :
    outputs = s.outputs (received.take outputs.length) ∧ outputs.length ≤ received.length := by
  obtain ⟨inputs, -, houtputs, hprefix, -⟩ := h.work
  have hheld : (Task.new s).held = [] := rfl
  rw [hheld, List.nil_append] at hprefix
  have hlength : (inputs.map Prod.fst).length = outputs.length := by
    rw [List.length_map, ← houtputs, DeviceSession.length_outputsAt]
  have hsame : s.outputsAt inputs = outputs := houtputs
  refine ⟨?_, ?_⟩
  · rw [← hlength, ← List.prefix_iff_eq_take.mp hprefix, ← hsame]
    exact (DeviceSession.Alike.refl s).outputsAt inputs
  · rw [← hlength]
    exact hprefix.length_le

/-- **Devices and connections are isolated.**  Whatever other devices, calls and connections there
have been, and whatever has become of what was reported, the outputs of a connection are those of a
new session for its device that is given the first of the chunks accepted for this connection.  What
is reported are, in order, those outputs that have events.  Two connections of one device, in any
two runs, that have accepted the same chunks have the same outputs as far as both have got. -/
theorem produced_as_by_new_session (c : DeviceConnection) :
    ∃ device, c.config.device? c.id = some device ∧
      c.produced = (c.fresh device).outputs (c.accepted.take c.produced.length) ∧
      c.produced.length ≤ c.accepted.length ∧
      c.reported <+: c.produced.filter (!·.events.isEmpty) ∧
      ∀ c' : DeviceConnection, c'.id = c.id → c'.config.device? c.id = some device →
        c'.config.volumeTable? = c.config.volumeTable? →
        ∀ count, count ≤ c.produced.length → count ≤ c'.produced.length →
          c'.accepted.take count = c.accepted.take count →
          c'.produced.take count = c.produced.take count := by
  obtain ⟨device, hdevice, hyields⟩ := c.exists_yields
  obtain ⟨hproduced, hlength⟩ := outputs_eq hyields
  have hreported := hyields.reported.1
  refine ⟨device, hdevice, hproduced, hlength, hreported, ?_⟩
  intro c' hid hdevice' hvolume count hcount hcount' haccepted
  obtain ⟨device', hconfigured, hyields'⟩ := c'.exists_yields
  obtain ⟨hproduced', -⟩ := outputs_eq hyields'
  rw [hid] at hconfigured
  cases hdevice'.symm.trans hconfigured
  rw [hproduced', hproduced, DeviceSession.take_outputs, DeviceSession.take_outputs, List.take_take,
    List.take_take, Nat.min_eq_left hcount, Nat.min_eq_left hcount', haccepted,
    fresh_congr hvolume]

/-- A run in which a task is started has a connection, which can be found out by following it. -/
theorem exists_of_run (config : Config) (capacity : Nat) (turns : List Turn) (n : Nat) (id : String)
    (hrun : ((Crowd.start config capacity true).run? turns).any (fun c =>
      (c.gateway.task? n).any fun t => t.session.device == id) = true) :
    ∃ c : DeviceConnection, c.config = config ∧ c.id = id ∧
      c.accepted = (Crowd.start config capacity true).journal (Moment.received? n) turns ∧
      c.produced = (Crowd.start config capacity true).journal (Moment.output? n) turns ∧
      c.reported = (Crowd.start config capacity true).journal (Moment.report? n) turns := by
  obtain ⟨crowd, hreached, hseen⟩ := (Option.any_eq_true _ _).mp hrun
  obtain ⟨task, hfound, hid⟩ := (Option.any_eq_true _ _).mp hseen
  exact ⟨⟨config, capacity, true, turns, crowd, hreached, n, task, hfound⟩, rfl, beq_iff_eq.mp hid,
    rfl, rfl, rfl⟩

/-- A battery that is connected again, while another one is, after half a frame; and one that is
connected once.  Both are then sent a name. -/
theorem produced_as_by_new_session_reconnected :
    let battery (id : String) : BatteryConfig :=
      { id, bleName := "", lowSocThreshold := none, topics := ["topic"], pollIntervalMs := 1000 }
    let frame : Bytes := [0xDD, 0x05, 0x00, 0x01, 0x42, 0xFF, 0xBD, 0x77]
    ∃ c c' : DeviceConnection, c.id = "a" ∧ c'.id = "a" ∧
      c.config.batteries = [battery "a", battery "b"] ∧ c'.config.batteries = [battery "a"] ∧
      c.accepted = [frame] ∧ c'.accepted = [frame] ∧ c.reported.length = 1 ∧
      c.produced = (c.fresh (.battery (battery "a"))).outputs [frame] ∧
      c'.produced.take 1 = c.produced.take 1 := by
  intro battery frame
  let connect (k : Nat) : List Turn := .call (.connect "a") :: List.replicate 4 (.access k)
  let handle (n : Nat) : List Turn := List.replicate 5 (.beside (.task n ⟨0, 0⟩))
  let overlap : List Turn :=
    [.call (.connect "a"), .call (.connect "b"), .access 1, .access 2, .access 1, .access 2,
      .access 1, .access 1, .access 1, .access 1, .access 2, .access 1, .access 2]
  let again : List Turn :=
    connect 0 ++ .beside (.offer 0 (frame.take 5)) :: (handle 0).take 2 ++ overlap
      ++ .beside (.offer 1 frame) :: handle 1
  let once : List Turn := connect 0 ++ .beside (.offer 0 frame) :: handle 0
  obtain ⟨c, hconfig, hid, haccepted, hproduced, hreported⟩ := exists_of_run
    { batteries := [battery "a", battery "b"] } 1 again 1 "a" (by decide +kernel)
  obtain ⟨c', hconfig', hid', haccepted', hproduced', -⟩ := exists_of_run
    { batteries := [battery "a"] } 8 once 0 "a" (by decide +kernel)
  have hchunks : c.accepted = [frame] := by
    rw [haccepted]
    decide +kernel
  have hchunks' : c'.accepted = [frame] := by
    rw [haccepted']
    decide +kernel
  have hcount : c.produced.length = 1 := by
    rw [hproduced]
    decide +kernel
  have hcount' : c'.produced.length = 1 := by
    rw [hproduced']
    decide +kernel
  have hreports : c.reported.length = 1 := by
    rw [hreported]
    decide +kernel
  obtain ⟨device, hdevice, houtputs, -, -, htwo⟩ := c.produced_as_by_new_session
  have hsame : device = .battery (battery "a") := by
    rw [hconfig, hid] at hdevice
    exact (Option.some.inj hdevice).symm
  subst hsame
  refine ⟨c, c', hid, hid', by rw [hconfig], by rw [hconfig'], hchunks, hchunks', hreports, ?_, ?_⟩
  · rw [hcount, hchunks] at houtputs
    exact houtputs
  · refine htwo c' (hid'.trans hid.symm) ?_ ?_ 1 (Nat.le_of_eq hcount.symm)
      (Nat.le_of_eq hcount'.symm) (by rw [hchunks, hchunks'])
    · rw [hconfig', hid]
      rfl
    · rw [hconfig, hconfig']
      rfl

end DeviceConnection

end SensorGateway
