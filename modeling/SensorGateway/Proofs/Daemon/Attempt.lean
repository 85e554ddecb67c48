import SensorGateway.Bluetooth.Scripted
import SensorGateway.Bus.Sinks
import SensorGateway.Daemon.Supervisor
import SensorGateway.Proofs.Bluetooth.Link

/-!
# What an attempt leaves behind

An attempt that ends has its session closed, whatever the radio did.  The connection is another
matter: it is given up when a link comes to its end, and there is no link yet when a device is
connected and its service or one of its characteristics cannot be found
(`Supervisor.given_up_iff_found`).
-/

namespace SensorGateway

open Bluetooth Station

variable {ρ σ : Type}

/-! ## Attempts -/

namespace Attempt

/-- The calls of an attempt that has a link to a device. -/
def Linked (device : Handle) (calls : List RadioCall) : Prop :=
  ∃ work, calls = Link.opening device ++ work ∧ Link.Working device work

/-- The calls of an attempt that has ended. -/
inductive Ended : List RadioCall → Prop
  /-- No device has been found. -/
  | unfound : Ended []
  /-- The device cannot be connected to. -/
  | refused (device : Handle) : Ended [.connect device false]
  /-- The device is connected, and something that has to be there is not. -/
  | lacking (device : Handle) (count : Nat) :
      Ended
        (.connect device true :: List.replicate count (.look device true) ++ [.look device false])
  /-- There has been a link, and it is given up. -/
  | closed {device : Handle} {calls : List RadioCall} (h : Linked device calls)
      (succeeded : Bool) : Ended (calls ++ [.disconnect device succeeded])

/-- The calls of an attempt so far. -/
def Made : Attempt → List RadioCall → Prop
  | working link _, calls => Linked link.device calls
  | finished _, calls => Ended calls

/-- A link stays one while it works. -/
theorem Linked.append {device : Handle} {calls later : List RadioCall} (h : Linked device calls)
    (hlater : Link.Working device later) : Linked device (calls ++ later) := by
  obtain ⟨work, rfl, hwork⟩ := h
  exact ⟨work ++ later, List.append_assoc _ _ _, List.forall_mem_append.mpr ⟨hwork, hlater⟩⟩

/-- There is one device in all calls. -/
theorem Linked.device_eq {d device : Handle} {calls : List RadioCall} (h : Linked d calls)
    {succeeded : Bool} (hmem : .connect device succeeded ∈ calls) : device = d := by
  obtain ⟨work, rfl, hwork⟩ := h
  rcases List.mem_append.mp hmem with hmem | hmem
  · simp only [Link.opening, List.mem_cons, RadioCall.connect.injEq, reduceCtorEq, List.not_mem_nil,
      or_false] at hmem
    exact hmem.1
  · exact hwork _ hmem

/-- Everything that was looked for has been found. -/
theorem Linked.found {d device : Handle} {calls : List RadioCall} (h : Linked d calls) :
    .look device false ∉ calls := by
  obtain ⟨work, rfl, hwork⟩ := h
  intro hmem
  rcases List.mem_append.mp hmem with hmem | hmem
  · simp [Link.opening] at hmem
  · exact hwork _ hmem

/-- In an attempt that has ended after a device was connected, the connection is given up if
everything was found that was looked for, and otherwise it is not. -/
theorem Ended.given_up {calls : List RadioCall} (h : Ended calls) {device : Handle}
    (hconnected : .connect device true ∈ calls) :
    ((∀ d, .look d false ∉ calls) →
        ∃ succeeded, calls.getLast? = some (.disconnect device succeeded)) ∧
      ((∃ d, .look d false ∈ calls) → ∀ d succeeded, .disconnect d succeeded ∉ calls) := by
  cases h with
  | unfound => cases hconnected
  | refused d => simp at hconnected
  | lacking d count =>
      refine ⟨fun hfound => ?_, fun _ d' succeeded hgiven => ?_⟩
      · exact absurd (by simp) (hfound d)
      · simp at hgiven
  | @closed d calls h succeeded =>
      have hin : .connect device true ∈ calls := by simpa using hconnected
      obtain rfl : device = d := h.device_eq hin
      refine ⟨fun _ => ⟨succeeded, List.getLast?_concat⟩, fun ⟨d', hmem⟩ => ?_⟩
      have hlook : .look d' false ∈ calls := by simpa using hmem
      exact absurd hlook h.found

/-- A link that has been established has made these calls. -/
theorem linked_opening (device : Handle) : Linked device (Link.opening device) :=
  ⟨[], (List.append_nil _).symm, Link.working_nil device⟩

/-- To log how an attempt has ended makes no calls. -/
theorem quiet_conclude (b : BatteryConfig) (result : Except AttemptError Unit) :
    Quiet (ρ := ρ) (σ := σ) (conclude b result) (conclude b result) := by
  have hdisconnect : Quiet (ρ := ρ) (σ := σ) (Station.onGateway (·.disconnect b.id))
      (Station.onGateway (·.disconnect b.id)) := quiet_onGateway fun _ h => h.disconnect b.id
  refine hdisconnect.bind_quiet fun _ => ?_
  cases result with
  | ok _ => exact .pure _ rfl
  | error e => exact quiet_log _

/-- What is done when a link has done something, and what is written down of it. -/
def Follows (link : Link) (task : Nat) : Link.Progress → Attempt → List RadioCall → Prop
  | .running l, a, calls => a = .working l task ∧ calls = []
  | .over _, a, calls => ∃ result succeeded,
      a = .finished result ∧ calls = [.disconnect link.device succeeded]

/-- What is done when it has been tried to establish a link, and what is written down of it. -/
def Begins : Except LinkError Link → Attempt → List RadioCall → Prop
  | .ok link, a, calls => ∀ before, Linked link.device before → a.Made (before ++ calls)
  | .error e, a, calls => a = .finished (.error (.link e)) ∧ calls = []

variable [Radio ρ]

/-- After some work of a link, the attempt goes on or has been given up. -/
theorem made_after {link : Link} (task : Nat) {act : StateM (Station ρ σ) Link.Progress}
    {recorded : StateM (Station (Recorded ρ) σ) Link.Progress}
    (h : Does act recorded (Link.Goes link.device)) :
    Does (act >>= after task link) (recorded >>= after task link)
      fun a added => ∀ calls, Linked link.device calls → a.Made (calls ++ added) := by
  refine h.bind (S := Follows link task) (fun p => ?_)
    fun p a added later hadded hlater calls hcalls => ?_
  · rcases p with l | result
    · exact .pure _ ⟨rfl, rfl⟩
    · refine link.does_stop.bind
        (S := fun _ a later => (∃ result, a = .finished result) ∧ later = [])
        (fun _ => .pure _ ⟨⟨_, rfl⟩, rfl⟩) fun r a added later hadded hlater => ?_
      obtain ⟨⟨result, rfl⟩, rfl⟩ := hlater
      exact ⟨result, r.toBool, rfl, by rw [hadded, List.append_nil]⟩
  · have hworked := hcalls.append hadded.working
    rw [← List.append_assoc]
    rcases p with l | result
    · obtain ⟨rfl, rfl⟩ := hlater
      rw [List.append_nil]
      have hdevice := hadded.device l rfl
      rw [← hdevice] at hworked
      exact hworked
    · obtain ⟨result, succeeded, rfl, rfl⟩ := hlater
      exact .closed hworked succeeded

/-- An attempt that is begun goes on, or has been given up if the device was found. -/
theorem made_start (b : BatteryConfig) :
    Does (ρ := ρ) (σ := σ) (start b) (start b) Made := by
  have hconnect : Quiet (ρ := ρ) (σ := σ) (Station.onGateway (·.connect b.id))
      (Station.onGateway (·.connect b.id)) := quiet_onGateway fun _ h => h.connect b.id
  refine hconnect.bind_quiet fun opened => ?_
  cases opened with
  | error e => exact .pure _ .unfound
  | ok task =>
      -- only where a link has come of it is there anything more to do
      refine (Link.does_establish b.bleName).bind (S := Begins) (fun r => ?_)
        fun r a added later hadded hlater => ?_
      · cases r with
        | error e => exact .pure _ ⟨rfl, rfl⟩
        | ok l => exact made_after task l.goes_start
      · cases hadded with
        | linked l => exact hlater _ (linked_opening l.device)
        | unfound e =>
            obtain ⟨rfl, rfl⟩ := hlater
            exact .unfound
        | refused e device =>
            obtain ⟨rfl, rfl⟩ := hlater
            exact .refused device
        | lacking e device count =>
            obtain ⟨rfl, rfl⟩ := hlater
            rw [List.append_nil]
            exact .lacking device count

variable [TopicSink σ]

/-- So does an attempt that reacts to something. -/
theorem made_react (link : Link) (task : Nat) (s : Link.Stimulus) :
    Does (ρ := ρ) (σ := σ) (react link task s) (react link task s)
      fun a added => ∀ calls, Linked link.device calls → a.Made (calls ++ added) :=
  made_after task (link.goes_react (quiet_deliver task) s)

end Attempt

/-! ## Supervisors -/

namespace Supervisor

/-- The calls that the attempt of a supervisor has made so far, or had made when it ended. -/
def Made (s : Supervisor) (calls : List RadioCall) : Prop :=
  match s.waiting with
  | .tick link _ => Attempt.Linked link.device calls
  | .pause | .search _ => Attempt.Ended calls

/-- What has become of a supervisor. -/
structure Becomes (s s' : Supervisor) (calls : List RadioCall) : Prop where
  battery : s'.battery = s.battery
  made : s'.Made calls

/-- A supervisor that goes on with an attempt goes on with the calls of it. -/
theorem does_resume (s : Supervisor) (now due : Nat) (a : Attempt) :
    Does (ρ := ρ) (σ := σ) (s.resume now due a) (s.resume now due a)
      fun s' added => added = [] ∧ ∀ calls, a.Made calls → s.Becomes s' calls := by
  cases a with
  | working link task => exact .pure _ ⟨rfl, fun calls hcalls => ⟨rfl, hcalls⟩⟩
  | finished result =>
      exact (Attempt.quiet_conclude s.battery result).bind_quiet fun _ =>
        .pure _ ⟨rfl, fun calls hcalls => ⟨rfl, hcalls⟩⟩

/-- An attempt that has ended is concluded before the pause, and this closes the session. -/
theorem unlisted_resume (s : Supervisor) (now due : Nat) (a : Attempt) (st : Station ρ σ)
    (hpause : ((s.resume now due a).run st).1.waiting = .pause) :
    ((s.resume now due a).run st).2.gateway.deviceTask? s.battery.id = none := by
  cases a with
  | working link task => cases hpause
  | finished result =>
      have hclosed := st.gateway.deviceTask?_disconnect s.battery.id s.battery.id
      rw [if_pos rfl] at hclosed
      cases result with
      | ok _ => exact hclosed
      | error e => exact hclosed

variable {b : BatteryConfig} {s : Supervisor} {st : Station (Recorded ρ) σ}

/-- What is so after each step of a supervisor. -/
structure Stands (b : BatteryConfig) (s : Supervisor) (st : Station (Recorded ρ) σ) : Prop where
  battery : s.battery = b
  made : s.Made st.radio.calls
  aligned : st.gateway.Aligned
  unlisted : s.waiting = .pause → st.gateway.deviceTask? b.id = none

/-- A supervisor stands after a step if it has become what the calls make of it, and its battery is
not listed when it pauses. -/
theorem Stands.next {s' : Supervisor} {st' st'' : Station (Recorded ρ) σ} {added : List RadioCall}
    (h : Stands b s st) (hsame : st'.radio.calls = st.radio.calls)
    (hadded : st''.radio.calls = st'.radio.calls ++ added)
    (hbecomes : ∀ calls, s.Made calls → s.Becomes s' (calls ++ added))
    (haligned : st''.gateway.Aligned)
    (hunlisted : s'.waiting = .pause → st''.gateway.deviceTask? s.battery.id = none) :
    Stands b s' st'' := by
  obtain ⟨hbattery, hmade⟩ := hbecomes _ h.made
  rw [← hsame, ← hadded] at hmade
  rw [h.battery] at hbattery hunlisted
  exact ⟨hbattery, hmade, haligned, hunlisted⟩

variable [Radio ρ] [TopicSink σ]

/-- A supervisor that has paused begins a new attempt. -/
theorem does_begin {s : Supervisor} (hpause : s.waiting = .pause) (now : Nat) :
    Does (ρ := ρ) (σ := σ) (s.serve now) (s.serve now) s.Becomes := by
  unfold serve
  rw [hpause]
  refine (Attempt.made_start s.battery).bind
    (S := fun a s' later => later = [] ∧ ∀ calls, a.Made calls → s.Becomes s' calls) (fun a => ?_)
    fun a s' added later hadded hlater => ?_
  · split
    · exact .pure _ ⟨rfl, fun calls hcalls => ⟨rfl, hcalls⟩⟩
    · exact s.does_resume now now a
  · rw [hlater.1, List.append_nil]
    exact hlater.2 added hadded

/-- The link reacts, and the supervisor goes on with what has become of the attempt. -/
theorem does_react {s : Supervisor} {link : Link} {task : Nat}
    (hwaiting : s.waiting = .tick link task) (now due : Nat) (stimulus : Link.Stimulus) :
    Does (ρ := ρ) (σ := σ) (Attempt.react link task stimulus >>= s.resume now due)
      (Attempt.react link task stimulus >>= s.resume now due)
      fun s' added => ∀ calls, s.Made calls → s.Becomes s' (calls ++ added) := by
  refine (Attempt.made_react link task stimulus).bind (fun a => s.does_resume now due a)
    fun a s' added later hadded hlater calls hcalls => ?_
  rw [hlater.1, List.append_nil]
  rw [Made, hwaiting] at hcalls
  exact hlater.2 _ (hadded calls hcalls)

/-- A supervisor that is not pausing goes on with its attempt. -/
theorem does_serve {s : Supervisor} (hwaits : s.waiting ≠ .pause) (now : Nat) :
    Does (ρ := ρ) (σ := σ) (s.serve now) (s.serve now)
      fun s' added => ∀ calls, s.Made calls → s.Becomes s' (calls ++ added) := by
  unfold serve
  cases hwaiting : s.waiting with
  | pause => exact absurd hwaiting hwaits
  | search error =>
      refine (s.does_resume now now _).mono fun s' added hadded calls hcalls => ?_
      rw [hadded.1, List.append_nil]
      rw [Made, hwaiting] at hcalls
      exact hadded.2 calls hcalls
  | tick link task => exact does_react hwaiting now _ .tick

/-- So does one that has heard from its battery. -/
theorem does_hear (s : Supervisor) (now : Nat) :
    Does (ρ := ρ) (σ := σ) (s.hear now) (s.hear now)
      fun heard added => ∀ s' ∈ heard, ∀ calls, s.Made calls → s.Becomes s' (calls ++ added) := by
  have hnothing : ∀ s' ∈ (none : Option Supervisor), ∀ calls,
      s.Made calls → s.Becomes s' (calls ++ []) := by
    intro s' hs'
    cases hs'
  unfold hear
  cases hwaiting : s.waiting with
  | pause | search => exact .pure _ hnothing
  | tick link task =>
      have hnotice : Quiet (ρ := ρ) (σ := σ) (Radio.notice link.device)
          (Radio.notice link.device) := quiet_within _
      refine hnotice.bind_quiet fun notice => ?_
      cases notice with
      | none => exact .pure _ hnothing
      | some notice =>
          refine (does_react hwaiting now s.due (.notice notice)).bind
            (S := fun s' heard later => heard = some s' ∧ later = []) (fun _ => .pure _ ⟨rfl, rfl⟩)
            fun s' heard added later hadded hlater => ?_
          obtain ⟨rfl, rfl⟩ := hlater
          intro s'' hs''
          cases hs''
          rw [List.append_nil]
          exact hadded

/-- A supervisor that is served and then pauses has left its battery unlisted. -/
theorem unlisted_serve (s : Supervisor) (now : Nat) (st : Station ρ σ)
    (hpause : ((s.serve now).run st).1.waiting = .pause) :
    ((s.serve now).run st).2.gateway.deviceTask? s.battery.id = none := by
  unfold serve at hpause ⊢
  cases hwaiting : s.waiting with
  | pause =>
      rw [hwaiting] at hpause
      revert hpause
      dsimp only
      rw [Station.run_bind]
      split
      · intro hpause
        cases hpause
      · exact s.unlisted_resume now now _ _
  | search error =>
      rw [hwaiting] at hpause
      exact s.unlisted_resume now now _ st hpause
  | tick link task =>
      rw [hwaiting] at hpause
      exact s.unlisted_resume now _ _ _ hpause

/-- So has one that has heard from its battery and then pauses. -/
theorem unlisted_hear {s s' : Supervisor} {now : Nat} {st : Station ρ σ}
    (hheard : ((s.hear now).run st).1 = some s') (hpause : s'.waiting = .pause) :
    ((s.hear now).run st).2.gateway.deviceTask? s.battery.id = none := by
  unfold hear at hheard ⊢
  cases hwaiting : s.waiting with
  | pause | search =>
      rw [hwaiting] at hheard
      cases hheard
  | tick link task =>
      rw [hwaiting] at hheard
      revert hheard
      dsimp only
      rw [Station.run_bind]
      split
      · intro hheard
        cases hheard
      · intro hheard
        cases hheard
        exact s.unlisted_resume now s.due _ _ hpause

/-! ## From one pause to the next -/

/-- A supervisor of a battery in the course of one attempt, and the station after what it has done
last.  It begins after a pause, with nothing on the record.  Before it goes on, anything may have
happened at the station and to the radio in between; only the record is that of this supervisor, and
the gateway stands as it does between two calls. -/
inductive Trying (b : BatteryConfig) : Supervisor → Station (Recorded ρ) σ → Prop
  | begun {s : Supervisor} (st : Station (Recorded ρ) σ) (hbattery : s.battery = b)
      (hpause : s.waiting = .pause) (haligned : st.gateway.Aligned) (hcalls : st.radio.calls = [])
      (now : Nat) : Trying b ((s.serve now).run st).1 ((s.serve now).run st).2
  | served {s : Supervisor} {st : Station (Recorded ρ) σ} (h : Trying b s st)
      (hwaits : s.waiting ≠ .pause) (st' : Station (Recorded ρ) σ) (haligned : st'.gateway.Aligned)
      (hcalls : st'.radio.calls = st.radio.calls) (now : Nat) :
      Trying b ((s.serve now).run st').1 ((s.serve now).run st').2
  | heard {s s' : Supervisor} {st : Station (Recorded ρ) σ} (h : Trying b s st)
      (st' : Station (Recorded ρ) σ) (haligned : st'.gateway.Aligned)
      (hcalls : st'.radio.calls = st.radio.calls) (now : Nat)
      (hheard : ((s.hear now).run st').1 = some s') : Trying b s' ((s.hear now).run st').2

/-- However a supervisor has come so far, it stands. -/
theorem Trying.stands (h : Trying b s st) : Stands b s st := by
  -- what was done before counts only by its calls, which nobody else has added to
  induction h with
  | begun st hbattery hpause haligned hcalls now =>
      have hdoes := does_begin (ρ := ρ) (σ := σ) hpause now
      obtain ⟨added, hadded, hbecomes⟩ := hdoes.calls _
      rw [hcalls, List.nil_append] at hadded
      refine ⟨hbecomes.battery.trans hbattery, hadded ▸ hbecomes.made, hdoes.aligned _ haligned, ?_⟩
      rw [← hbattery]
      exact unlisted_serve _ now _
  | served h hwaits st' haligned hcalls now ih =>
      have hdoes := does_serve (ρ := ρ) (σ := σ) hwaits now
      obtain ⟨added, hadded, hbecomes⟩ := hdoes.calls _
      exact ih.next hcalls hadded hbecomes (hdoes.aligned _ haligned) (unlisted_serve _ now _)
  | @heard s _ _ h st' haligned hcalls now hheard ih =>
      have hdoes := does_hear (ρ := ρ) (σ := σ) s now
      obtain ⟨added, hadded, hbecomes⟩ := hdoes.calls _
      exact ih.next hcalls hadded (hbecomes _ hheard) (hdoes.aligned _ haligned)
        (unlisted_hear hheard)

/-- A station does what it would do without a record. -/
theorem plain_serve (s : Supervisor) (now : Nat) (st : Station (Recorded ρ) σ) :
    (s.serve now).run st.plain = (((s.serve now).run st).1, ((s.serve now).run st).2.plain) := by
  cases hwaiting : s.waiting with
  | pause => exact (does_begin hwaiting now).same st
  | search | tick => exact (does_serve (by simp [hwaiting]) now).same st

/-- Without the record a supervisor that hears from its battery does the same. -/
theorem plain_hear (s : Supervisor) (now : Nat) (st : Station (Recorded ρ) σ) :
    (s.hear now).run st.plain = (((s.hear now).run st).1, ((s.hear now).run st).2.plain) :=
  (s.does_hear now).same st

/-- When a supervisor comes to its pause, whatever the radio has done, the battery has no session any
more.  A connection that was made is given up at last if the service and the characteristics were
found.  If one of them was not, nobody gives the connection up. -/
theorem given_up_iff_found (h : Trying b s st) (hpause : s.waiting = .pause) :
    (st.gateway.deviceTask? b.id = none ∧ ∀ n, ¬ st.gateway.LiveFor n b.id) ∧
      ∀ device, .connect device true ∈ st.radio.calls →
        ((∀ d, .look d false ∉ st.radio.calls) →
            ∃ succeeded, st.radio.calls.getLast? = some (.disconnect device succeeded)) ∧
          ((∃ d, .look d false ∈ st.radio.calls) →
            ∀ d succeeded, .disconnect d succeeded ∉ st.radio.calls) := by
  obtain ⟨-, hmade, haligned, hunlisted⟩ := h.stands
  have hnone := hunlisted hpause
  rw [Made, hpause] at hmade
  refine ⟨⟨hnone, fun n hlive => ?_⟩, fun device hconnected => hmade.given_up hconnected⟩
  rw [haligned.listed_iff.mpr hlive] at hnone
  cases hnone

/-- A battery whose second request cannot be written. -/
theorem given_up_iff_found_of_failed_write :
    let b : BatteryConfig :=
      { id := "b1", bleName := "one", lowSocThreshold := none, topics := [], pollIntervalMs := 1000 }
    let device : ScriptedDevice :=
      { address := "AA:BB:CC:00:00:01"
        name := "one"
        advertises := [uartService]
        services := [(uartService, [uartWrite, uartNotify])]
        fails := [(.write, [2])] }
    let st : Station (Recorded ScriptedRadio) RecordingSink :=
      { radio := { radio := { devices := [device] } }
        gateway := .new { batteries := [b] } (.new 1 true)
        sink := {}
        time := ⟨0, 0⟩ }
    let begun := (serve { battery := b } 0).run st
    let ended := (begun.1.serve 1).run begun.2
    begun.2.gateway.deviceTask? "b1" = some 0 ∧ ended.1.waiting = .pause ∧
      ended.2.gateway.deviceTask? "b1" = none ∧ .connect 0 true ∈ ended.2.radio.calls ∧
      (∀ d, .look d false ∉ ended.2.radio.calls) ∧
      ∃ succeeded, ended.2.radio.calls.getLast? = some (.disconnect 0 succeeded) := by
  intro b device st begun ended
  have hbegun : Trying b begun.1 begun.2 :=
    .begun (s := { battery := b }) st rfl rfl (Gateway.aligned_new _ _ _) rfl 0
  have hwaits : begun.1.waiting ≠ .pause := by
    have hticks : begun.1.waiting
        = .tick { device := 0, name := "one", writeTo := 0, notifyFrom := 1 } 0 := by rfl
    rw [hticks]
    exact Waiting.noConfusion
  have hended : Trying b ended.1 ended.2 :=
    .served hbegun hwaits begun.2 hbegun.stands.aligned rfl 1
  have hpause : ended.1.waiting = .pause := by rfl
  have hcalls : ended.2.radio.calls = Link.opening 0 ++
      [.subscribe 0 true, .check 0 true, .write 0 Wire.Command.readDeviceName.toBytes true,
        .check 0 true, .write 0 Wire.Command.readHardwareInfo.toBytes false,
        .disconnect 0 true] := by
    decide +kernel
  have hconnected : .connect 0 true ∈ ended.2.radio.calls := by simp [hcalls, Link.opening]
  have hfound (d : Handle) : .look d false ∉ ended.2.radio.calls := by simp [hcalls, Link.opening]
  obtain ⟨⟨hnone, -⟩, hgiven⟩ := given_up_iff_found hended hpause
  exact ⟨rfl, hpause, hnone, hconnected, hfound, (hgiven 0 hconnected).1 hfound⟩

/-- A battery without the service stays connected, and advertises no more while it is. -/
theorem not_given_up_without_service :
    let b : BatteryConfig :=
      { id := "b1", bleName := "one", lowSocThreshold := none, topics := [], pollIntervalMs := 1000 }
    let device : ScriptedDevice :=
      { address := "AA:BB:CC:00:00:01", name := "one", advertises := [uartService] }
    let st : Station (Recorded ScriptedRadio) RecordingSink :=
      { radio := { radio := { devices := [device] } }
        gateway := .new { batteries := [b] } (.new 1 true)
        sink := {}
        time := ⟨0, 0⟩ }
    let ended := (serve { battery := b } 0).run st
    Trying b ended.1 ended.2 ∧ ended.1.waiting = .pause ∧
      ended.2.radio.calls = [.connect 0 true, .look 0 false] ∧
      (∀ d succeeded, .disconnect d succeeded ∉ ended.2.radio.calls) ∧
      ended.2.radio.radio.sightings [uartService] = [] := by
  intro b device st ended
  have hended : Trying b ended.1 ended.2 :=
    .begun (s := { battery := b }) st rfl rfl (Gateway.aligned_new _ _ _) rfl 0
  have hcalls : ended.2.radio.calls = [.connect 0 true, .look 0 false] := by decide +kernel
  exact ⟨hended, rfl, hcalls, by simp [hcalls], by decide +kernel⟩

end Supervisor

end SensorGateway
