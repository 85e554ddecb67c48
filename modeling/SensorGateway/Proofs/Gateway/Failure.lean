import SensorGateway.Bus.Sinks
import SensorGateway.Proofs.Config.WellFormed
import SensorGateway.Proofs.Gateway.Settling

/-!
# Operations that fail change nothing

An operation of a gateway can fail: the device is not in the configuration, or it is not connected,
or there is nobody to take an advertisement.  Then the gateway is what it was, with all its tasks,
their queues, the bindings and what is known of the devices.  For an advertisement this needs an
argument.  Its session is started before anything is put into its queue, so that the failure could
come too late; but a queue that has just been made has room.  And a session that is listed has not
ended, so that a full queue is the only reason to refuse an advertisement of a known tank
(`Gateway.Serves.routeAdvertisement_cases`).

A chunk that is sent waits for room, and meanwhile anything can happen.  If then its task is over,
somebody has stopped it since the sender has found it on the list (`Crowd.stopsIn_of_closed`): a
task that is live stays so until a call silences it, and a live task does not end.
-/

namespace SensorGateway

/-- The tank that an address belongs to is in the configuration. -/
theorem Config.exists_device_of_tankBySuffix {c : Config} {suffix : String} {t : TankConfig}
    (hfound : c.tankBySuffix? suffix = some t) : ∃ device, c.device? t.id = some device := by
  obtain ⟨m, -, hfound⟩ := Option.bind_eq_some_iff.mp hfound
  have hmem : t ∈ c.tanks := List.mem_of_find?_eq_some hfound
  rw [← Option.ne_none_iff_exists']
  intro hnone
  apply device?_eq_none_iff.mp hnone
  exact List.mem_append_right _ (List.mem_map_of_mem hmem)

namespace Gateway

variable {g : Gateway} {config : Config}

/-! ## Advertisements -/

/-- There is no tank with this address, or the queue of its task is full. -/
def NoTaker (g : Gateway) (suffix : String) : Prop :=
  g.config.tankBySuffix? suffix = none ∨
    ∃ tank n t, g.config.tankBySuffix? suffix = some tank ∧ g.deviceTask? tank.id = some n ∧
      g.task? n = some t ∧ t.isFull = true

/-- A chunk is put at the end of the queue of a device's task, and that is all; or the device had no
task, and one has been started for it that has the chunk in its queue. -/
inductive Appends (g : Gateway) (id : String) (chunk : Bytes) (g' : Gateway) : Prop
  | queued {n : Nat} {before : Task}
      (listed : g.deviceTask? id = some n)
      (task : g.task? n = some before)
      (room : before.isFull = false)
      (appended : g'.task? n = some (before.enqueue chunk))
      (others : ∀ m ≠ n, g'.task? m = g.task? m)
      (devices : g'.devices = g.devices)
      (publisher : g'.publisher = g.publisher)
  | started {device : DeviceConfig}
      (unlisted : g.deviceTask? id = none)
      (configured : g.config.device? id = some device)
      (appended :
        g'.task? g.tasks.length = some ((Task.new (g.newSession device)).enqueue chunk))
      (others : ∀ m ≠ g.tasks.length, g'.task? m = g.task? m)
      (devices : ∀ other, g'.deviceTask? other =
        if other = id then some g.tasks.length else g.deviceTask? other)
      (publisher : g'.publisher = (g.bind id device.topics).publisher)

/-- Nothing is appended as long as nothing changes. -/
theorem not_appends_self (g : Gateway) (id : String) (chunk : Bytes) : ¬ g.Appends id chunk g := by
  intro h
  cases h with
  | queued _ task _ appended =>
      have hsame := congrArg List.length (congrArg Task.chunks (Option.some.inj (task.symm.trans
        appended)))
      rw [Task.enqueue, List.length_append, List.length_singleton] at hsame
      omega
  | started _ _ appended =>
      rw [task?, List.getElem?_eq_none (Nat.le_refl _)] at appended
      cases appended

/-- A chunk that is pushed to a task with room is appended to its queue. -/
theorem appends_push {id : String} {n : Nat} {before : Task} (hn : g.deviceTask? id = some n)
    (ht : g.task? n = some before) (hphase : before.phase ≠ .ended) (hroom : before.isFull = false)
    (chunk : Bytes) : g.Appends id chunk (g.push n chunk).2 := by
  obtain ⟨-, hqueued, hothers⟩ := push_of_not_ended ht hphase chunk
  rw [Task.offered, hroom] at hqueued
  have hagrees := g.agrees_push n chunk
  refine .queued hn ht hroom hqueued hothers hagrees.devices ?_
  rcases g.push_eq n chunk with heq | heq
  · rw [heq]
  · rw [heq]
    rfl

/-- The queue of a task that has just been started has room. -/
theorem appends_install {id : String} {device : DeviceConfig} (hid : g.deviceTask? id = none)
    (hdevice : g.config.device? id = some device) (chunk : Bytes) :
    (((g.install id device).push g.tasks.length chunk).1 == .queued) = true ∧
      g.Appends id chunk ((g.install id device).push g.tasks.length chunk).2 := by
  have htask : (g.install id device).task? g.tasks.length
      = some (.new (g.newSession device)) := by
    rw [task?_install, if_pos rfl]
  obtain ⟨htaken, hqueued, hothers⟩ := push_of_not_ended htask Phase.noConfusion chunk
  have hagrees := (g.install id device).agrees_push g.tasks.length chunk
  refine ⟨htaken, .started hid hdevice hqueued ?_ ?_ ?_⟩
  · intro m hm
    rw [hothers m hm, task?_install, if_neg hm]
  · intro other
    rw [hagrees.deviceTask?, deviceTask?_install]
  · rcases (g.install id device).push_eq g.tasks.length chunk with heq | heq
    · rw [heq]
      rfl
    · rw [heq]
      rfl

/-- An advertisement is refused and nothing changes, or it is appended to the queue of its tank. -/
theorem Serves.routeAdvertisement_cases (s : g.Serves config) (suffix : String) (payload : Bytes) :
    (g.NoTaker suffix ∧
        g.routeAdvertisement suffix payload = { value := false, gateway := g, logs := [] }) ∨
      ∃ tank, g.config.tankBySuffix? suffix = some tank ∧
        (g.routeAdvertisement suffix payload).value = true ∧
        g.Appends tank.id payload (g.routeAdvertisement suffix payload).gateway := by
  cases hfound : g.config.tankBySuffix? suffix with
  | none =>
      refine Or.inl ⟨Or.inl hfound, ?_⟩
      simp only [routeAdvertisement, hfound]
  | some tank =>
      cases hn : g.deviceTask? tank.id with
      | none =>
          obtain ⟨device, hdevice⟩ := Config.exists_device_of_tankBySuffix hfound
          obtain ⟨htaken, happends⟩ := appends_install hn hdevice payload
          rw [routeAdvertisement_of_unlisted hfound hdevice hn]
          exact Or.inr ⟨tank, rfl, htaken, happends⟩
      | some n =>
          obtain ⟨before, hbefore, -, -, hphase⟩ := s.exists_task hn
          rw [routeAdvertisement_of_listed hfound hn]
          cases hfull : before.isFull with
          | true =>
              refine Or.inl ⟨Or.inr ⟨tank, n, before, hfound, hn, hbefore, hfull⟩, ?_⟩
              rw [push_of_not_ended_eq hbefore hphase, if_pos hfull]
              rfl
          | false =>
              obtain ⟨htaken, -⟩ := push_of_not_ended hbefore hphase payload
              rw [hfull] at htaken
              exact Or.inr ⟨tank, rfl, htaken, appends_push hn hbefore hphase hfull payload⟩

/-- If a chunk has been appended for a tank, there was somebody to take it. -/
theorem Appends.not_noTaker {tank : TankConfig} {suffix : String} {chunk : Bytes} {g' : Gateway}
    (h : g.Appends tank.id chunk g') (hfound : g.config.tankBySuffix? suffix = some tank) :
    ¬ g.NoTaker suffix := by
  rintro (hnone | ⟨tank', n, t, hfound', hn, ht, hfull⟩)
  · rw [hnone] at hfound
    cases hfound
  · cases hfound.symm.trans hfound'
    cases h with
    | queued listed task room =>
        cases listed.symm.trans hn
        cases task.symm.trans ht
        rw [room] at hfull
        cases hfull
    | started unlisted =>
        rw [unlisted] at hn
        cases hn

/-- An advertisement is refused, and then nothing changes, exactly if there is nobody to take it; it
is accepted exactly if it has been appended. -/
theorem Serves.routeAdvertisement_value_iff (s : g.Serves config) (suffix : String)
    (payload : Bytes) :
    let o := g.routeAdvertisement suffix payload
    (o.value = false → o.gateway = g ∧ o.logs = []) ∧
      (o.value = false ↔ g.NoTaker suffix) ∧
      (o.value = true ↔ ∃ tank, g.config.tankBySuffix? suffix = some tank ∧
        g.Appends tank.id payload o.gateway) := by
  intro o
  rcases s.routeAdvertisement_cases suffix payload with
    ⟨hnone, hrefused⟩ | ⟨tank, hfound, htaken, happends⟩
  · have hrefused : o = { value := false, gateway := g, logs := [] } := hrefused
    rw [hrefused]
    refine ⟨fun _ => ⟨rfl, rfl⟩, ⟨fun _ => hnone, fun _ => rfl⟩, ⟨Bool.noConfusion, ?_⟩⟩
    rintro ⟨tank, -, happends⟩
    exact absurd happends (g.not_appends_self tank.id payload)
  · have htaken : o.value = true := htaken
    rw [htaken]
    refine ⟨Bool.noConfusion, ⟨Bool.noConfusion, fun hnone => ?_⟩,
      ⟨fun _ => ⟨tank, hfound, happends⟩, fun _ => rfl⟩⟩
    exact absurd hnone (happends.not_noTaker hfound)

/-! ## Tasks that are live -/

/-- A live task stays so in every access but the one that silences it. -/
theorem LiveFor.change {n : Nat} {id : String} (h : g.LiveFor n id) {x : Access}
    (hsilence : x ≠ .silence n) : (x.change g).LiveFor n id := by
  rw [liveFor_iff] at h ⊢
  by_cases hother : ∃ m, x = .silence m
  · obtain ⟨m, rfl⟩ := hother
    have hne : m ≠ n := fun heq => hsilence (heq ▸ rfl)
    exact (g.badge?_silence m n).trans ((if_neg hne).trans h)
  · by_cases hstarted : ∃ id device chunk, x = .start id device chunk
    · obtain ⟨other, device, chunk, rfl⟩ := hstarted
      have hold : n ≠ g.tasks.length := by
        rintro rfl
        rw [badge?_eq_none (Nat.le_refl _)] at h
        cases h
      exact (g.badge?_start (g.newSession device) n).trans ((if_neg hold).trans h)
    · simp only [not_exists] at hother hstarted
      rw [Access.badge?_change hother hstarted, h]

/-- What is pushed to a task that is over is lost, and that is all. -/
theorem push_of_closed {n : Nat} {chunk : Bytes} (h : (g.push n chunk).1 = .closed) :
    (g.push n chunk).2 = g := by
  rcases g.push_cases n chunk with ⟨-, hunchanged⟩ | hqueued
  · exact hunchanged
  · rw [hqueued] at h
    cases h

/-- A task that goes on does not turn a chunk away for being over. -/
theorem Going.push_ne_closed (going : g.Going) {n : Nat} {id : String} (hlive : g.LiveFor n id)
    (chunk : Bytes) : (g.push n chunk).1 ≠ .closed := by
  obtain ⟨t, ht, hlive, -⟩ := hlive
  rw [push_of_not_ended_eq ht (going n t ht hlive).2]
  split
  · exact nofun
  · exact nofun

end Gateway

namespace Crowd

variable {c c' : Crowd} {turn : Turn} {turns : List Turn} {k n : Nat} {id : String}

/-! ## A call that waits -/

/-- One of the turns is the access of a call that silences the task. -/
def StopsIn (c : Crowd) (turns : List Turn) (n : Nat) : Prop :=
  ∃ early j late c₁ rest, turns = early ++ .access j :: late ∧ c.run? early = some c₁ ∧
    c₁.calls[j]? = some (.silence n :: rest)

/-- A task that is stopped in later turns is stopped in the run. -/
theorem StopsIn.cons (hstep : c.step? turn = some c') (h : c'.StopsIn turns n) :
    c.StopsIn (turn :: turns) n := by
  obtain ⟨early, j, late, c₁, rest, rfl, hearly, hcall⟩ := h
  refine ⟨turn :: early, j, late, c₁, rest, rfl, ?_, hcall⟩
  rw [run?, hstep]
  exact hearly

/-- A live task is live after a turn, unless a call silences it. -/
theorem liveFor_step (hlive : c.gateway.LiveFor n id) (hstep : c.step? turn = some c') :
    c'.gateway.LiveFor n id ∨
      ∃ j rest, turn = .access j ∧ c.calls[j]? = some (.silence n :: rest) := by
  rcases step_cases hstep with
    ⟨call, -, rfl⟩ | ⟨j, x, rest, rfl, hj, -, rfl⟩ | ⟨move, -, hagrees, -⟩
  · exact Or.inl hlive
  · by_cases hx : x = .silence n
    · subst hx
      exact Or.inr ⟨j, rest, rfl, hj⟩
    · exact Or.inl (hlive.change hx)
  · exact Or.inl (hagrees.liveFor_iff.mpr hlive)

/-- A live task stays so in a run in which nobody stops it. -/
theorem liveFor_run (hlive : c.gateway.LiveFor n id) (hrun : c.run? turns = some c') :
    c'.gateway.LiveFor n id ∨ c.StopsIn turns n := by
  induction turns generalizing c with
  | nil =>
      cases hrun
      exact Or.inl hlive
  | cons turn turns ih =>
      obtain ⟨c₁, hstep, hrun⟩ := Option.bind_eq_some_iff.mp hrun
      rcases liveFor_step hlive hstep with hlive | ⟨j, rest, rfl, hj⟩
      · exact (ih hlive hrun).imp_right (StopsIn.cons hstep)
      · exact Or.inr ⟨[], j, turns, c, rest, rfl, rfl, hj⟩

/-- A call keeps what it has to do as long as it is not its turn. -/
theorem calls_step_of_ne {pending : List Access} (hk : c.calls[k]? = some pending)
    (hstep : c.step? turn = some c') (hother : turn ≠ .access k) :
    c'.calls[k]? = some pending := by
  rcases step_cases hstep with
    ⟨call, -, rfl⟩ | ⟨j, x, rest, rfl, hj, -, rfl⟩ | ⟨move, -, -, hcalls⟩
  · obtain ⟨hlt, -⟩ := List.getElem?_eq_some_iff.mp hk
    exact (List.getElem?_append_left hlt).trans hk
  · have hne : j ≠ k := fun heq => hother (heq ▸ rfl)
    exact (List.getElem?_set_ne hne).trans hk
  · rw [hcalls]
    exact hk

/-- A call that has no turn in a run has still to do what it had to. -/
theorem calls_run_of_not_mem {pending : List Access} (hk : c.calls[k]? = some pending)
    (hrun : c.run? turns = some c') (hother : .access k ∉ turns) :
    c'.calls[k]? = some pending :=
  run?_preserves (P := fun c => c.calls[k]? = some pending)
    (fun hmem hk hstep => calls_step_of_ne hk hstep fun heq => hother (heq ▸ hmem)) hk hrun

/-- A call that has looked for the task of a device is going to send it the chunk. -/
theorem step_find {chunk : Bytes} {rest : List Access}
    (hfind : c.calls[k]? = some (.find id chunk :: rest)) (hn : c.gateway.deviceTask? id = some n)
    (hstep : c.step? (.access k) = some c') :
    c'.gateway = c.gateway ∧ c'.calls[k]? = some (.send n chunk :: rest) := by
  rcases step_cases hstep with ⟨call, hturn, -⟩ | ⟨j, x, rest', hturn, hj, -, rfl⟩ | ⟨_, hturn, -⟩
  · cases hturn
  · cases hturn
    cases hj.symm.trans hfind
    obtain ⟨hlt, -⟩ := List.getElem?_eq_some_iff.mp hj
    refine ⟨rfl, ?_⟩
    rw [List.getElem?_set_self hlt, Access.next, hn]
    rfl
  · cases hturn

variable {config : Config} {capacity : Nat} {suppressRepeats : Bool}

/-- If the task of a device that was listed is over later on, a call has silenced it. -/
theorem stopsIn_of_closed {before : List Turn}
    (hrun : (start config capacity suppressRepeats).run? before = some c)
    (hn : c.gateway.deviceTask? id = some n) (hlater : c.run? turns = some c') {chunk : Bytes}
    (hclosed : (c'.gateway.push n chunk).1 = .closed) : c.StopsIn turns n := by
  have hwhole : (start config capacity suppressRepeats).run? (before ++ turns) = some c' := by
    rw [run?_append, hrun]
    exact hlater
  have hserves := Gateway.serves_crowd hrun
  rcases liveFor_run (hserves.listed hn) hlater with hlive | hstops
  · exact absurd hclosed ((going_run hwhole).push_ne_closed hlive chunk)
  · exact hstops

/-- A call that has found the task of a device goes on to send it the chunk, whatever happens until
it is its turn.  If the task is over then, a call has silenced it meanwhile. -/
theorem sends_after_find {before between : List Turn} {c₁ : Crowd} {chunk : Bytes}
    {rest : List Access} (hrun : (start config capacity suppressRepeats).run? before = some c)
    (hfind : c.calls[k]? = some (.find id chunk :: rest)) (hn : c.gateway.deviceTask? id = some n)
    (hstep : c.step? (.access k) = some c₁) (hbetween : c₁.run? between = some c')
    (hwaits : .access k ∉ between) :
    c'.calls[k]? = some (.send n chunk :: rest) ∧
      ((c'.gateway.push n chunk).1 = .closed → c₁.StopsIn between n) := by
  obtain ⟨hsame, hsend⟩ := step_find hfind hn hstep
  have hfound : (start config capacity suppressRepeats).run? (before ++ [.access k])
      = some c₁ := by
    rw [run?_append, hrun, Option.bind_some, run?, hstep]
    rfl
  have hstill : c₁.gateway.deviceTask? id = some n := by
    rw [hsame]
    exact hn
  exact ⟨calls_run_of_not_mem hsend hbetween hwaits, stopsIn_of_closed hfound hstill hbetween⟩

/-- **Operations that fail change nothing.**  Whatever a gateway has been through, to connect a
device that is not in the configuration, and to disconnect one, or send it a chunk, that is not
connected leave the gateway as it is; to a device that is connected a chunk is sent successfully if
nothing else is called meanwhile.  An advertisement is refused exactly if there is no tank for it or
the queue of its task is full, and then the gateway stays as it is; it is accepted exactly if the
payload has been appended to the queue of the tank, and only then a task may have been started.  If
a call that sends a chunk has found the task of a device, and finds it over when its turn comes to
send, another call has silenced the task while it waited. -/
theorem failures_change_nothing {turns : List Turn}
    (hrun : (start config capacity suppressRepeats).run? turns = some c) :
    let g := c.gateway
    (∀ id, g.config.device? id = none →
      g.connect id = { value := .error (.unknownDevice id), gateway := g, logs := [] }) ∧
    (∀ id, g.deviceTask? id = none →
      g.disconnect id = { value := false, gateway := g, logs := [] }) ∧
    (∀ {σ : Type} [TopicSink σ] (sink : σ) id chunk now,
      (g.deviceTask? id = none →
        g.sendChunk sink id chunk now =
          { value := .error (.unknownDevice id)
            settled := { gateway := g, sink, logs := [] } }) ∧
      ∀ n, g.deviceTask? id = some n → (g.sendChunk sink id chunk now).value = .ok ()) ∧
    (∀ suffix payload,
      let o := g.routeAdvertisement suffix payload
      (o.value = false → o.gateway = g ∧ o.logs = []) ∧
      (o.value = false ↔ g.NoTaker suffix) ∧
      (o.value = true ↔ ∃ tank, g.config.tankBySuffix? suffix = some tank ∧
        g.Appends tank.id payload o.gateway)) ∧
    ∀ {k id chunk n rest between c₁ c'}, c.calls[k]? = some (.find id chunk :: rest) →
      g.deviceTask? id = some n → c.step? (.access k) = some c₁ → c₁.run? between = some c' →
      .access k ∉ between →
        c'.calls[k]? = some (.send n chunk :: rest) ∧
        ((c'.gateway.push n chunk).1 = .closed →
          (c'.gateway.push n chunk).2 = c'.gateway ∧ c₁.StopsIn between n) := by
  intro g
  have hserves : g.Serves config := Gateway.serves_crowd hrun
  have hwakeful : g.Wakeful := wakeful_run (Gateway.wakeful_new config _) hrun
  refine ⟨?_, ?_, ?_, ?_, ?_⟩
  · intro id hunknown
    simp only [Gateway.connect, hunknown]
  · intro id hunlisted
    simp only [Gateway.disconnect, hunlisted]
  · intro σ _ sink id chunk now
    constructor
    · intro hunlisted
      simp only [Gateway.sendChunk, hunlisted]
    · intro n hn
      exact hserves.sendChunk_of_listed hwakeful hn sink chunk now
  · intro suffix payload
    exact hserves.routeAdvertisement_value_iff suffix payload
  · intro k id chunk n rest between c₁ c' hfind hn hstep hbetween hwaits
    obtain ⟨hsend, hstops⟩ := sends_after_find hrun hfind hn hstep hbetween hwaits
    exact ⟨hsend, fun hclosed => ⟨Gateway.push_of_closed hclosed, hstops hclosed⟩⟩

/-- A battery is connected and a tank is not, and a call is about to send the battery a chunk.  What
fails then changes nothing.  The call finds the task of the battery; the battery is disconnected and
its task ends before it is the turn of the call again. -/
theorem failures_change_nothing_stopped_while_sending :
    let config : Config :=
      { batteries := [{ id := "a", bleName := "", lowSocThreshold := none, topics := ["topic"]
                        pollIntervalMs := 1000 }]
        tanks := [{ id := "t", macSuffix := "0F:37:A5", medium := none, heightOffsetIn := 0
                    topics := [] }] }
    let connected : List Turn := .call (.connect "a") :: List.replicate 4 (.access 0)
    let between : List Turn :=
      .call (.disconnect "a") :: List.replicate 4 (.access 2) ++ [.beside (.task 0 ⟨1, 0⟩)]
    ∃ c c₁ c', (start config 1 true).run? (connected ++ [.call (.sendChunk "a" [1])]) = some c ∧
      (c.gateway.connect "b").gateway = c.gateway ∧
      (c.gateway.disconnect "t").gateway = c.gateway ∧
      (c.gateway.sendChunk ({} : RecordingSink) "t" [1] ⟨1, 0⟩).settled.gateway = c.gateway ∧
      (c.gateway.sendChunk ({} : RecordingSink) "a" [1] ⟨1, 0⟩).value = .ok () ∧
      (c.gateway.routeAdvertisement "00:00:00" [1]).gateway = c.gateway ∧
      c.gateway.Appends "t" [1] (c.gateway.routeAdvertisement "0f-37-a5" [1]).gateway ∧
      c.step? (.access 1) = some c₁ ∧ c₁.run? between = some c' ∧
      (c'.gateway.push 0 [1]).1 = .closed ∧ c₁.StopsIn between 0 := by
  intro config connected between
  have hrun : ((start config 1 true).run? connected).any (fun c₀ =>
      let c : Crowd := { c₀ with calls := c₀.calls ++ [[.find "a" [1]]] }
      decide (c₀.calls.length = 1 ∧ c.gateway.deviceTask? "a" = some 0 ∧
          c.gateway.deviceTask? "t" = none) &&
        ((c.gateway.config.device? "b").isNone &&
          (c.gateway.config.tankBySuffix? "00:00:00").isNone &&
          (c.gateway.config.tankBySuffix? "0f-37-a5").any (·.id == "t") &&
          (c.gateway.routeAdvertisement "0f-37-a5" [1]).value) &&
        (c.step? (.access 1)).any fun c₁ => (c₁.run? between).any fun c' =>
          decide ((c'.gateway.push 0 [1]).1 = .closed)) = true := by
    decide +kernel
  obtain ⟨c₀, hreached, hseen⟩ := (Option.any_eq_true _ _).mp hrun
  let c : Crowd := { c₀ with calls := c₀.calls ++ [[.find "a" [1]]] }
  obtain ⟨hseen, hlater⟩ := Bool.and_eq_true_iff.mp hseen
  obtain ⟨hlisted, hknown⟩ := Bool.and_eq_true_iff.mp hseen
  obtain ⟨hlength, ha, ht⟩ := of_decide_eq_true hlisted
  obtain ⟨hknown, htaken⟩ := Bool.and_eq_true_iff.mp hknown
  obtain ⟨hknown, htank⟩ := Bool.and_eq_true_iff.mp hknown
  obtain ⟨hb, hsuffix⟩ := Bool.and_eq_true_iff.mp hknown
  obtain ⟨c₁, hstep, hlater⟩ := (Option.any_eq_true _ _).mp hlater
  obtain ⟨c', hbetween, hclosed⟩ := (Option.any_eq_true _ _).mp hlater
  have hrun : (start config 1 true).run? (connected ++ [.call (.sendChunk "a" [1])]) = some c := by
    rw [run?_append, hreached]
    rfl
  have hfind : c.calls[1]? = some [.find "a" [1]] := by
    rw [← hlength]
    exact List.getElem?_concat_length
  obtain ⟨hconnect, hdisconnect, hsend, hroute, hstops⟩ := failures_change_nothing hrun
  obtain ⟨hunchanged, hrefused, -⟩ := hroute "00:00:00" [1]
  have hunknown : c.gateway.NoTaker "00:00:00" := Or.inl (Option.isNone_iff_eq_none.mp hsuffix)
  obtain ⟨-, -, haccepted⟩ := hroute "0f-37-a5" [1]
  obtain ⟨tank, hfound, happends⟩ := haccepted.mp htaken
  have hid : tank.id = "t" := by
    obtain ⟨tank', hfound', hid⟩ := (Option.any_eq_true _ _).mp htank
    cases hfound.symm.trans hfound'
    exact beq_iff_eq.mp hid
  have hwaits : Turn.access 1 ∉ between := by simp [between]
  have hclosed := of_decide_eq_true hclosed
  refine ⟨c, c₁, c', hrun, ?_, ?_, ?_, (hsend _ "a" [1] _).2 0 ha, ?_, hid ▸ happends, hstep,
    hbetween, hclosed, ((hstops hfind ha hstep hbetween hwaits).2 hclosed).2⟩
  · rw [hconnect "b" (Option.isNone_iff_eq_none.mp hb)]
  · rw [hdisconnect "t" ht]
  · rw [(hsend _ "t" [1] _).1 ht]
  · exact (hunchanged (hrefused.mpr hunknown)).1

end Crowd

end SensorGateway
