import SensorGateway.Proofs.Gateway.TaskLiveness

/-!
# Listed tasks go on

A gateway *serves* its configuration if the tasks that are listed for its devices are live and go on
(`Gateway.Serves`).  However the calls of a gateway overlap, it does (`Gateway.serves_crowd`).  So a
task that is found on the list has not ended, and what is pushed to it goes into its queue unless
the queue is full (`Gateway.push_of_not_ended`).  The same holds of a task that has just been
started, whose queue is empty, and with that it is known what becomes of an advertisement.
-/

namespace SensorGateway

/-- A task that has been offered a chunk: it is lost if there is no room for it. -/
def Task.offered (t : Task) (chunk : Bytes) : Task := if t.isFull then t else t.enqueue chunk

/-- A task that has not reached its last phase has not ended. -/
theorem Task.isEnded_eq_false {t : Task} (h : t.phase ≠ .ended) : t.isEnded = false := by
  cases hphase : t.phase with
  | ended => exact absurd hphase h
  | waiting | decoding | reporting | publishing | emitting =>
      rw [isEnded, hphase]
      rfl

namespace Gateway

/-- The gateway was made with this configuration, and the tasks that are listed go on. -/
structure Serves (g : Gateway) (config : Config) : Prop where
  config : g.config = config
  listed : ∀ {id n}, g.deviceTask? id = some n → g.LiveFor n id
  going : g.Going

variable {g h : Gateway} {config : Config} {t : TankConfig} {n : Nat}

/-! ## At any time -/

/-- A gateway serves if it agrees with one that does, and its live tasks go on. -/
theorem Serves.of_agrees (s : g.Serves config) (a : g.Agrees h) (going : h.Going) :
    h.Serves config where
  config := a.config.trans s.config
  listed {id n} hn := by
    rw [a.deviceTask?] at hn
    exact a.liveFor_iff.mpr (s.listed hn)
  going := going

/-- However the calls of a gateway overlap, it serves. -/
theorem serves_crowd {capacity : Nat} {suppressRepeats : Bool} {turns : List Turn} {c : Crowd}
    (hrun : (Crowd.start config capacity suppressRepeats).run? turns = some c) :
    c.gateway.Serves config where
  config := Crowd.config_run hrun
  listed {id n} :=
    ((Crowd.accounted_start config capacity suppressRepeats).run hrun).listed id n
  going := Crowd.going_run hrun

/-! ## The task of a device -/

/-- The task of a device that is listed goes on. -/
theorem Serves.exists_task (s : g.Serves config) {id : String} (hn : g.deviceTask? id = some n) :
    ∃ before, g.task? n = some before ∧ before.session.device = id ∧ before.live = true ∧
      before.phase ≠ .ended := by
  obtain ⟨before, hbefore, hlive, hdevice⟩ := s.listed hn
  exact ⟨before, hbefore, hdevice, hlive, (s.going n before hbefore hlive).2⟩

/-- A device without a session can be connected, which installs it. -/
theorem connect_of_unlisted {id : String} {device : DeviceConfig}
    (hdevice : g.config.device? id = some device) (hid : g.deviceTask? id = none) :
    (g.connect id).value = .ok g.tasks.length ∧ (g.connect id).gateway = g.install id device := by
  have hsame : (g.disconnect id).gateway = g := by simp only [disconnect, hid]
  constructor
  · simp only [connect, hdevice, hsame, tasks_bind]
  · rw [connect_eq_install hdevice, hsame]

/-- A device that is installed gets a new task, and the other tasks are as they were. -/
theorem task?_install (g : Gateway) (id : String) (device : DeviceConfig) (m : Nat) :
    (g.install id device).task? m =
      if m = g.tasks.length then some (.new (g.newSession device)) else g.task? m := by
  let bound := g.bind id device.topics
  have hstart := task?_start bound (bound.newSession device) m
  have hsession : bound.newSession device = g.newSession device :=
    newSession_congr (g.config_bind id device.topics) device
  rw [tasks_bind] at hstart
  refine hstart.trans ?_
  rw [hsession, task?, tasks_bind, task?]

/-- A gateway serves after a configured device has been installed. -/
theorem Serves.install (s : g.Serves config) {id : String} {device : DeviceConfig}
    (hdevice : g.config.device? id = some device) : (g.install id device).Serves config where
  config := (g.config_bind id device.topics).trans s.config
  listed {other m} hm := by
    rw [liveFor_iff, badge?_install g hdevice]
    rw [deviceTask?_install] at hm
    split at hm
    next heq =>
      cases hm
      rw [if_pos rfl, heq]
    next hne =>
      have hbadge := liveFor_iff.mp (s.listed hm)
      -- the new task has a number that nobody had
      have hold : m ≠ g.tasks.length := by
        rintro rfl
        rw [badge?_eq_none (Nat.le_refl _)] at hbadge
        cases hbadge
      rw [if_neg hold, hbadge]
  going := (s.going.bind id device.topics).start _

/-- What is pushed to a task that has not ended is queued, if there is room. -/
theorem push_of_not_ended_eq {before : Task} (hn : g.task? n = some before)
    (hphase : before.phase ≠ .ended) (chunk : Bytes) :
    g.push n chunk =
      if before.isFull then (.full, g)
      else (.queued, (g.modifyTask n (Task.enqueue · chunk)).wake n) := by
  have hended : before.isEnded = false := Task.isEnded_eq_false hphase
  simp only [push, hn, hended, Bool.false_eq_true, if_false]

/-- A task that has not ended takes a chunk if there is room. -/
theorem push_of_not_ended {before : Task} (hn : g.task? n = some before)
    (hphase : before.phase ≠ .ended) (chunk : Bytes) :
    ((g.push n chunk).1 == .queued) = !before.isFull ∧
      (g.push n chunk).2.task? n = some (before.offered chunk) ∧
      ∀ m ≠ n, (g.push n chunk).2.task? m = g.task? m := by
  rw [push_of_not_ended_eq hn hphase, Task.offered]
  cases hfull : before.isFull with
  | true => exact ⟨rfl, hn, fun _ _ => rfl⟩
  | false =>
      refine ⟨rfl, ?_, fun m hm => ?_⟩
      · have htask := g.task?_modifyTask n n (Task.enqueue · chunk)
        rw [if_pos rfl, hn] at htask
        exact htask
      · exact (g.task?_modifyTask n m _).trans (if_neg (Ne.symm hm))

/-! ## An advertisement -/

/-- An advertisement of a tank with a task is pushed to that task. -/
theorem routeAdvertisement_of_listed {suffix : String}
    (hfound : g.config.tankBySuffix? suffix = some t) (hn : g.deviceTask? t.id = some n)
    (data : Bytes) :
    g.routeAdvertisement suffix data =
      { value := (g.push n data).1 == .queued, gateway := (g.push n data).2, logs := [] } := by
  simp only [routeAdvertisement, hfound, tankTask, hn]

/-- An advertisement of a tank without one is pushed to the task that is started for it. -/
theorem routeAdvertisement_of_unlisted {suffix : String} {device : DeviceConfig}
    (hfound : g.config.tankBySuffix? suffix = some t)
    (hdevice : g.config.device? t.id = some device) (hid : g.deviceTask? t.id = none)
    (data : Bytes) :
    g.routeAdvertisement suffix data =
      { value := ((g.install t.id device).push g.tasks.length data).1 == .queued
        gateway := ((g.install t.id device).push g.tasks.length data).2
        logs := (g.connect t.id).logs } := by
  obtain ⟨hvalue, hgateway⟩ := connect_of_unlisted hdevice hid
  simp only [routeAdvertisement, hfound, tankTask, hid, hvalue, hgateway, Except.toOption]

end Gateway

end SensorGateway
