import SensorGateway.Proofs.Gateway.Agreement

/-!
# How a gateway stands between two calls

Three records say which devices are connected: the list of devices, the tasks that are live, and the
bindings of the publisher.  While a call is under way they differ; between two calls the gateway is
*aligned*, they say the same.  Every operation that finds an aligned gateway leaves one
(`Aligned.perform`).
-/

namespace SensorGateway

/-- The list of devices, the live tasks and the bindings say the same. -/
structure Gateway.Aligned (g : Gateway) : Prop where
  sorted : KeyMap.Sorted g.devices
  configured : ∀ {id n}, g.deviceTask? id = some n → ∃ device, g.config.device? id = some device
  listed_iff : ∀ {id n}, g.deviceTask? id = some n ↔ g.LiveFor n id
  bound_iff : ∀ {id topics}, (g.publisher.bindings.find? id).map Binding.topics = some topics ↔
    g.isConnected id = true ∧ topics ≠ [] ∧
      ∃ device, g.config.device? id = some device ∧ device.topics = topics

namespace Gateway

variable {g h : Gateway} {id : String} {n : Nat} {device : DeviceConfig}

/-- To be connected is to be on the list. -/
theorem isConnected_iff : g.isConnected id = true ↔ ∃ n, g.deviceTask? id = some n :=
  Option.isSome_iff_exists

/-- A gateway is aligned if it agrees with one that is. -/
theorem Aligned.of_agrees (s : g.Aligned) (a : g.Agrees h) : h.Aligned where
  sorted := a.devices ▸ s.sorted
  configured {id n} hn := by
    rw [a.deviceTask?] at hn
    rw [a.config]
    exact s.configured hn
  listed_iff {id n} := by
    rw [a.deviceTask?, a.liveFor_iff]
    exact s.listed_iff
  bound_iff {id topics} := by
    rw [a.bindings, a.config, isConnected, a.devices]
    exact s.bound_iff

/-- A gateway begins aligned: no device is listed, none has a task, and none is bound. -/
theorem aligned_new (config : Config) (capacity : Nat) (suppressRepeats : Bool) :
    (new config (.new capacity suppressRepeats)).Aligned where
  sorted := KeyMap.sorted_nil
  configured hn := by cases hn
  listed_iff := by
    simp [deviceTask?, LiveFor, task?, new, KeyMap.find?]
  bound_iff := by
    simp [isConnected, KeyMap.contains, new, Publisher.new, KeyMap.find?]

/-! ## The device and binding tables -/

/-- A device that is taken off the list is not on it any more, and the others stay. -/
theorem deviceTask?_unlist (g : Gateway) (id other : String) :
    (g.unlist id).deviceTask? other = if other = id then none else g.deviceTask? other :=
  KeyMap.find?_erase g.devices id other

/-- A device that is listed has that task, and the others keep theirs. -/
theorem deviceTask?_enlist (g : Gateway) (id : String) (n : Nat) (other : String) :
    (g.enlist id n).deviceTask? other = if other = id then some n else g.deviceTask? other :=
  KeyMap.find?_insert g.devices id n other

/-- A device that is detached has no binding any more, and the others keep theirs. -/
theorem bindings_detach (g : Gateway) (id other : String) :
    (g.detach id).publisher.bindings.find? other =
      if other = id then none else g.publisher.bindings.find? other :=
  KeyMap.find?_erase g.publisher.bindings id other

/-- Binding a device without topics changes nothing. -/
theorem topics_bind (g : Gateway) (id : String) (topics : List String) (other : String) :
    ((g.bind id topics).publisher.bindings.find? other).map Binding.topics =
      if other = id ∧ topics ≠ [] then some topics
      else (g.publisher.bindings.find? other).map Binding.topics := by
  unfold bind
  cases topics with
  | nil => simp
  | cons topic topics =>
      by_cases hother : other = id
      · simp [hother, Publisher.bind]
      · simp [hother, Publisher.bind, KeyMap.find?_insert_of_ne]

/-! ## Disconnecting -/

/-- A task stands under one device only. -/
theorem Aligned.owner_unique (s : g.Aligned) {a b : String} (ha : g.deviceTask? a = some n)
    (hb : g.deviceTask? b = some n) : a = b := by
  have hlive := liveFor_iff.mp (s.listed_iff.mp ha)
  rw [liveFor_iff.mp (s.listed_iff.mp hb)] at hlive
  cases hlive
  rfl

/-- A task that is stopped is not live any more, and the others are as they were. -/
theorem badge?_stop (g : Gateway) (n m : Nat) :
    (g.stop n).badge? m = if n = m then (g.badge? m).map fun b => (false, b.2) else g.badge? m :=
  ((agrees_abort (g.silence n) n).badge m).trans (badge?_silence g n m)

/-- The live tasks after one has been stopped are the others. -/
theorem liveFor_stop {m : Nat} : (g.stop n).LiveFor m id ↔ n ≠ m ∧ g.LiveFor m id := by
  rw [liveFor_iff, badge?_stop, liveFor_iff]
  split
  next heq => simp [heq]
  next hne => simp [hne]

/-- To disconnect a device is to take it off the list, and no other. -/
theorem deviceTask?_disconnect (g : Gateway) (id other : String) :
    (g.disconnect id).gateway.deviceTask? other =
      if other = id then none else g.deviceTask? other := by
  unfold disconnect
  cases hn : g.deviceTask? id with
  | none =>
      dsimp only
      split
      next heq => rw [heq, hn]
      · rfl
  | some n => exact deviceTask?_unlist g id other

/-- Disconnecting leaves the configuration alone. -/
theorem config_disconnect (g : Gateway) (id : String) :
    (g.disconnect id).gateway.config = g.config := by
  unfold disconnect
  split <;> rfl

/-- The list after a device has been disconnected is the old one without it. -/
theorem devices_disconnect (g : Gateway) (id : String) :
    (g.disconnect id).gateway.devices = g.devices.erase id := by
  unfold disconnect
  cases hn : g.deviceTask? id with
  | none => exact (KeyMap.erase_of_find?_eq_none hn).symm
  | some n => rfl

/-- Disconnecting a device ends the task that it has on the list. -/
theorem liveFor_disconnect (hn : g.deviceTask? id = some n) {m : Nat} {other : String} :
    (g.disconnect id).gateway.LiveFor m other ↔ n ≠ m ∧ g.LiveFor m other := by
  simp only [disconnect, hn]
  exact @liveFor_stop (g.unlist id) other n m

/-- Disconnecting a device that is listed removes its binding. -/
theorem bindings_disconnect (hn : g.deviceTask? id = some n) (other : String) :
    (g.disconnect id).gateway.publisher.bindings.find? other =
      if other = id then none else g.publisher.bindings.find? other := by
  simp only [disconnect, hn]
  exact bindings_detach ((g.unlist id).stop n) id other

/-- Disconnecting keeps list, live tasks and bindings in step. -/
theorem Aligned.disconnect (s : g.Aligned) (id : String) : (g.disconnect id).gateway.Aligned := by
  cases hn : g.deviceTask? id with
  | none =>
      simp only [Gateway.disconnect, hn]
      exact s
  | some n =>
      refine ⟨?_, fun {other m} hm => ?_, fun {other m} => ?_, fun {other topics} => ?_⟩
      · rw [devices_disconnect]
        exact s.sorted.erase id
      · rw [deviceTask?_disconnect] at hm
        rw [config_disconnect]
        split at hm
        · cases hm
        · exact s.configured hm
      · rw [deviceTask?_disconnect, liveFor_disconnect hn, ← s.listed_iff]
        split
        next heq =>
          rw [heq, hn]
          simp
        next hne =>
          -- no other device has the task that is stopped
          refine ⟨fun hm => ⟨?_, hm⟩, And.right⟩
          rintro rfl
          exact hne (s.owner_unique hm hn)
      · rw [bindings_disconnect hn, isConnected_iff, deviceTask?_disconnect, config_disconnect]
        split
        · simp
        · rw [s.bound_iff, isConnected_iff]

/-! ## Connecting -/

/-- A new session is one of the device that has this identifier. -/
theorem device_newSession (g : Gateway) (hdevice : g.config.device? id = some device) :
    (g.newSession device).device = id := by
  unfold Config.device? at hdevice
  split at hdevice
  next b hb =>
    cases hdevice
    have heq : b.id = id := by simpa using List.find?_some hb
    exact heq
  · obtain ⟨t, ht, rfl⟩ := Option.map_eq_some_iff.mp hdevice
    have heq : t.id = id := by simpa using List.find?_some ht
    exact heq

/-- No task has a number beyond those that were given. -/
theorem badge?_eq_none (h : g.tasks.length ≤ n) : g.badge? n = none := by
  rw [badge?, task?, List.getElem?_eq_none h, Option.map_none]

/-- What connecting does once the device has no session. -/
def install (g : Gateway) (id : String) (device : DeviceConfig) : Gateway :=
  let bound := g.bind id device.topics
  (bound.start (bound.newSession device)).enlist id bound.tasks.length

/-- To connect a device is to disconnect it and to install it. -/
theorem connect_eq_install (hdevice : g.config.device? id = some device) :
    (g.connect id).gateway = (g.disconnect id).gateway.install id device := by
  simp only [connect, hdevice, install]

/-- Binding a device leaves the configuration alone, -/
theorem config_bind (g : Gateway) (id : String) (topics : List String) :
    (g.bind id topics).config = g.config := by
  unfold bind
  split <;> rfl

/-- and the tasks, -/
theorem tasks_bind (g : Gateway) (id : String) (topics : List String) :
    (g.bind id topics).tasks = g.tasks := by
  unfold bind
  split <;> rfl

/-- and the list. -/
theorem devices_bind (g : Gateway) (id : String) (topics : List String) :
    (g.bind id topics).devices = g.devices := by
  unfold bind
  split <;> rfl

/-- A device that is installed is listed with the next task. -/
theorem deviceTask?_install (g : Gateway) (id : String) (device : DeviceConfig) (other : String) :
    (g.install id device).deviceTask? other =
      if other = id then some g.tasks.length else g.deviceTask? other := by
  rw [install, deviceTask?_enlist, tasks_bind]
  have hsame (s : DeviceSession) :
      ((g.bind id device.topics).start s).deviceTask? other = g.deviceTask? other := by
    rw [deviceTask?, deviceTask?, ← g.devices_bind id device.topics]
    rfl
  rw [hsame]

/-- The next task is live and the device's, and the others are as they were. -/
theorem badge?_install (g : Gateway) (hdevice : g.config.device? id = some device) (m : Nat) :
    (g.install id device).badge? m =
      if m = g.tasks.length then some (true, id) else g.badge? m := by
  let bound := g.bind id device.topics
  have hsession : (bound.newSession device).device = id :=
    device_newSession bound (by rw [config_bind, hdevice])
  have hstart := badge?_start bound (bound.newSession device) m
  rw [hsession, tasks_bind] at hstart
  refine hstart.trans ?_
  rw [badge?, task?, tasks_bind, badge?, task?]

/-- In an aligned gateway a device that is not listed has no binding. -/
theorem Aligned.not_bound (s : g.Aligned) (hid : g.deviceTask? id = none) (topics : List String) :
    (g.publisher.bindings.find? id).map Binding.topics ≠ some topics := by
  intro hbound
  obtain ⟨n, hn⟩ := isConnected_iff.mp (s.bound_iff.mp hbound).1
  rw [hid] at hn
  cases hn

/-- A device that is not listed can be installed, and list, live tasks and bindings stay in step. -/
theorem Aligned.install (s : g.Aligned) (hid : g.deviceTask? id = none)
    (hdevice : g.config.device? id = some device) : (g.install id device).Aligned where
  sorted := by
    have hsorted := s.sorted
    rw [← g.devices_bind id device.topics] at hsorted
    exact hsorted.insert id _
  configured {other m} hm := by
    have hconfig : (g.install id device).config = g.config := config_bind g id device.topics
    rw [hconfig]
    rw [deviceTask?_install] at hm
    split at hm
    next heq => exact ⟨device, heq ▸ hdevice⟩
    · exact s.configured hm
  listed_iff {other m} := by
    -- the number that the new task gets is nobody's so far
    have hnew : g.badge? g.tasks.length = none := badge?_eq_none (Nat.le_refl _)
    rw [deviceTask?_install, liveFor_iff, badge?_install g hdevice]
    by_cases hother : other = id <;> by_cases hm : m = g.tasks.length
    · simp [hother, hm]
    · have hnone : g.badge? m ≠ some (true, id) := fun hlive => by
        rw [s.listed_iff.mpr (liveFor_iff.mpr hlive)] at hid
        cases hid
      simp [hother, hm, hnone, Ne.symm hm]
    · have hnone : g.deviceTask? other ≠ some g.tasks.length := fun hlisted => by
        rw [liveFor_iff.mp (s.listed_iff.mp hlisted)] at hnew
        cases hnew
      simp [hother, hm, hnone, Ne.symm hother]
    · rw [if_neg hother, if_neg hm, s.listed_iff, liveFor_iff]
  bound_iff {other topics} := by
    have hconfig : (g.install id device).config = g.config := config_bind g id device.topics
    have htopics : ((g.install id device).publisher.bindings.find? other).map Binding.topics = _ :=
      topics_bind g id device.topics other
    rw [htopics, isConnected_iff, hconfig, deviceTask?_install]
    by_cases hother : other = id
    · subst hother
      have hunbound := s.not_bound hid topics
      by_cases hnil : device.topics = []
      · simp only [hnil, ne_eq, not_true_eq_false, and_false, if_false, hunbound, false_iff]
        rintro ⟨-, hne, device', hdevice', rfl⟩
        cases hdevice.symm.trans hdevice'
        exact hne hnil
      · rw [if_pos ⟨rfl, hnil⟩, if_pos rfl, Option.some.injEq]
        constructor
        · rintro rfl
          exact ⟨⟨_, rfl⟩, hnil, device, hdevice, rfl⟩
        · rintro ⟨-, -, device', hdevice', rfl⟩
          cases hdevice.symm.trans hdevice'
          rfl
    · rw [if_neg hother, if_neg (fun h => hother h.1), s.bound_iff, isConnected_iff]

/-- Connecting keeps them in step. -/
theorem Aligned.connect (s : g.Aligned) (id : String) : (g.connect id).gateway.Aligned := by
  cases hdevice : g.config.device? id with
  | none =>
      simp only [Gateway.connect, hdevice]
      exact s
  | some device =>
      rw [connect_eq_install hdevice]
      refine (s.disconnect id).install ?_ (by rw [config_disconnect, hdevice])
      rw [deviceTask?_disconnect, if_pos rfl]

/-! ## Shutting down -/

/-- Stops the tasks of all these devices and forgets the devices. -/
def stopAll (g : Gateway) (entries : List (String × Nat)) : Gateway :=
  entries.foldl (fun g entry => (g.stop entry.2).detach entry.1) g

/-- Stopping tasks leaves the list alone. -/
theorem devices_stopAll (g : Gateway) (entries : List (String × Nat)) :
    (g.stopAll entries).devices = g.devices := by
  induction entries generalizing g with
  | nil => rfl
  | cons entry entries ih => exact ih _

/-- A task that is live after several have been stopped was live before, and is none of them. -/
theorem liveFor_stopAll {entries : List (String × Nat)} (hlive : (g.stopAll entries).LiveFor n id) :
    g.LiveFor n id ∧ ∀ entry ∈ entries, entry.2 ≠ n := by
  induction entries generalizing g with
  | nil => exact ⟨hlive, nofun⟩
  | cons entry entries ih =>
      obtain ⟨hrest, hothers⟩ := ih hlive
      obtain ⟨hne, hlive⟩ := liveFor_stop.mp hrest
      exact ⟨hlive, List.forall_mem_cons.mpr ⟨hne, hothers⟩⟩

/-- A device that is bound after several have been stopped was bound before, and is none of them. -/
theorem bindings_stopAll {entries : List (String × Nat)} {b : Binding}
    (hbound : (g.stopAll entries).publisher.bindings.find? id = some b) :
    g.publisher.bindings.find? id = some b ∧ ∀ entry ∈ entries, entry.1 ≠ id := by
  induction entries generalizing g with
  | nil => exact ⟨hbound, nofun⟩
  | cons entry entries ih =>
      obtain ⟨hrest, hothers⟩ := ih hbound
      rw [bindings_detach] at hrest
      split at hrest
      · cases hrest
      next hne => exact ⟨hrest, List.forall_mem_cons.mpr ⟨Ne.symm hne, hothers⟩⟩

/-- To shut down is to clear the list and to stop everything that was on it. -/
theorem shutdown_eq_stopAll (g : Gateway) :
    g.shutdown.gateway = stopAll { g with devices := [] } g.devices := rfl

/-- After a shutdown no device is connected. -/
theorem deviceTask?_shutdown (g : Gateway) (id : String) :
    g.shutdown.gateway.deviceTask? id = none := by
  rw [shutdown_eq_stopAll, deviceTask?, devices_stopAll]
  rfl

/-- After a shutdown no task is live. -/
theorem Aligned.not_liveFor_shutdown (s : g.Aligned) (n : Nat) (id : String) :
    ¬ g.shutdown.gateway.LiveFor n id := by
  intro hlive
  obtain ⟨hlive, hothers⟩ := liveFor_stopAll hlive
  have hlisted : g.deviceTask? id = some n := s.listed_iff.mpr hlive
  exact hothers _ (KeyMap.mem_of_find? hlisted) rfl

/-- After a shutdown no device is bound. -/
theorem Aligned.bindings_shutdown (s : g.Aligned) (id : String) :
    g.shutdown.gateway.publisher.bindings.find? id = none := by
  refine Option.eq_none_iff_forall_ne_some.mpr fun b hbound => ?_
  obtain ⟨hbound, hothers⟩ := bindings_stopAll hbound
  obtain ⟨hconnected, -⟩ := s.bound_iff.mp (congrArg (Option.map Binding.topics) hbound)
  obtain ⟨n, hn⟩ := isConnected_iff.mp hconnected
  exact hothers _ (KeyMap.mem_of_find? hn) rfl

/-- Shutting down leaves nothing listed, live or bound. -/
theorem Aligned.shutdown (s : g.Aligned) : g.shutdown.gateway.Aligned where
  sorted := by
    rw [shutdown_eq_stopAll, devices_stopAll]
    exact KeyMap.sorted_nil
  configured hn := by
    rw [deviceTask?_shutdown] at hn
    cases hn
  listed_iff {id n} := by
    rw [deviceTask?_shutdown]
    simp [s.not_liveFor_shutdown]
  bound_iff {id topics} := by
    rw [s.bindings_shutdown, isConnected_iff, deviceTask?_shutdown]
    simp

/-! ## Every operation -/

/-- Putting a chunk into a queue keeps list, live tasks and bindings in step, -/
theorem Aligned.push (s : g.Aligned) (n : Nat) (chunk : Bytes) : (g.push n chunk).2.Aligned :=
  s.of_agrees (agrees_push g n chunk)

/-- finding or starting the task of a tank does so, too, -/
theorem Aligned.tankTask (s : g.Aligned) (id : String) : (g.tankTask id).gateway.Aligned := by
  unfold Gateway.tankTask
  split
  · exact s
  · exact s.connect id

/-- and so does routing an advertisement. -/
theorem Aligned.routeAdvertisement (s : g.Aligned) (suffix : String) (payload : Bytes) :
    (g.routeAdvertisement suffix payload).gateway.Aligned := by
  unfold Gateway.routeAdvertisement
  split
  · exact s
  next tank _ =>
    have htask := s.tankTask tank.id
    dsimp only
    split
    · exact htask
    next n _ => exact htask.push n payload

/-- Whatever is asked of an aligned gateway leaves it aligned. -/
theorem Aligned.perform (s : g.Aligned) (c : Call) : (c.perform g).Aligned := by
  cases c with
  | connect id => exact s.connect id
  | disconnect id => exact s.disconnect id
  | sendChunk id chunk =>
      simp only [Call.perform]
      cases g.deviceTask? id with
      | none => exact s
      | some n => exact s.push n chunk
  | routeAdvertisement suffix payload => exact s.routeAdvertisement suffix payload
  | shutdown => exact s.shutdown

end Gateway

end SensorGateway
