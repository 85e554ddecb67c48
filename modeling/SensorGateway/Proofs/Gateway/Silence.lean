import SensorGateway.Proofs.Gateway.Aligned

/-!
# Tasks that are live no more

A task that is live no more stays so, whatever is done to the gateway, and it can do nothing that is
seen from outside: before it publishes it takes its lock and looks whether it is live, and as long
as it holds its lock nobody can silence it.  So no task that holds its lock has been silenced
(`LocksLive`), and the steps of a silenced one leave the publisher and the events alone
(`Silenced.advance`).
-/

namespace SensorGateway

/-- The call stops the task that the device has. -/
inductive Call.Stops : Call → String → Prop
  | connect (id : String) : Stops (.connect id) id
  | disconnect (id : String) : Stops (.disconnect id) id
  | shutdown (id : String) : Stops .shutdown id

namespace Gateway

variable {g h : Gateway} {id : String} {n : Nat}

/-- The task with this number was started, and is live no more. -/
def Silenced (g : Gateway) (n : Nat) : Prop := ∃ id, g.badge? n = some (false, id)

/-- No task that holds its lock has been silenced. -/
def LocksLive (g : Gateway) : Prop :=
  ∀ n t, g.task? n = some t → t.holdsLock = true → t.live = true

/-! ## Silenced for good -/

/-- Gateways that agree have silenced the same tasks. -/
theorem Agrees.silenced_iff (a : g.Agrees h) : h.Silenced n ↔ g.Silenced n := by
  simp only [Silenced, a.badge]

/-- A task that is silenced is silent. -/
theorem silenced_silence (hn : g.badge? n ≠ none) : (g.silence n).Silenced n := by
  obtain ⟨⟨live, id⟩, hbadge⟩ := Option.ne_none_iff_exists'.mp hn
  exact ⟨id, by simp [badge?_silence, hbadge]⟩

/-- It stays silent when another one is silenced, -/
theorem Silenced.silence (s : g.Silenced n) (m : Nat) : (g.silence m).Silenced n := by
  obtain ⟨id, hbadge⟩ := s
  refine ⟨id, ?_⟩
  rw [badge?_silence, hbadge]
  split <;> rfl

/-- and when a task is started. -/
theorem Silenced.start (s : g.Silenced n) (session : DeviceSession) :
    (g.start session).Silenced n := by
  obtain ⟨id, hbadge⟩ := s
  have hne : n ≠ g.tasks.length := by
    rintro rfl
    rw [badge?_eq_none (Nat.le_refl _)] at hbadge
    cases hbadge
  exact ⟨id, by rw [badge?_start, if_neg hne, hbadge]⟩

/-- No access lets a silent task speak again. -/
theorem Silenced.change (s : g.Silenced n) (x : Access) : (x.change g).Silenced n := by
  cases x with
  | silence m => exact s.silence m
  | abort m => exact (agrees_abort g m).silenced_iff.mpr s
  | start _ device _ => exact s.start (g.newSession device)
  | bind id topics =>
      simp only [Access.change, bind]
      split <;> exact s
  | send m chunk => exact (agrees_push g m chunk).silenced_iff.mpr s
  | offer m chunk => exact (agrees_push g m chunk).silenced_iff.mpr s
  | unlist | unlistAll | detach | enlist | find | findTank => exact s

/-! ## Stopped by a call -/

/-- A task that is stopped is silent. -/
theorem silenced_stop (hn : g.badge? n ≠ none) : (g.stop n).Silenced n :=
  (agrees_abort (g.silence n) n).silenced_iff.mpr (silenced_silence hn)

/-- A silent task stays so when another one is stopped, -/
theorem Silenced.stop (s : g.Silenced n) (m : Nat) : (g.stop m).Silenced n :=
  (agrees_abort (g.silence m) m).silenced_iff.mpr (s.silence m)

/-- also when several are. -/
theorem Silenced.stopAll (s : g.Silenced n) (entries : List (String × Nat)) :
    (g.stopAll entries).Silenced n := by
  induction entries generalizing g with
  | nil => exact s
  | cons entry entries ih => exact ih (g := (g.stop entry.2).detach entry.1) (s.stop entry.2)

/-- Of several tasks that are stopped each is silent. -/
theorem silenced_stopAll {entries : List (String × Nat)} (hn : g.badge? n ≠ none)
    (hmem : (id, n) ∈ entries) : (g.stopAll entries).Silenced n := by
  induction entries generalizing g with
  | nil => cases hmem
  | cons entry entries ih =>
      let h := (g.stop entry.2).detach entry.1
      rcases List.mem_cons.mp hmem with rfl | hmem
      · exact Silenced.stopAll (g := h) (silenced_stop hn) entries
      · refine ih (g := h) ?_ hmem
        have hbadge : h.badge? n = _ := badge?_stop g entry.2 n
        rw [hbadge]
        split
        · simpa using hn
        · exact hn

/-- The task of a device that a call stops is silenced when the call is over. -/
theorem Aligned.silenced_perform (s : g.Aligned) {c : Call} (hstops : c.Stops id)
    (hn : g.deviceTask? id = some n) : (c.perform g).Silenced n := by
  have hbadge : g.badge? n ≠ none := by
    rw [liveFor_iff.mp (s.listed_iff.mp hn)]
    nofun
  have hdisconnect : (g.disconnect id).gateway.Silenced n := by
    simp only [Gateway.disconnect, hn]
    exact silenced_stop (g := g.unlist id) hbadge
  cases hstops with
  | disconnect => exact hdisconnect
  | shutdown =>
      exact silenced_stopAll (g := { g with devices := [] }) hbadge (KeyMap.mem_of_find? hn)
  | connect =>
      obtain ⟨device, hdevice⟩ := s.configured hn
      simp only [Call.perform, connect_eq_install hdevice]
      have hbound := hdisconnect.change (.bind id device.topics)
      exact hbound.start _

/-! ## Behind the lock -/

/-- Locks are held by live tasks if what is done to one of them leaves it so. -/
theorem LocksLive.modifyTask (locks : g.LocksLive) {m : Nat} {f : Task → Task}
    (hf : ∀ t, g.task? m = some t → (f t).holdsLock = true → (f t).live = true) :
    (g.modifyTask m f).LocksLive := by
  intro k t ht
  rw [task?_modifyTask] at ht
  split at ht
  next heq =>
    subst heq
    obtain ⟨t₀, ht₀, rfl⟩ := Option.map_eq_some_iff.mp ht
    exact hf t₀ ht₀
  · exact locks k t ht

/-- In a new gateway nobody holds a lock. -/
theorem locksLive_new (config : Config) (publisher : Publisher) :
    (new config publisher).LocksLive := by
  intro n t ht
  simp [task?, new] at ht

/-- A task that is started holds no lock. -/
theorem LocksLive.start (locks : g.LocksLive) (session : DeviceSession) :
    (g.start session).LocksLive := by
  intro k t ht
  rw [task?_start] at ht
  split at ht
  · cases ht
    exact fun _ => rfl
  · exact locks k t ht

/-- Putting a chunk into a queue takes no lock. -/
theorem LocksLive.push (locks : g.LocksLive) (m : Nat) (chunk : Bytes) :
    (g.push m chunk).2.LocksLive := by
  rcases g.push_eq m chunk with h | h
  · rw [h]
    exact locks
  · rw [h]
    exact locks.modifyTask fun t ht => locks m t ht

/-- An access waits for the lock of a task before it silences it, so no silent task holds one. -/
theorem LocksLive.change (locks : g.LocksLive) {x : Access} (hfree : x.waits g = false) :
    (x.change g).LocksLive := by
  cases x with
  | silence m =>
      refine locks.modifyTask fun t ht hlock => ?_
      -- it would have had to wait
      have hfree : t.holdsLock = false := by simpa [Access.waits, ht] using hfree
      rw [← hlock]
      exact hfree.symm
  | abort m => exact locks.modifyTask fun t ht => locks m t ht
  | start _ device _ => exact locks.start (g.newSession device)
  | bind id topics =>
      simp only [Access.change, bind]
      split <;> exact locks
  | send m chunk => exact locks.push m chunk
  | offer m chunk => exact locks.push m chunk
  | unlist | unlistAll | detach | enlist | find | findTank => exact locks

end Gateway

/-! ## Steps of a task -/

namespace Task

/-- A task that takes a chunk holds no lock. -/
theorem holdsLock_takeChunk {t : Task} (h : t.phase = .waiting) :
    t.takeChunk.holdsLock = false := by
  unfold takeChunk
  split
  · simp [holdsLock, h]
  · rfl

/-- A task that looks for a chunk holds no lock. -/
theorem holdsLock_take {t : Task} (h : t.phase = .waiting) : t.take.holdsLock = false := by
  unfold take
  split
  · rfl
  · exact holdsLock_takeChunk h

/-- A task that decodes holds no lock. -/
theorem holdsLock_decode (t : Task) (chunk : Bytes) (now : Instant) :
    (t.decode chunk now).1.holdsLock = false := by
  simp only [decode, holdsLock]
  cases (t.session.handle chunk now).events <;> rfl

/-- A task that gets past its check is live. -/
theorem live_of_holdsLock_check {t : Task} {events : List Event}
    (h : (t.check events).holdsLock = true) : (t.check events).live = true := by
  unfold check at h ⊢
  split
  · assumption
  next hsilent =>
    rw [if_neg hsilent] at h
    cases h

/-- A task that lingers holds its lock only if it is live. -/
theorem live_of_holdsLock_linger {t : Task} (hlive : t.holdsLock = true → t.live = true)
    (h : t.linger.holdsLock = true) : t.linger.live = true := by
  unfold linger at h ⊢
  split at h
  next hphase =>
    rw [holdsLock_takeChunk hphase] at h
    cases h
  all_goals
    simp_all

end Task

namespace Gateway

variable {g h : Gateway} {n : Nat}

/-- Every step of a task leaves the locks with live tasks. -/
theorem LocksLive.advance (locks : g.LocksLive) {now : Instant} {o : Outcome Unit}
    (ho : g.advance n now = some o) : o.gateway.LocksLive := by
  obtain ⟨t, ht, hstep⟩ := advance_eq_some_iff.mp ho
  cases hstep with
  | take hphase =>
      refine locks.modifyTask fun t' ht' hlock => ?_
      cases ht.symm.trans ht'
      rw [Task.holdsLock_take hphase] at hlock
      cases hlock
  | decode =>
      refine locks.modifyTask fun t' ht' hlock => ?_
      rw [Task.holdsLock_decode] at hlock
      cases hlock
  | check => exact locks.modifyTask fun _ _ => Task.live_of_holdsLock_check
  | publish hphase =>
      refine LocksLive.modifyTask (g := { g with publisher := _ }) locks fun t' ht' _ => ?_
      cases ht.symm.trans ht'
      exact locks n t ht (by simp [Task.holdsLock, hphase])
  | emit hphase =>
      refine LocksLive.modifyTask (g := g.emit _) locks fun t' ht' _ => ?_
      cases ht.symm.trans ht'
      exact locks n t ht (by simp [Task.holdsLock, hphase])

/-- A silenced task neither publishes nor emits. -/
theorem Silenced.advance (s : g.Silenced n) (locks : g.LocksLive) {now : Instant} {o : Outcome Unit}
    (ho : g.advance n now = some o) :
    o.gateway.publisher = g.publisher ∧ o.gateway.events = g.events := by
  obtain ⟨id, hbadge⟩ := s
  obtain ⟨t, ht, hstep⟩ := advance_eq_some_iff.mp ho
  have hlive : t.live = false := by
    simp only [badge?, ht, Option.map_some, Option.some.injEq, Task.badge] at hbadge
    exact congrArg Prod.fst hbadge
  have hlock : t.holdsLock ≠ true := fun hlock => by
    rw [locks n t ht hlock] at hlive
    cases hlive
  cases hstep with
  | take => exact ⟨rfl, rfl⟩
  | decode => exact ⟨rfl, rfl⟩
  | check => exact ⟨rfl, rfl⟩
  | publish hphase => exact absurd (by simp [Task.holdsLock, hphase]) hlock
  | emit hphase => exact absurd (by simp [Task.holdsLock, hphase]) hlock

end Gateway

end SensorGateway
