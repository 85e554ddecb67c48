import SensorGateway.Proofs.Gateway.Silence
import SensorGateway.Proofs.Gateway.TaskOwnership

/-!
# A live task goes on

A task ends in two ways: it finds that it has been silenced, or that it has been aborted.  A call
aborts a task only after it has silenced it (`Access.Heralded`), and in between nothing makes the
task live again.  So a live task has not been aborted and has not ended, at any time and however the
calls overlap (`Crowd.going_run`).  What is put into the queue of a live task will be taken out by
it, or be lost with it when it is stopped.
-/

namespace SensorGateway

/-- Unless the task has been silenced, it has been told nothing else and has not ended. -/
def Task.Going (t : Task) : Prop := t.live = true → t.aborted = false ∧ t.phase ≠ .ended

/-- All tasks go on that have not been silenced. -/
def Gateway.Going (g : Gateway) : Prop := ∀ n t, g.task? n = some t → t.Going

/-! ## Tasks -/

namespace Task

variable {t : Task}

/-- A task that has been silenced may end. -/
theorem going_of_silenced (h : t.live = false) : t.Going := fun hlive => by
  rw [h] at hlive
  cases hlive

/-- A new task goes on. -/
theorem going_new (session : DeviceSession) : (Task.new session).Going := fun _ =>
  ⟨rfl, Phase.noConfusion⟩

/-- A task that goes on may change its phase, as long as it does not end. -/
theorem Going.of_phase {t' : Task} (h : t.Going) (hlive : t'.live = t.live)
    (haborted : t'.aborted = t.aborted) (hphase : t.phase ≠ .ended → t'.phase ≠ .ended) :
    t'.Going := fun hlive' => by
  obtain ⟨hnot, hgoing⟩ := h (hlive ▸ hlive')
  exact ⟨haborted ▸ hnot, hphase hgoing⟩

/-- A live task goes on after it has taken a chunk, -/
theorem Going.takeChunk (h : t.Going) : t.takeChunk.Going := by
  unfold Task.takeChunk
  split
  · exact h
  · exact h.of_phase rfl rfl fun _ => Phase.noConfusion

/-- after it has looked for one, -/
theorem Going.take (h : t.Going) : t.take.Going := by
  unfold Task.take
  split
  next haborted =>
    -- a live task has not been aborted
    refine going_of_silenced (Bool.eq_false_iff.mpr fun hlive => ?_)
    rw [(h hlive).1] at haborted
    cases haborted
  · exact h.takeChunk

/-- and after it has lingered. -/
theorem Going.linger (h : t.Going) : t.linger.Going := by
  unfold Task.linger
  split
  · exact h.takeChunk
  all_goals exact h

/-- It goes on after it has decoded a chunk, -/
theorem Going.decode (h : t.Going) (chunk : Bytes) (now : Instant) :
    (t.decode chunk now).1.Going := by
  refine h.of_phase rfl rfl fun _ => ?_
  simp only [Task.decode]
  split <;> exact Phase.noConfusion

/-- after it has emitted an event, -/
theorem Going.goOn {events : List Event} (h : t.Going) : (t.goOn events).Going := by
  refine h.of_phase rfl rfl fun _ => ?_
  rcases t.goOn_cases events with heq | heq <;> rw [heq] <;> exact Phase.noConfusion

/-- and after it has looked whether to report, which ends it only if it has been silenced. -/
theorem Going.check (h : t.Going) (events : List Event) : (t.check events).Going := by
  unfold Task.check
  split
  · exact h.of_phase rfl rfl fun _ => Phase.noConfusion
  next hsilent => exact going_of_silenced (Bool.eq_false_iff.mpr hsilent)

end Task

/-! ## Changes of a gateway -/

namespace Gateway

variable {g : Gateway} {n : Nat}

/-- A new gateway has no tasks that could have ended. -/
theorem going_new (config : Config) (publisher : Publisher) : (new config publisher).Going := by
  intro n t ht
  simp [task?, new] at ht

/-- Live tasks go on if what is done to one of them keeps it going. -/
theorem Going.modifyTask (h : g.Going) {f : Task → Task}
    (hf : ∀ t, g.task? n = some t → t.Going → (f t).Going) : (g.modifyTask n f).Going := by
  intro m t ht
  rw [task?_modifyTask] at ht
  split at ht
  next heq =>
    subst heq
    obtain ⟨t₀, ht₀, rfl⟩ := Option.map_eq_some_iff.mp ht
    exact hf t₀ ht₀ (h n t₀ ht₀)
  · exact h m t ht

/-- A task that is started goes on. -/
theorem Going.start (h : g.Going) (session : DeviceSession) : (g.start session).Going := by
  intro m t ht
  rw [task?_start] at ht
  split at ht
  · cases ht
    exact Task.going_new session
  · exact h m t ht

/-- A task goes on when a chunk is put into its queue, -/
theorem Going.push (h : g.Going) (n : Nat) (chunk : Bytes) : (g.push n chunk).2.Going := by
  rcases g.push_eq n chunk with heq | heq
  · rw [heq]
    exact h
  · rw [heq]
    exact h.modifyTask fun _ _ ht => ht.of_phase rfl rfl id

/-- and when a device is bound. -/
theorem Going.bind (h : g.Going) (id : String) (topics : List String) :
    (g.bind id topics).Going := by
  intro n t ht
  rw [task?, tasks_bind] at ht
  exact h n t ht

/-- Every step of a task leaves live tasks going. -/
theorem Going.advance (h : g.Going) {now : Instant} {o : Outcome Unit}
    (ho : g.advance n now = some o) : o.gateway.Going := by
  obtain ⟨t, ht, hstep⟩ := advance_eq_some_iff.mp ho
  cases hstep with
  | take => exact h.modifyTask fun _ _ => Task.Going.take
  | decode => exact h.modifyTask fun _ _ _ => (h n t ht).decode _ now
  | check => exact h.modifyTask fun _ _ ht => ht.check _
  | publish =>
      refine Going.modifyTask (g := { g with publisher := _ }) h fun _ _ ht => ?_
      exact ht.of_phase rfl rfl fun _ => Phase.noConfusion
  | emit => exact Going.modifyTask (g := g.emit _) h fun _ _ => Task.Going.goOn

/-- Of the accesses only an abort could keep a live task from going on. -/
theorem Going.change (h : g.Going) {x : Access} (habort : ∀ n, x = .abort n → g.Silenced n) :
    (x.change g).Going := by
  cases x with
  | silence n => exact h.modifyTask fun _ _ _ => Task.going_of_silenced rfl
  | abort n =>
      obtain ⟨id, hbadge⟩ := habort n rfl
      refine h.modifyTask fun t ht _ => Task.going_of_silenced ?_
      rw [badge?, ht] at hbadge
      exact congrArg Prod.fst (Option.some.inj hbadge)
  | start id device chunk => exact h.start (g.newSession device)
  | bind id topics => exact h.bind id topics
  | send n chunk => exact h.push n chunk
  | offer n chunk => exact h.push n chunk
  | unlist | unlistAll | detach | enlist | find | findTank => exact h

/-- What happens beside the calls. -/
theorem Going.beside {m m' : Moment} {move : Move} (h : m.gateway.Going)
    (hcall : move.isCall = false) (haccess : move ≠ .access) (hstep : m.step? move = some m') :
    m'.gateway.Going := by
  cases move with
  | call c => cases hcall
  | access => exact absurd rfl haccess
  | task n now =>
      obtain ⟨o, ho, rfl⟩ := Option.map_eq_some_iff.mp hstep
      exact h.advance ho
  | linger n =>
      cases hstep
      exact h.modifyTask fun _ _ => Task.Going.linger
  | offer n chunk =>
      cases hstep
      exact h.push n chunk
  | dispatch sink =>
      obtain ⟨d, -, rfl⟩ := Option.map_eq_some_iff.mp hstep
      exact h
  | receive =>
      cases hstep
      exact h

end Gateway

/-! ## Silenced before it is aborted -/

namespace Access

variable {g : Gateway} {x : Access} {xs rest : List Access}

/-- Each abort comes after the same task has been silenced. -/
def Heralded (g : Gateway) (pending : List Access) : Prop :=
  ∀ before n after, pending = before ++ .abort n :: after → .silence n ∈ before ∨ g.Silenced n

/-- Without an abort there is nothing to herald. -/
theorem heralded_of_no_abort (h : ∀ n, .abort n ∉ xs) : Heralded g xs := by
  rintro before n after rfl
  exact absurd (List.mem_append_right before List.mem_cons_self) (h n)

/-- A task that is to be stopped is silenced and then aborted. -/
theorem heralded_stopping (id : String) (n : Nat) : Heralded g (stopping id n) := by
  intro before m after heq
  cases before with
  | nil => cases heq
  | cons first before =>
      obtain ⟨hfirst, hrest⟩ := List.cons.inj heq
      have hmem : abort m ∈ before ++ abort m :: after :=
        List.mem_append_right before List.mem_cons_self
      obtain rfl : m = n := by
        rw [← List.append_eq, ← hrest] at hmem
        simpa using hmem
      exact Or.inl (hfirst ▸ List.mem_cons_self)

/-- Heralded accesses may follow each other. -/
theorem Heralded.append (hxs : Heralded g xs) (hrest : Heralded g rest) :
    Heralded g (xs ++ rest) := by
  intro before n after heq
  rcases List.append_eq_append_iff.mp heq with ⟨middle, rfl, hafter⟩ | ⟨middle, hbefore, hafter⟩
  · exact (hrest middle n after hafter).imp (List.mem_append_right xs) id
  · cases middle with
    | nil =>
        rw [List.append_nil] at hbefore
        exact (hrest [] n after hafter.symm).imp (fun h => absurd h List.not_mem_nil) id
    | cons y middle =>
        obtain ⟨rfl, -⟩ := List.cons.inj hafter
        exact hxs before n middle hbefore

/-- What a call has to do next it does in this order. -/
theorem heralded_next (g h : Gateway) (x : Access) : Heralded h (x.next g) := by
  cases x with
  | unlist id =>
      simp only [next]
      cases g.deviceTask? id with
      | none => exact heralded_of_no_abort fun _ => List.not_mem_nil
      | some n => exact heralded_stopping id n
  | unlistAll =>
      simp only [next]
      induction g.devices with
      | nil => exact heralded_of_no_abort fun _ => List.not_mem_nil
      | cons entry entries ih => exact (heralded_stopping entry.1 entry.2).append ih
  | start id device chunk => exact heralded_of_no_abort fun n => by simp [next]
  | find id chunk => exact heralded_of_no_abort fun n => by simp [next]
  | findTank id chunk =>
      refine heralded_of_no_abort fun n => ?_
      cases hn : g.deviceTask? id <;> cases hdevice : g.config.device? id <;>
        simp [next, connecting, hn, hdevice]
  | silence | abort | detach | bind | enlist | send | offer =>
      exact heralded_of_no_abort fun _ => List.not_mem_nil

/-- The accesses of a call are heralded. -/
theorem heralded_accesses (g : Gateway) (config : Config) (c : Call) :
    Heralded g (c.accesses config) := by
  refine heralded_of_no_abort fun n => ?_
  cases c with
  | connect id => cases hdevice : config.device? id <;> simp [Call.accesses, connecting, hdevice]
  | disconnect | sendChunk | routeAdvertisement | shutdown => simp [Call.accesses]

/-- A change elsewhere makes no task live. -/
theorem Heralded.change (h : Heralded g xs) (x : Access) : Heralded (x.change g) xs :=
  fun before n after heq => (h before n after heq).imp id fun s => s.change x

/-- An access that has been made needs no herald, and what it was the herald of has been done. -/
theorem Heralded.tail (h : Heralded g (x :: rest)) (hknown : ∀ n, x = silence n → g.badge? n ≠ none) :
    Heralded (x.change g) rest := by
  intro before n after heq
  rcases h (x :: before) n after (congrArg (x :: ·) heq) with hmem | s
  · rcases List.mem_cons.mp hmem with rfl | hmem
    · exact Or.inr (Gateway.silenced_silence (hknown n rfl))
    · exact Or.inl hmem
  · exact Or.inr (s.change x)

/-- An abort that comes next is of a task that has been silenced. -/
theorem Heralded.head (h : Heralded g (x :: rest)) (n : Nat) (hx : x = abort n) : g.Silenced n := by
  subst hx
  exact (h [] n rest rfl).resolve_left List.not_mem_nil

end Access

/-! ## However the calls overlap -/

namespace Crowd

variable {c c' : Crowd} {turn : Turn} {turns : List Turn} {lost : List Nat}

/-- No call aborts a task that it has not silenced before. -/
def Heralded (c : Crowd) : Prop := ∀ pending ∈ c.calls, Access.Heralded c.gateway pending

/-- In every turn the accesses of the calls stay heralded. -/
theorem Heralded.step (h : c.Heralded) (accounted : c.Accounted lost)
    (hstep : c.step? turn = some c') : c'.Heralded := by
  intro pending hmem
  rcases step_cases hstep with
    ⟨call, -, rfl⟩ | ⟨k, x, rest, -, hk, -, rfl⟩ | ⟨move, -, hagrees, hcalls⟩
  · rcases List.mem_append.mp hmem with hmem | hmem
    · exact h pending hmem
    · rw [List.mem_singleton.mp hmem]
      exact Access.heralded_accesses c.gateway c.gateway.config call
  · rcases List.mem_or_eq_of_mem_set hmem with hmem | rfl
    · exact (h pending hmem).change x
    · have hcalled : (x :: rest) ∈ c.calls := List.mem_of_getElem? hk
      refine (Access.heralded_next c.gateway _ x).append ((h _ hcalled).tail fun n hx => ?_)
      -- a task that is to be silenced is still live
      have hkept : n ∈ c.kept := mem_kept_of_mem hcalled List.mem_cons_self (hx ▸ rfl)
      obtain ⟨id, hlive⟩ := (accounted.live_iff n).mp (List.mem_append_left _ hkept)
      rw [Gateway.liveFor_iff.mp hlive]
      exact Option.some_ne_none _
  · rw [hcalls] at hmem
    exact fun before n after heq =>
      (h pending hmem before n after heq).imp id hagrees.silenced_iff.mpr

/-- In every turn live tasks go on. -/
theorem going_step (going : c.gateway.Going) (h : c.Heralded) (hstep : c.step? turn = some c') :
    c'.gateway.Going := by
  rcases step_cases hstep with
    ⟨call, -, rfl⟩ | ⟨k, x, rest, -, hk, -, rfl⟩ | ⟨move, rfl, -⟩
  · exact going
  · exact going.change (h (x :: rest) (List.mem_of_getElem? hk)).head
  · unfold step? at hstep
    dsimp only at hstep
    split at hstep
    · cases hstep
    next hcall =>
      obtain ⟨m, hm, rfl⟩ := Option.map_eq_some_iff.mp hstep
      -- nobody beside the calls has an access to make
      have haccess : move ≠ .access := by
        rintro rfl
        cases hm
      exact Gateway.Going.beside (m := c.beside) going (Bool.eq_false_iff.mpr hcall) haccess hm

/-- From wherever they go on, they go on in a whole run. -/
theorem Heralded.going_run (h : c.Heralded) (going : c.gateway.Going) (accounted : c.Accounted lost)
    (hrun : c.run? turns = some c') : c'.gateway.Going := by
  induction turns generalizing c lost with
  | nil =>
      cases hrun
      exact going
  | cons turn turns ih =>
      obtain ⟨c₁, hstep, hrun⟩ := Option.bind_eq_some_iff.mp hrun
      exact ih (h.step accounted hstep) (going_step going h hstep) (accounted.step hstep) hrun

/-- However the calls overlap, live tasks go on. -/
theorem going_run {config : Config} {capacity : Nat} {suppressRepeats : Bool}
    (hrun : (start config capacity suppressRepeats).run? turns = some c) : c.gateway.Going := by
  have heralded : (start config capacity suppressRepeats).Heralded := fun _ hmem => by cases hmem
  exact heralded.going_run (Gateway.going_new config _)
    (accounted_start config capacity suppressRepeats) hrun

/-- The configuration of a gateway is never changed. -/
theorem config_run (hrun : c.run? turns = some c') : c'.gateway.config = c.gateway.config :=
  run?_preserves (P := fun c' => c'.gateway.config = c.gateway.config)
    (fun _ h hstep => (config_step hstep).trans h) rfl hrun

end Crowd

end SensorGateway
