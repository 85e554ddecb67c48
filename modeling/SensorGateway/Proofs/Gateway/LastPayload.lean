import SensorGateway.Proofs.Gateway.Disconnect
import SensorGateway.Proofs.Gateway.Proceeding
import SensorGateway.Proofs.Session.Stream

/-!
# The last payload is kept up to date

A task publishes what its session knows of a device only when a chunk has told something, and only
then has the record changed.  So whenever nothing is left to be published, the last payload that the
publisher has of the device is that of the record, and there is none if the record was never changed
(`Gateway.Tracks`).

For this a payload that an earlier session has left behind must be gone when a new one starts.  It
is: as long as a payload is known, the device has a live task or is about to be detached
(`Gateway.Knows`), and a task is started at the end of a call, when no other is live for the device.
-/

namespace SensorGateway

/-- The payload of a record that has been changed. -/
def Record.payload? (r : Record) (device : String) : Option Json :=
  r.updatedAt.map (r.payload device)

/-- The payload of a record that has been changed does not depend on the time at which it is made.
-/
theorem Record.payload?_eq_some {r : Record} (h : r.updatedAt.isSome = true) (device : String)
    (now : Instant) : r.payload? device = some (r.payload device now) := by
  obtain ⟨changed, hchanged⟩ := Option.isSome_iff_exists.mp h
  rw [payload?, hchanged, Option.map_some, r.payload_of_updatedAt hchanged device changed now]

/-- Nothing that has come of a chunk is still to be published. -/
def Task.isSettled (t : Task) : Bool :=
  match t.phase with
  | .waiting | .decoding _ | .emitting _ => true
  | .reporting _ | .publishing _ | .ended => false

/-- This is the last payload that is known of the device, unless the task has something else to
publish. -/
def Task.Shown (t : Task) (known : Option Json) : Prop :=
  match t.phase with
  | .waiting | .decoding _ | .emitting _ => known = t.session.record.payload? t.session.device
  | .reporting _ | .publishing _ => t.session.record.updatedAt.isSome = true
  | .ended => True

namespace Gateway

/-- Of a device with topics and a live task the publisher knows what the task has shown. -/
def Tracks (g : Gateway) : Prop :=
  ∀ n t device, g.task? n = some t → t.live = true →
    g.config.device? t.session.device = some device → device.topics ≠ [] →
    t.Shown (g.publisher.lastKnown.find? t.session.device)

/-- A device of which a payload is known has a live task, or is about to be detached. -/
def Knows (g : Gateway) (pending : List Access) : Prop :=
  ∀ id, (g.publisher.lastKnown.find? id).isSome = true →
    (∃ n, g.LiveFor n id) ∨ .detach id ∈ pending

end Gateway

/-! ## What a task shows -/

namespace Task

/-- What is known of a device is the payload of the record when nothing is left to be published. -/
theorem Shown.eq_payload? {t : Task} {known : Option Json} (h : t.Shown known)
    (hsettled : t.isSettled = true) : known = t.session.record.payload? t.session.device := by
  unfold Shown at h
  unfold isSettled at hsettled
  cases hphase : t.phase with
  | waiting | decoding | emitting => simpa only [hphase] using h
  | reporting | publishing | ended =>
      rw [hphase] at hsettled
      cases hsettled

/-- Whatever the first task has shown, the second has shown as well. -/
structure Keeps (t t' : Task) : Prop where
  badge : t'.badge = t.badge
  shown : ∀ known, t.Shown known → t'.Shown known

variable {t t' : Task}

/-- A task that only has other chunks, or is aborted, has shown the same. -/
theorem Keeps.of_same (hphase : t'.phase = t.phase) (hsession : t'.session = t.session)
    (hlive : t'.live = t.live) : t.Keeps t' where
  badge := by simp only [Task.badge, hlive, hsession]
  shown known := by
    unfold Shown
    rw [hphase, hsession]
    exact id

/-- A task keeps what it has shown as long as nothing happens to it. -/
theorem Keeps.refl (t : Task) : t.Keeps t := .of_same rfl rfl rfl

/-- A task that has ended has nothing to show. -/
theorem keeps_finish (t : Task) : t.Keeps t.finish := ⟨rfl, fun _ _ => trivial⟩

/-- Taking a chunk shows nothing new. -/
theorem keeps_takeChunk (hphase : t.phase = .waiting) : t.Keeps t.takeChunk := by
  unfold takeChunk
  split
  · exact .refl t
  · refine ⟨rfl, fun known hshown => ?_⟩
    simp only [Shown, hphase] at hshown ⊢
    exact hshown

/-- Neither does taking one or finding that there is an end, -/
theorem keeps_take (hphase : t.phase = .waiting) : t.Keeps t.take := by
  unfold take
  split
  · exact t.keeps_finish
  · exact keeps_takeChunk hphase

/-- nor lingering, -/
theorem keeps_linger (t : Task) : t.Keeps t.linger := by
  unfold linger
  split
  next hphase => exact keeps_takeChunk hphase
  all_goals exact .refl t

/-- nor looking whether to report, -/
theorem keeps_check {events : List Event} (hphase : t.phase = .reporting events) :
    t.Keeps (t.check events) := by
  unfold check
  split
  · refine ⟨rfl, fun known hshown => ?_⟩
    simp only [Shown, hphase] at hshown ⊢
    exact hshown
  · exact t.keeps_finish

/-- nor emitting an event. -/
theorem keeps_goOn {events : List Event} (hphase : t.phase = .emitting events)
    (rest : List Event) : t.Keeps (t.goOn rest) := by
  refine ⟨rfl, fun known hshown => ?_⟩
  simp only [Shown, hphase] at hshown
  rcases t.goOn_cases rest with h | h <;> rw [h] <;> exact hshown

/-- A chunk has told nothing, or the record has changed. -/
theorem keeps_decode {chunk : Bytes} (hphase : t.phase = .decoding chunk) (now : Instant) :
    t.Keeps (t.decode chunk now).1 := by
  refine ⟨t.badge_decode chunk now, fun known hshown => ?_⟩
  have htold := t.session.told_handle chunk now
  simp only [Shown, hphase] at hshown
  unfold decode
  rcases htold with ⟨hnone, hrecord⟩ | ⟨hsome, hchanged⟩
  · simp only [Shown, hnone, List.isEmpty_nil, if_true, hrecord, DeviceSession.device_handle]
    exact hshown
  · have hevents : (t.session.handle chunk now).events.isEmpty = false := by
      rw [List.isEmpty_eq_false_iff]
      exact hsome
    simp only [Shown, hevents, Bool.false_eq_true, if_false]
    exact hchanged

end Task

namespace Gateway

variable {g h : Gateway} {n k : Nat} {id : String} {rest : List Access}

/-- What tasks have shown stays known when one of them changes in such a way. -/
theorem Tracks.modifyTask (s : g.Tracks) {f : Task → Task}
    (hf : ∀ t, g.task? k = some t → t.Keeps (f t)) : (g.modifyTask k f).Tracks := by
  intro n t device ht hlive hdevice htopics
  rw [task?_modifyTask] at ht
  split at ht
  next heq =>
    subst heq
    obtain ⟨t₀, ht₀, rfl⟩ := Option.map_eq_some_iff.mp ht
    have hkeeps := hf t₀ ht₀
    have hdevice₀ : (f t₀).session.device = t₀.session.device := congrArg Prod.snd hkeeps.badge
    rw [hdevice₀] at hdevice ⊢
    refine hkeeps.shown _ (s k t₀ device ht₀ ?_ hdevice htopics)
    rw [← hlive]
    exact (congrArg Prod.fst hkeeps.badge).symm
  · exact s n t device ht hlive hdevice htopics

/-- A chunk that is put into a queue leaves it so. -/
theorem Tracks.push (s : g.Tracks) (k : Nat) (chunk : Bytes) : (g.push k chunk).2.Tracks := by
  rcases g.push_eq k chunk with h | h
  · rw [h]
    exact s
  · rw [h]
    exact s.modifyTask fun t _ => .of_same rfl rfl rfl

/-- A new session has nothing to show, and nothing is known of its device. -/
theorem Tracks.start (s : g.Tracks) {session : DeviceSession}
    (hnew : session.record.updatedAt = none)
    (hknown : g.publisher.lastKnown.find? session.device = none) : (g.start session).Tracks := by
  intro n t device ht hlive hdevice htopics
  rw [task?_start] at ht
  split at ht
  · cases ht
    have hpayload : session.record.payload? session.device = none := by
      rw [Record.payload?, hnew, Option.map_none]
    exact hknown.trans hpayload.symm
  · exact s n t device ht hlive hdevice htopics

/-- The record of a new session has not been changed. -/
theorem updatedAt_newSession (g : Gateway) (device : DeviceConfig) :
    (g.newSession device).record.updatedAt = none := by
  cases device <;> rfl

/-- Of a device that is detached no payload is known, and of the others what was known. -/
theorem lastKnown_detach (g : Gateway) (id other : String) :
    (g.detach id).publisher.lastKnown.find? other =
      if other = id then none else g.publisher.lastKnown.find? other :=
  KeyMap.find?_erase g.publisher.lastKnown id other

/-- A device without a live task may be detached. -/
theorem Tracks.detach (s : g.Tracks) (hnone : ∀ n, ¬ g.LiveFor n id) : (g.detach id).Tracks := by
  intro n t device ht hlive hdevice htopics
  have hother : t.session.device ≠ id := fun heq => hnone n ⟨t, ht, hlive, heq⟩
  rw [lastKnown_detach, if_neg hother]
  exact s n t device ht hlive hdevice htopics

/-- Every access leaves known what live tasks have shown. -/
theorem Tracks.change {x : Access} (s : g.Tracks) (knows : g.Knows (x :: rest))
    (hready : x.Ready g rest) : (x.change g).Tracks := by
  cases x with
  | silence k =>
      intro n t device ht hlive hdevice htopics
      rw [Access.change, task?_silence] at ht
      split at ht
      · obtain ⟨t₀, -, rfl⟩ := Option.map_eq_some_iff.mp ht
        cases hlive
      · exact s n t device ht hlive hdevice htopics
  | abort k => exact s.modifyTask fun t _ => .of_same rfl rfl rfl
  | detach id => exact s.detach hready
  | bind id topics =>
      simp only [Access.change, bind]
      split <;> exact s
  | start id device chunk =>
      obtain ⟨rfl, hdevice, hnone, -⟩ := hready
      refine s.start (g.updatedAt_newSession device) ?_
      rw [device_newSession g hdevice]
      refine Option.not_isSome_iff_eq_none.mp fun hknown => ?_
      rcases knows id hknown with ⟨n, hlive⟩ | hpending
      · exact hnone n hlive
      · cases List.mem_singleton.mp hpending
  | send k chunk => exact s.push k chunk
  | offer k chunk => exact s.push k chunk
  | unlist | unlistAll | enlist | find | findTank => exact s

/-- When a task publishes, its record becomes what is known. -/
theorem Tracks.publish {t : Task} {events : List Event} {now : Instant} (s : g.Tracks)
    (orderly : g.Orderly) (ht : g.task? k = some t) (hlive : t.live = true)
    (hphase : t.phase = .publishing events) :
    ({ g with
        publisher := (g.publisher.publish t.session.device t.session.record now).publisher
      }.modifyTask k fun t => { t with phase := .emitting events }).Tracks := by
  intro n t' device ht' hlive' hdevice htopics
  rw [task?_modifyTask] at ht'
  split at ht'
  next heq =>
    subst heq
    obtain ⟨t₀, ht₀, rfl⟩ := Option.map_eq_some_iff.mp ht'
    cases ht.symm.trans ht₀
    have hchanged := s k t device ht hlive hdevice htopics
    simp only [Task.Shown, hphase] at hchanged
    have hbound := orderly.bound ⟨t, ht, hlive, rfl⟩ hdevice htopics
    have hshown := Publisher.lastKnown_publish_self hbound t.session.record now
    exact hshown.trans (Record.payload?_eq_some hchanged _ now).symm
  next hne =>
    -- another live task is another device's
    have hother : t'.session.device ≠ t.session.device := fun heq =>
      hne (orderly.alone ⟨t, ht, hlive, rfl⟩ ⟨t', ht', hlive', heq⟩)
    have hsame := g.publisher.lastKnown_publish_of_ne hother t.session.record now
    have hshown := s n t' device ht' hlive' hdevice htopics
    rw [← hsame] at hshown
    exact hshown

/-- Every step of a task leaves known what live tasks have shown. -/
theorem Tracks.advance {now : Instant} {o : Outcome Unit} (s : g.Tracks) (orderly : g.Orderly)
    (locks : g.LocksLive) (ho : g.advance k now = some o) : o.gateway.Tracks := by
  obtain ⟨t, ht, hstep⟩ := advance_eq_some_iff.mp ho
  have hsame {t' : Task} (ht' : g.task? k = some t') : t' = t :=
    Option.some.inj (ht'.symm.trans ht)
  cases hstep with
  | take hphase =>
      exact s.modifyTask fun t' ht' => Task.keeps_take (hsame ht' ▸ hphase)
  | decode hphase =>
      refine s.modifyTask fun t' ht' => ?_
      rw [hsame ht']
      exact Task.keeps_decode hphase now
  | check hphase =>
      exact s.modifyTask fun t' ht' => Task.keeps_check (hsame ht' ▸ hphase)
  | publish hphase =>
      exact s.publish orderly ht (locks k t ht (by simp [Task.holdsLock, hphase])) hphase
  | emit hphase =>
      exact Tracks.modifyTask (g := g.emit _) s fun t' ht' =>
        Task.keeps_goOn (hsame ht' ▸ hphase) _

/-! ## Of whom a payload is known -/

/-- What is known stays, and who was live is live. -/
theorem Knows.of_live {x : Access} {more : List Access} (knows : g.Knows (x :: rest))
    (hx : ∀ id, x ≠ .detach id) (hknown : h.publisher.lastKnown = g.publisher.lastKnown)
    (hlive : ∀ n id, g.LiveFor n id → h.LiveFor n id) : h.Knows (more ++ rest) := by
  intro id hid
  rw [hknown] at hid
  rcases knows id hid with ⟨n, hn⟩ | hpending
  · exact Or.inl ⟨n, hlive n id hn⟩
  · rcases List.mem_cons.mp hpending with heq | hmem
    · exact absurd heq.symm (hx id)
    · exact Or.inr (List.mem_append_right more hmem)

/-- Whoever agrees with a gateway, and knows the same payloads, knows no others. -/
theorem Knows.of_agrees (knows : g.Knows rest) (a : g.Agrees h)
    (hknown : h.publisher.lastKnown = g.publisher.lastKnown) : h.Knows rest := by
  intro id hid
  rw [hknown] at hid
  rcases knows id hid with ⟨n, hn⟩ | hpending
  · exact Or.inl ⟨n, a.liveFor_iff.mpr hn⟩
  · exact Or.inr hpending

/-- A task may be silenced if its device will be detached. -/
theorem Knows.silence (knows : g.Knows (.silence k :: rest))
    (hleaves : ∀ id, g.LiveFor k id → .detach id ∈ rest) : (g.silence k).Knows rest := by
  intro id hid
  rcases knows id hid with ⟨n, hn⟩ | hpending
  · by_cases hk : k = n
    · subst hk
      exact Or.inr (hleaves id hn)
    · exact Or.inl ⟨n, liveFor_silence.mpr ⟨hk, hn⟩⟩
  · rcases List.mem_cons.mp hpending with heq | hmem
    · cases heq
    · exact Or.inr hmem

/-- A device that has been detached is not known any more. -/
theorem Knows.detach (knows : g.Knows (.detach id :: rest)) : (g.detach id).Knows rest := by
  intro other hother
  rw [lastKnown_detach] at hother
  split at hother
  · cases hother
  next hne =>
    refine (knows other hother).imp_right fun hpending => ?_
    rcases List.mem_cons.mp hpending with heq | hmem
    · cases heq
      exact absurd rfl hne
    · exact hmem

/-- After each access the payloads that are known are those of live tasks, or of devices about to be
detached. -/
theorem Knows.change {x : Access} (knows : g.Knows (x :: rest)) (hready : x.Ready g rest) :
    (x.change g).Knows (x.next g ++ rest) := by
  cases x with
  | silence k => exact knows.silence hready.2
  | detach id => exact knows.detach
  | abort k =>
      exact knows.of_live (by simp) rfl fun n id => (agrees_abort g k).liveFor_iff.mpr
  | bind id topics =>
      refine knows.of_live (by simp) ?_ fun n id => liveFor_bind.mpr
      simp only [Access.change, bind]
      split <;> rfl
  | start id device chunk =>
      exact knows.of_live (by simp) rfl fun n id hn => liveFor_start.mpr (Or.inr hn)
  | send k chunk =>
      exact knows.of_live (by simp) (congrArg _ (publisher_push g k chunk)) fun n id =>
        (agrees_push g k chunk).liveFor_iff.mpr
  | offer k chunk =>
      exact knows.of_live (by simp) (congrArg _ (publisher_push g k chunk)) fun n id =>
        (agrees_push g k chunk).liveFor_iff.mpr
  | unlist | unlistAll | enlist | find | findTank =>
      exact knows.of_live (by simp) rfl fun n id hn => hn

/-- Only of the device of a live task does the publisher come to know more. -/
theorem Knows.advance {now : Instant} {o : Outcome Unit} (knows : g.Knows rest)
    (locks : g.LocksLive) (ho : g.advance k now = some o) : o.gateway.Knows rest := by
  have hagrees := agrees_advance ho
  obtain ⟨t, ht, hstep⟩ := advance_eq_some_iff.mp ho
  cases hstep with
  | publish hphase =>
      intro id hid
      have hlive : t.live = true := locks k t ht (by simp [Task.holdsLock, hphase])
      by_cases hdevice : id = t.session.device
      · exact Or.inl ⟨k, hagrees.liveFor_iff.mpr ⟨t, ht, hlive, hdevice.symm⟩⟩
      · have hsame := g.publisher.lastKnown_publish_of_ne hdevice t.session.record now
        rcases knows id (hsame ▸ hid) with ⟨n, hn⟩ | hpending
        · exact Or.inl ⟨n, hagrees.liveFor_iff.mpr hn⟩
        · exact Or.inr hpending
  | take | decode | check | emit => exact knows.of_agrees hagrees rfl

end Gateway

/-! ## Every moment of a run -/

namespace Moment

/-- The last payloads are kept up to date, also while a call is under way. -/
structure Upkept (m : Moment) : Prop extends m.Sound where
  orderly : m.gateway.Orderly
  proceeds : Proceeds m.gateway m.pending
  knows : m.gateway.Knows m.pending
  tracks : m.gateway.Tracks

/-- At the start nothing is known and nothing has been shown. -/
theorem upkept_start (config : Config) (capacity : Nat) (suppressRepeats : Bool) :
    (start config capacity suppressRepeats).Upkept where
  toSound := sound_start config capacity suppressRepeats
  orderly := (Gateway.aligned_new config capacity suppressRepeats).orderly
  proceeds := .done _
  knows id hknown := by cases hknown
  tracks n t device ht := by simp [start, Gateway.task?, Gateway.new] at ht

variable {m m' : Moment} {move : Move} {moves : List Move} {n : Nat}

/-- What is none of a call's keeps what is known and shown. -/
theorem Upkept.beside (h : m.Upkept) (hcall : move.isCall = false) (haccess : move ≠ .access)
    (hstep : m.step? move = some m') : m'.gateway.Knows m'.pending ∧ m'.gateway.Tracks := by
  obtain ⟨hagrees, hpending⟩ := agrees_step hcall haccess hstep
  rw [hpending]
  cases move with
  | call c => cases hcall
  | access => exact absurd rfl haccess
  | task k now =>
      obtain ⟨o, ho, rfl⟩ := Option.map_eq_some_iff.mp hstep
      exact ⟨h.knows.advance h.locks ho, h.tracks.advance h.orderly h.locks ho⟩
  | linger k =>
      cases hstep
      exact ⟨h.knows.of_agrees hagrees rfl, h.tracks.modifyTask fun t _ => t.keeps_linger⟩
  | offer k chunk =>
      cases hstep
      refine ⟨h.knows.of_agrees hagrees ?_, h.tracks.push k chunk⟩
      exact congrArg _ (m.gateway.publisher_push k chunk)
  | dispatch sink =>
      obtain ⟨d, hd, rfl⟩ := Option.map_eq_some_iff.mp hstep
      have hsame := (Publisher.knowsSame_step hd).lastKnown
      refine ⟨h.knows.of_agrees hagrees hsame, fun n t device ht hlive hdevice htopics => ?_⟩
      rw [hsame]
      exact h.tracks n t device ht hlive hdevice htopics
  | receive =>
      cases hstep
      exact ⟨h.knows.of_agrees hagrees rfl, h.tracks⟩

/-- Every move keeps the last payloads up to date, -/
theorem Upkept.step (h : m.Upkept) (hstep : m.step? move = some m') : m'.Upkept := by
  have hsound := h.toSound.step hstep
  rcases step_cases hstep with
    ⟨c, -, idle, rfl⟩ | ⟨x, rest, -, hpending, -, rfl⟩ | ⟨hcall, haccess, hagrees, hpending⟩
  · refine ⟨hsound, h.orderly, proceeds_accesses (h.aligned idle) c, fun id hid => ?_, h.tracks⟩
    refine (h.knows id hid).imp_right fun hpending => ?_
    rw [idle] at hpending
    cases hpending
  · have hproceeds := h.proceeds
    have hknows := h.knows
    rw [hpending] at hproceeds hknows
    cases hproceeds with
    | access hready hrest =>
        exact ⟨hsound, h.orderly.change hready, hrest, hknows.change hready,
          h.tracks.change hknows hready⟩
  · obtain ⟨hknows, htracks⟩ := h.beside hcall haccess hstep
    refine ⟨hsound, h.orderly.of_agrees hagrees, ?_, hknows, htracks⟩
    rw [hpending]
    exact h.proceeds.of_agrees hagrees

/-- and so they are in every run. -/
theorem Upkept.run (h : m.Upkept) (hrun : m.run? moves = some m') : m'.Upkept :=
  run?_preserves (fun _ => Upkept.step) h hrun

end Moment

end SensorGateway
