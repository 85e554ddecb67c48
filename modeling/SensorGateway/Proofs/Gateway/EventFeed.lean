import Mathlib.Data.List.Induction
import SensorGateway.Proofs.Gateway.Emission
import SensorGateway.Proofs.Gateway.Tracking

/-!
# Events do not run ahead of the record

The application that has received an event may look at the last payload of its device, and finds
there what the event tells or what the same connection has told since, unless the device has been
stopped (`Moment.events_behind_record`).  And what it receives of a device is in the order in which
its sessions have told it: what is missing has found the queue full, or its session has been
stopped.

Each of this is an invariant of the moments of a run together with the log so far, and is shown move
by move.
-/

namespace SensorGateway

open Occurrence

/-- The session of a device in which this has been handled. -/
def Gateway.sessionAfter (g : Gateway) (device : DeviceConfig) (handled : List Handling) :
    DeviceSession :=
  ((g.newSession device).handleAll (handled.map Handling.input)).session

namespace Moment

variable {m m' : Moment} {move : Move} {moves : List Move} {log : List Occurrence} {n : Nat}
  {t t' : Task}

/-! ## Runs with their log -/

/-- A further move is made from where the earlier ones have led. -/
theorem run?_concat (m : Moment) (moves : List Move) (move : Move) :
    m.run? (moves ++ [move]) = (m.run? moves).bind fun m' => m'.step? move := by
  rw [run?_append]
  refine Option.bind_congr fun m' _ => ?_
  cases hstep : m'.step? move <;> simp [run?, hstep]

/-- What is written down of it comes behind what has been written down before. -/
theorem log_concat {m₀ : Moment} (hrun : m₀.run? moves = some m) (move : Move) :
    m₀.log (moves ++ [move]) = m₀.log moves ++ (m.occurrence? move).toList := by
  induction moves generalizing m₀ with
  | nil =>
      cases hrun
      rw [Moment.log, List.nil_append, journal]
      cases m.step? move <;> exact List.append_nil _
  | cons first moves ih =>
      obtain ⟨m₁, hstep, hrun⟩ := Option.bind_eq_some_iff.mp hrun
      rw [Moment.log, List.cons_append, journal_cons hstep, Moment.log, journal_cons hstep,
        List.append_assoc]
      exact congrArg _ (ih hrun)

/-- What holds at the start and is kept by the moves of a run, holds of its end and its log. -/
theorem log_induction {m₀ : Moment} {P : List Occurrence → Moment → Prop} (hstart : P [] m₀)
    (hstep : ∀ {moves m m' move}, m₀.run? moves = some m → P (m₀.log moves) m →
      m.step? move = some m' → P (m₀.log moves ++ (m.occurrence? move).toList) m')
    (hrun : m₀.run? moves = some m) : P (m₀.log moves) m := by
  induction moves using List.reverseRecOn generalizing m with
  | nil =>
      cases hrun
      exact hstart
  | append_singleton moves move ih =>
      rw [run?_concat] at hrun
      obtain ⟨m₁, hrun₁, hmove⟩ := Option.bind_eq_some_iff.mp hrun
      rw [log_concat hrun₁]
      exact hstep hrun₁ (ih hrun₁) hmove

/-! ## The queue -/

/-- Received or waiting is what has been queued; and no more wait than there is room for. -/
structure Feeds (log : List Occurrence) (m : Moment) : Prop where
  queue : queued log = receivedAll log ++ m.gateway.events
  room : m.gateway.events.length ≤ Gateway.eventCapacity
  waiting : ∀ e ∈ emissions log, e.waiting ≤ Gateway.eventCapacity

/-- In every move received and waiting stay what has been queued. -/
theorem Feeds.step (h : Feeds log m) (hstep : m.step? move = some m') :
    Feeds (log ++ (m.occurrence? move).toList) m' := by
  have hqueues := queues_step hstep
  obtain ⟨hroom, hwaiting⟩ := hqueues.room h.room
  refine ⟨?_, hroom, ?_⟩
  · rw [queued_append, receivedAll_append, h.queue, List.append_assoc, hqueues.events,
      List.append_assoc]
  · rw [emissions_append]
    exact List.forall_mem_append.mpr ⟨h.waiting, hwaiting⟩

/-! ## What a session has still to emit -/

/-- Of a task that is not there nothing happens to events. -/
theorem nothing_of_absent (habsent : m.gateway.task? n = none) (move : Move) :
    decodedBy n (m.occurrence? move).toList = [] ∧
      emittedBy n (m.occurrence? move).toList = [] := by
  cases move with
  | task k now =>
      by_cases hk : k = n
      · subst hk
        rw [occurrence?, habsent]
        exact ⟨rfl, rfl⟩
      · obtain ⟨hhandlings, hemitted⟩ := m.occurrence?_of_ne now hk
        rw [decodedBy, hhandlings]
        exact ⟨rfl, hemitted⟩
  | call | access | linger | offer | dispatch | receive => exact ⟨rfl, rfl⟩

/-- What a task has decoded it has emitted, but for the rest; and a live one is to emit the rest. -/
structure Owes (log : List Occurrence) (m : Moment) (n : Nat) (rest : List Event) : Prop where
  decoded : decodedBy n log = emittedBy n log ++ rest
  live : ∀ t, m.gateway.task? n = some t → t.live = true → rest = t.unsent
  absent : m.gateway.task? n = none → rest = []

/-- A task that has come into being has nothing to emit, and nothing has happened to events. -/
theorem started_settled (habsent : m.gateway.task? n = none) (hstep : m.step? move = some m')
    (ht' : m'.gateway.task? n = some t') :
    t'.unsent = [] ∧ t'.isSettled = true ∧
      decodedBy n (m.occurrence? move).toList = [] ∧
      emittedBy n (m.occurrence? move).toList = [] := by
  obtain ⟨-, -, -, -, -, rfl⟩ := started_of_absent habsent hstep ht'
  obtain ⟨hdecoded, hemitted⟩ := nothing_of_absent habsent move
  exact ⟨rfl, rfl, hdecoded, hemitted⟩

/-- A task that has been silenced emits nothing, since it does not hold its lock. -/
theorem emittedBy_of_silenced (locks : m.gateway.LocksLive) (hstep : m.step? move = some m')
    (ht' : m'.gateway.task? n = some t') (hsilent : t'.live = false) :
    emittedBy n (m.occurrence? move).toList = [] := by
  cases move with
  | task k now =>
      by_cases hk : k = n
      · subst hk
        obtain ⟨o, ho, rfl⟩ := Option.map_eq_some_iff.mp hstep
        cases ht : m.gateway.task? k with
        | none => exact (nothing_of_absent ht (.task k now)).2
        | some t =>
            have hbadge := (Gateway.agrees_advance ho).badge k
            rw [Gateway.badge?, Gateway.badge?, ht] at hbadge
            have hsame : t'.badge = t.badge := by
              rw [ht'] at hbadge
              exact Option.some.inj hbadge
            have hlive : t.live = false := (congrArg Prod.fst hsame).symm.trans hsilent
            rw [occurrence?, ht, Option.bind_some, Task.occurrence?]
            split
            · rfl
            next hphase =>
              have hlock := locks k t ht (by simp [Task.holdsLock, hphase])
              cases hlive.symm.trans hlock
            all_goals rfl
      · exact (m.occurrence?_of_ne now hk).2
  | call | access | linger | offer | dispatch | receive => rfl

/-- In every move a task goes on to owe what it has decoded and not emitted. -/
theorem exists_owes_step (h : ∃ rest, Owes log m n rest) (locks : m.gateway.LocksLive)
    (hstep : m.step? move = some m') :
    ∃ rest, Owes (log ++ (m.occurrence? move).toList) m' n rest := by
  obtain ⟨rest, h⟩ := h
  cases ht : m.gateway.task? n with
  | none =>
      obtain ⟨hdecoded, hemitted⟩ := nothing_of_absent ht move
      refine ⟨[], ?_, fun t' ht' _ => (started_settled ht hstep ht').1.symm, fun _ => rfl⟩
      rw [decodedBy_append, emittedBy_append, hdecoded, hemitted, h.decoded, h.absent ht]
  | some t =>
      obtain ⟨t', ht', -⟩ := advances_step hstep ht
      have hthere {rest : List Event} (habsent : m'.gateway.task? n = none) : rest = [] := by
        rw [ht'] at habsent
        cases habsent
      cases hlive : t'.live with
      | false =>
          refine ⟨rest ++ decodedBy n (m.occurrence? move).toList, ?_, fun t₁ ht₁ hlive₁ => ?_,
            hthere⟩
          · rw [decodedBy_append, emittedBy_append, emittedBy_of_silenced locks hstep ht' hlive,
              h.decoded, List.append_nil, List.append_assoc]
          · cases ht'.symm.trans ht₁
            cases hlive.symm.trans hlive₁
      | true =>
          have hpasses := passes_step hstep ht ht' hlive
          refine ⟨t'.unsent, ?_, fun t₁ ht₁ _ => ?_, hthere⟩
          · rw [decodedBy_append, emittedBy_append, h.decoded, h.live t ht hpasses.live,
              List.append_assoc, hpasses.events, List.append_assoc]
          · cases ht'.symm.trans ht₁
            rfl

/-! ## Whose the events are -/

/-- What a live task has still to emit is its own device's. -/
def Own (m : Moment) : Prop :=
  ∀ n t, m.gateway.task? n = some t → t.live = true →
    ∀ event ∈ t.unsent, event.device = t.session.device

/-- In no move does a task change its device. -/
theorem device_step (hstep : m.step? move = some m') (ht : m.gateway.task? n = some t)
    (ht' : m'.gateway.task? n = some t') : t'.session.device = t.session.device := by
  obtain ⟨t₁, ht₁, hadvances⟩ := advances_step hstep ht
  cases ht'.symm.trans ht₁
  exact hadvances.follows.device

/-- What a task decodes is its device's. -/
theorem Occurs.device_decodedBy {new : Option Occurrence} (h : m.Occurs new)
    (ht : m.gateway.task? n = some t) :
    ∀ event ∈ decodedBy n new.toList, event.device = t.session.device := by
  cases h with
  | nothing => exact List.forall_mem_nil _
  | received => exact List.forall_mem_nil _
  | emitted => exact List.forall_mem_nil _
  | @decoded k t₁ chunk now ht₁ =>
      rw [Option.toList_some, decodedBy, handlings_decoded]
      split
      next hk =>
        subst hk
        cases ht.symm.trans ht₁
        rw [List.flatMap_singleton]
        exact t.session.device_events_handle chunk now
      · exact List.forall_mem_nil _

/-- In every move what live tasks have to emit stays their own devices'. -/
theorem Own.step (h : m.Own) (hstep : m.step? move = some m') : m'.Own := by
  intro n t' ht' hlive event hevent
  cases ht : m.gateway.task? n with
  | none =>
      rw [(started_settled ht hstep ht').1] at hevent
      cases hevent
  | some t =>
      have hpasses := passes_step hstep ht ht' hlive
      rw [device_step hstep ht ht']
      have hmem : event ∈ t.unsent ++ decodedBy n (m.occurrence? move).toList := by
        rw [hpasses.events]
        exact List.mem_append_right _ hevent
      rcases List.mem_append.mp hmem with hmem | hmem
      · exact h n t ht hpasses.live event hmem
      · exact (m.occurs move).device_decodedBy ht event hmem

/-! ## The order of a device's events -/

/-- What has been emitted for a device is some of what has been decoded for it, in its order, and so
it will be when a live task has emitted the rest. -/
structure Orders (log : List Occurrence) (m : Moment) (id : String) : Prop where
  emitted : (emittedOf id log).Sublist (decodedOf id log)
  live : ∀ n t, m.gateway.task? n = some t → t.live = true → t.session.device = id →
    (emittedOf id log ++ t.unsent).Sublist (decodedOf id log)

/-- A task that is about to emit an event is live, and the event is one of its device. -/
theorem live_of_emitting {k : Nat} {event : Event} {rest : List Event}
    (locks : m.gateway.LocksLive) (own : m.Own) (ht : m.gateway.task? k = some t)
    (hphase : t.phase = .emitting (event :: rest)) :
    t.live = true ∧ t.unsent = event :: rest ∧ event.device = t.session.device := by
  have hlive : t.live = true := locks k t ht (by simp [Task.holdsLock, hphase])
  have hunsent : t.unsent = event :: rest := by simp only [Task.unsent, hphase]
  refine ⟨hlive, hunsent, own k t ht hlive event ?_⟩
  rw [hunsent]
  exact List.mem_cons_self

/-- What happens to events of a device with a live task, this task does. -/
theorem Occurs.of_live {new : Option Occurrence} (h : m.Occurs new) (orderly : m.gateway.Orderly)
    (locks : m.gateway.LocksLive) (own : m.Own) (ht : m.gateway.task? n = some t)
    (hlive : t.live = true) :
    emittedOf t.session.device new.toList = emittedBy n new.toList ∧
      (decodedBy n new.toList).Sublist (decodedOf t.session.device new.toList) := by
  have hdevice := h.device_decodedBy ht
  cases h with
  | nothing => exact ⟨rfl, List.Sublist.refl _⟩
  | received => exact ⟨rfl, List.Sublist.refl _⟩
  | @decoded k t₁ chunk now ht₁ =>
      refine ⟨rfl, ?_⟩
      by_cases hk : k = n
      · subst hk
        rw [Option.toList_some, decodedBy_decoded] at hdevice ⊢
        have hall := List.filter_eq_self.mpr fun event hevent =>
          decide_eq_true (hdevice event hevent)
        exact (decodedOf_decoded ..).trans hall ▸ List.Sublist.refl _
      · rw [Option.toList_some, decodedBy, handlings_decoded, if_neg hk]
        exact List.nil_sublist _
  | @emitted k t₁ event rest ht₁ hphase =>
      refine ⟨?_, List.nil_sublist _⟩
      obtain ⟨hlive₁, -, hevent⟩ := live_of_emitting locks own ht₁ hphase
      have hsame : event.device = t.session.device ↔ k = n := by
        constructor
        · intro h
          exact orderly.alone ⟨t₁, ht₁, hlive₁, hevent.symm.trans h⟩ ⟨t, ht, hlive, rfl⟩
        · rintro rfl
          cases ht.symm.trans ht₁
          exact hevent
      rw [Option.toList_some, emittedOf_emitted, emittedBy_emitted]
      simp only [hsame]

/-- In every move what is emitted for a device is what comes next of that which has been decoded for
it. -/
theorem Orders.emitted_step {id : String} (h : Orders log m id) (locks : m.gateway.LocksLive)
    (own : m.Own) (move : Move) :
    (emittedOf id (log ++ (m.occurrence? move).toList)).Sublist
      (decodedOf id (log ++ (m.occurrence? move).toList)) := by
  have hoccurs := m.occurs move
  generalize m.occurrence? move = new at hoccurs
  rw [emittedOf_append, decodedOf_append]
  have hlater {events : List Event} (hevents : events.Sublist (decodedOf id log)) :
      events.Sublist (decodedOf id log ++ decodedOf id new.toList) :=
    hevents.trans (List.sublist_append_left ..)
  have hquiet (hnone : emittedOf id new.toList = []) :
      (emittedOf id log ++ emittedOf id new.toList).Sublist
        (decodedOf id log ++ decodedOf id new.toList) := by
    rw [hnone, List.append_nil]
    exact hlater h.emitted
  cases hoccurs with
  | nothing => exact hquiet rfl
  | received => exact hquiet rfl
  | decoded => exact hquiet rfl
  | @emitted k t event rest ht hphase =>
      obtain ⟨hlive, hunsent, hdevice⟩ := live_of_emitting locks own ht hphase
      rw [Option.toList_some, emittedOf_emitted] at hquiet ⊢
      split
      next hid =>
        have hnext := h.live k t ht hlive (hdevice.symm.trans hid)
        rw [hunsent] at hnext
        refine hlater (List.Sublist.trans ?_ hnext)
        exact List.Sublist.append_left (List.singleton_sublist.mpr List.mem_cons_self) _
      next hid =>
        rw [if_neg hid] at hquiet
        exact hquiet rfl

/-- In every move events of a device are emitted in the order in which they were decoded. -/
theorem Orders.step {id : String} (h : Orders log m id) (orderly : m.gateway.Orderly)
    (locks : m.gateway.LocksLive) (own : m.Own) (hstep : m.step? move = some m') :
    Orders (log ++ (m.occurrence? move).toList) m' id where
  emitted := h.emitted_step locks own move
  live n t' ht' hlive hid := by
    cases ht : m.gateway.task? n with
    | none =>
        rw [(started_settled ht hstep ht').1, List.append_nil]
        exact h.emitted_step locks own move
    | some t =>
        have hpasses := passes_step hstep ht ht' hlive
        have hdevice : t.session.device = id := (device_step hstep ht ht').symm.trans hid
        obtain ⟨hemitted, hdecoded⟩ :=
          (m.occurs move).of_live orderly locks own ht hpasses.live
        rw [hdevice] at hemitted hdecoded
        rw [emittedOf_append, decodedOf_append, hemitted, List.append_assoc, ← hpasses.events,
          ← List.append_assoc]
        exact (h.live n t ht hpasses.live hdevice).append hdecoded

/-! ## Emissions -/

/-- An event is emitted by a live task, for its device. -/
def Bears (m : Moment) (e : Emission) : Prop :=
  e.live = true ∧ ∃ t, m.gateway.task? e.number = some t ∧ t.session.device = e.event.device

/-- Whoever has borne an event goes on to do so. -/
theorem bears_step {e : Emission} (h : m.Bears e) (hstep : m.step? move = some m') :
    m'.Bears e := by
  obtain ⟨hlive, t, ht, hdevice⟩ := h
  obtain ⟨t', ht', -⟩ := advances_step hstep ht
  exact ⟨hlive, t', ht', (device_step hstep ht ht').trans hdevice⟩

/-- What is emitted in a move is emitted by a live task, for its device. -/
theorem Occurs.bears {new : Option Occurrence} (h : m.Occurs new) (locks : m.gateway.LocksLive)
    (own : m.Own) : ∀ e ∈ emissions new.toList, m.Bears e := by
  cases h with
  | nothing => exact List.forall_mem_nil _
  | received => exact List.forall_mem_nil _
  | decoded => exact List.forall_mem_nil _
  | @emitted k t event rest ht hphase =>
      obtain ⟨hlive, -, hdevice⟩ := live_of_emitting locks own ht hphase
      exact List.forall_mem_singleton.mpr ⟨hlive, t, ht, hdevice.symm⟩

/-- All that is kept by every move. -/
structure Relays (log : List Occurrence) (m : Moment) : Prop where
  feeds : Feeds log m
  owes : ∀ n, ∃ rest, Owes log m n rest
  own : m.Own
  orders : ∀ id, Orders log m id
  bears : ∀ e ∈ emissions log, m.Bears e

/-- At the start nothing has been relayed. -/
theorem relays_start (config : Config) (capacity : Nat) (suppressRepeats : Bool) :
    Relays [] (start config capacity suppressRepeats) where
  feeds := ⟨rfl, Nat.zero_le _, List.forall_mem_nil _⟩
  owes _ := ⟨[], rfl, fun _ ht => (nomatch ht), fun _ => rfl⟩
  own _ _ ht := nomatch ht
  orders _ := ⟨List.Sublist.refl _, fun _ _ ht => nomatch ht⟩
  bears := List.forall_mem_nil _

/-- Every move relays events as it should, -/
theorem Relays.step (h : Relays log m) (upkept : m.Upkept) (hstep : m.step? move = some m') :
    Relays (log ++ (m.occurrence? move).toList) m' where
  feeds := h.feeds.step hstep
  owes n := exists_owes_step (h.owes n) upkept.locks hstep
  own := h.own.step hstep
  orders id := (h.orders id).step upkept.orderly upkept.locks h.own hstep
  bears := by
    rw [emissions_append]
    have hnew := (m.occurs move).bears upkept.locks h.own
    exact fun e he => bears_step ((List.mem_append.mp he).elim (h.bears e) (hnew e)) hstep

section run

variable {config : Config} {capacity : Nat} {suppressRepeats : Bool}
  (hrun : (start config capacity suppressRepeats).run? moves = some m)

include hrun

/-- and so does every run. -/
theorem relays_run : Relays ((start config capacity suppressRepeats).log moves) m := by
  refine log_induction (relays_start config capacity suppressRepeats) ?_ hrun
  intro moves m m' move hrun h hstep
  exact h.step ((upkept_start config capacity suppressRepeats).run hrun) hstep

/-- A session of a run is one in which all has been handled that is in the log. -/
theorem session_eq_sessionAfter (ht : m.gateway.task? n = some t) {device : DeviceConfig}
    (hdevice : m.gateway.config.device? t.session.device = some device) :
    let handled := handlings n ((start config capacity suppressRepeats).log moves)
    t.session = m.gateway.sessionAfter device handled ∧
      (decodedBy n ((start config capacity suppressRepeats).log moves) ≠ [] →
        t.session.record.updatedAt.isSome = true) := by
  intro handled
  have hstart := upkept_start config capacity suppressRepeats
  obtain ⟨device', hdevice', hfollows⟩ := exists_origin hstart rfl hrun ht
  have hconfig := config_run hrun
  rw [← hconfig] at hdevice'
  cases hdevice.symm.trans hdevice'
  rw [← Gateway.newSession_congr hconfig, ← handlings_log] at hfollows
  refine ⟨hfollows.session.symm, fun hdecoded => ?_⟩
  have htold := DeviceSession.told_handleAll (m.gateway.newSession device)
    (handled.map Handling.input)
  rcases htold with ⟨hnone, -⟩ | ⟨-, hchanged⟩
  · exact absurd (hfollows.events.symm.trans hnone) hdecoded
  · rw [← hfollows.session]
    exact hchanged

end run

/-! ## The last payload -/

/-- As far as events of a task have been emitted, they are of some of the first chunks that it has
handled; and the last payload is that of the session in which these have been handled. -/
def Shows (log : List Occurrence) (m : Moment) (n : Nat) (id : String) (device : DeviceConfig) :
    Prop :=
  ∃ k ≤ (handlings n log).length,
    emittedBy n log <+: ((handlings n log).take k).flatMap Handling.events ∧
      (emittedBy n log ≠ [] → ∀ now, m.gateway.publisher.lastKnown.find? id =
        some ((m.gateway.sessionAfter device ((handlings n log).take k)).record.payload id now))

section run

variable {config : Config} {capacity : Nat} {suppressRepeats : Bool}

/-- When nothing is left to be published, the last payload is that of the session. -/
theorem shows_of_settled (hrun : (start config capacity suppressRepeats).run? moves = some m)
    (ht : m.gateway.task? n = some t) (hlive : t.live = true) {device : DeviceConfig}
    (hdevice : m.gateway.config.device? t.session.device = some device)
    (htopics : device.topics ≠ []) (hsettled : t.isSettled = true) :
    Shows ((start config capacity suppressRepeats).log moves) m n t.session.device device := by
  obtain ⟨rest, hdecoded, -, -⟩ := (relays_run hrun).owes n
  obtain ⟨hsession, hchanged⟩ := session_eq_sessionAfter hrun ht hdevice
  refine ⟨_, Nat.le_refl _, ?_, fun hemitted now => ?_⟩
  · rw [List.take_length]
    exact ⟨rest, hdecoded.symm⟩
  · have upkept := (upkept_start config capacity suppressRepeats).run hrun
    have hshown := (upkept.tracks n t device ht hlive hdevice htopics).eq_payload? hsettled
    rw [List.take_length, ← hsession, hshown]
    refine Record.payload?_eq_some (hchanged ?_) _ now
    rw [hdecoded]
    exact List.append_ne_nil_of_left_ne_nil hemitted rest

/-- A move after which something is still to be published leaves alone what the application can
see. -/
theorem shows_step {id : String} {device : DeviceConfig} (upkept : m.Upkept)
    (h : Shows log m n id device) (hstep : m.step? move = some m')
    (ht : m.gateway.task? n = some t) (ht' : m'.gateway.task? n = some t') (hlive : t'.live = true)
    (hid : t'.session.device = id) (hsettled : t'.isSettled = false) :
    Shows (log ++ (m.occurrence? move).toList) m' n id device := by
  have hpasses := passes_step hstep ht ht' hlive
  have hknown : m'.gateway.publisher.lastKnown.find? id
      = m.gateway.publisher.lastKnown.find? id := by
    refine (lastKnown_step upkept hstep ⟨t', ht', hlive, hid⟩).resolve_right ?_
    rintro ⟨t₁, ht₁, hsettled₁⟩
    cases ht'.symm.trans ht₁
    cases hsettled.symm.trans hsettled₁
  have hsession (handled : List Handling) :
      m'.gateway.sessionAfter device handled = m.gateway.sessionAfter device handled := by
    rw [Gateway.sessionAfter, Gateway.newSession_congr (config_step hstep), Gateway.sessionAfter]
  obtain ⟨k, hk, hprefix, hpayload⟩ := h
  refine ⟨k, ?_, ?_, ?_⟩
  · rw [handlings_append, List.length_append]
    exact Nat.le_add_right_of_le hk
  · rw [emittedBy_append, hpasses.settled hsettled, List.append_nil, handlings_append,
      List.take_append_of_le_length hk]
    exact hprefix
  · rw [emittedBy_append, hpasses.settled hsettled, List.append_nil, handlings_append,
      List.take_append_of_le_length hk, hknown, hsession]
    exact hpayload

/-- In every run the last payload is at least as new as what has been emitted. -/
theorem shows_run (hrun : (start config capacity suppressRepeats).run? moves = some m) :
    ∀ n t device, m.gateway.task? n = some t → t.live = true →
      m.gateway.config.device? t.session.device = some device → device.topics ≠ [] →
      Shows ((start config capacity suppressRepeats).log moves) m n t.session.device device := by
  refine log_induction (P := fun log m => ∀ n t device, m.gateway.task? n = some t →
    t.live = true → m.gateway.config.device? t.session.device = some device →
      device.topics ≠ [] → Shows log m n t.session.device device)
    (fun _ _ _ ht => nomatch ht) ?_ hrun
  intro moves m m' move hrun h hstep n t' device ht' hlive hdevice htopics
  cases hsettled : t'.isSettled with
  | true =>
      have hrun' : (start config capacity suppressRepeats).run? (moves ++ [move]) = some m' := by
        rw [run?_concat, hrun]
        exact hstep
      rw [← log_concat hrun]
      exact shows_of_settled hrun' ht' hlive hdevice htopics hsettled
  | false =>
      cases ht : m.gateway.task? n with
      | none => cases hsettled.symm.trans (started_settled ht hstep ht').2.1
      | some t =>
          have hsame := device_step hstep ht ht'
          have hbefore : m.gateway.config.device? t.session.device = some device := by
            rw [← hsame, ← config_step hstep]
            exact hdevice
          have upkept := (upkept_start config capacity suppressRepeats).run hrun
          have hshows := h n t device ht (passes_step hstep ht ht' hlive).live hbefore htopics
          rw [hsame]
          exact shows_step upkept hshows hstep ht ht' hlive hsame hsettled

end run

/-! ## What the application can rely on -/

/-- What the application can rely on when so much has happened. -/
structure Feed (log : List Occurrence) (m : Moment) : Prop where
  /-- Of a device it has received some of what its sessions have told, in its order. -/
  order : ∀ id, ((receivedAll log).filter (·.device = id)).Sublist (decodedOf id log)
  /-- What a session has told it has emitted, but for what it has still to emit; if it has been
  stopped this is lost. -/
  told : ∀ n, ∃ rest, decodedBy n log = emittedBy n log ++ rest ∧
    ∀ t, m.gateway.task? n = some t → t.live = true → rest = t.unsent
  /-- What has been emitted has been received or is waiting, but for what has found the queue
  full. -/
  queue : receivedAll log ++ m.gateway.events = queued log
  full : ∀ e ∈ emissions log, e.isQueued = false → e.waiting = Gateway.eventCapacity
  /-- If the device of an event that has been emitted has topics, it has been stopped since, or the
  last payload is that of a session which has handled the chunk that the event has come of. -/
  behind : ∀ e ∈ emissions log, ∀ device, m.gateway.config.device? e.event.device = some device →
    device.topics ≠ [] → e.live = true ∧
      ∃ t, m.gateway.task? e.number = some t ∧ t.session.device = e.event.device ∧
        (t.live = false ∨ ∃ k ≤ (handlings e.number log).length,
          emittedBy e.number log <+: ((handlings e.number log).take k).flatMap Handling.events ∧
            ∀ now, m.gateway.publisher.lastKnown.find? e.event.device = some
              ((m.gateway.sessionAfter device ((handlings e.number log).take k)).record.payload
                e.event.device now))

/-- What is received of a device are some of the events that have been decoded for it, in their
order. -/
theorem Relays.order (h : Relays log m) (id : String) :
    ((receivedAll log).filter (·.device = id)).Sublist (decodedOf id log) := by
  have hqueued : (receivedAll log).Sublist ((emissions log).map Emission.event) := by
    calc (receivedAll log).Sublist (queued log) := by
          rw [h.feeds.queue]
          exact List.sublist_append_left ..
      (queued log).Sublist ((emissions log).map Emission.event) :=
          List.filter_sublist.map Emission.event
  exact (hqueued.filter _).trans (h.orders id).emitted

/-- What has been emitted has been emitted by its task. -/
theorem mem_emittedBy {e : Emission} (he : e ∈ emissions log) :
    e.event ∈ emittedBy e.number log :=
  List.mem_map_of_mem (List.mem_filter.mpr ⟨he, decide_eq_true rfl⟩)

/-- **Events do not run ahead of the record.**  This holds at every moment of every run, in which
tasks, calls one after another, the dispatcher and the application take turns as they like. -/
theorem events_behind_record {config : Config} {capacity : Nat} {suppressRepeats : Bool}
    (hrun : (start config capacity suppressRepeats).run? moves = some m) :
    Feed ((start config capacity suppressRepeats).log moves) m := by
  have h := relays_run hrun
  refine ⟨h.order, fun n => ?_, h.feeds.queue.symm, fun e he hlost => ?_,
    fun e he device hdevice htopics => ?_⟩
  · obtain ⟨rest, hdecoded, hlive, -⟩ := h.owes n
    exact ⟨rest, hdecoded, hlive⟩
  · have hfull : ¬ e.waiting < Gateway.eventCapacity := of_decide_eq_false hlost
    have hle := h.feeds.waiting e he
    omega
  · obtain ⟨hlive, t, ht, hid⟩ := h.bears e he
    refine ⟨hlive, t, ht, hid, ?_⟩
    cases hstopped : t.live with
    | false => exact Or.inl rfl
    | true =>
        rw [← hid] at hdevice ⊢
        obtain ⟨k, hk, hprefix, hpayload⟩ := shows_run hrun _ t device ht hstopped hdevice htopics
        exact Or.inr ⟨k, hk, hprefix, hpayload (List.ne_nil_of_mem (mem_emittedBy he))⟩

/-- Of two names in one chunk the first has been received and the second is waiting; of a third one
the battery is stopped before it is emitted. -/
theorem events_behind_record_stopped :
    let battery : BatteryConfig :=
      { id := "battery", bleName := "", lowSocThreshold := none, topics := ["topic"]
        pollIntervalMs := 1000 }
    let config : Config := { batteries := [battery] }
    let first : Bytes := [0xDD, 0x05, 0x00, 0x01, 0x41, 0xFF, 0xBE, 0x77]
    let second : Bytes := [0xDD, 0x05, 0x00, 0x01, 0x42, 0xFF, 0xBD, 0x77]
    let step : Move := .task 0 ⟨0, 0⟩
    let moves : List Move :=
      .call (.connect "battery") :: List.replicate 4 .access ++
        .offer 0 (first ++ second) :: List.replicate 5 step ++ [.receive 8, step, .offer 0 first] ++
        List.replicate 2 step ++ .call (.disconnect "battery") :: List.replicate 4 .access ++ [step]
    let log := (start config 1 true).log moves
    ∃ m, (start config 1 true).run? moves = some m ∧ (receivedAll log).length = 1 ∧
      m.gateway.events.length = 1 ∧ (emittedBy 0 log).length = 2 ∧ (decodedBy 0 log).length = 3 ∧
      Feed log m := by
  intro battery config first second step moves log
  have hsome : ((start config 1 true).run? moves).isSome = true := by decide +kernel
  obtain ⟨m, hrun⟩ := Option.isSome_iff_exists.mp hsome
  have hwaiting : ((start config 1 true).run? moves).map (·.gateway.events.length) = some 1 := by
    decide +kernel
  rw [hrun] at hwaiting
  exact ⟨m, hrun, by decide +kernel, Option.some.inj hwaiting, by decide +kernel, by decide +kernel,
    events_behind_record hrun⟩

end Moment

end SensorGateway
