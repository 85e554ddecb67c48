import SensorGateway.Proofs.Bus.Traffic

/-!
# The queue in its history

Every envelope leaves four traces: a call queues it, the dispatcher takes it, looks whether it is
current, and, if it is, hands it to the sink, which answers in the end.  `Traffic.InOrder` says that
each of these sequences is the one before it without its last few entries, and where those are: they
wait in the queue, have just been taken, or are with the sink.

All of the steps of a call, but for one, leave the queue as it is (`Errand.Step.effect`).
-/

namespace SensorGateway

/-! ## What an incident tells -/

namespace Incident

/-- The device that is bound or detached. -/
def rebound? : Incident → Option String
  | bound device _ | unbound device => some device
  | _ => none

/-- The binding that is made. -/
def binding? : Incident → Option Binding
  | bound _ b => some b
  | _ => none

/-- The envelope that goes into the queue, with the call that puts it there. -/
def queued? : Incident → Option (Nat × Envelope)
  | queued call e => some (call, e)
  | _ => none

/-- The envelope that is lost, with the call that loses it. -/
def lost? : Incident → Option (Nat × Envelope)
  | lost call e => some (call, e)
  | _ => none

/-- The envelope that leaves the queue. -/
def taken? : Incident → Option Envelope
  | taken e => some e
  | _ => none

/-- The envelope that the dispatcher looks at, and whether it finds it current. -/
def looked? : Incident → Option (Envelope × Bool)
  | handed e => some (e, true)
  | discarded e => some (e, false)
  | _ => none

/-- The envelope that the sink is handed. -/
def handed? : Incident → Option Envelope
  | handed e => some e
  | _ => none

/-- The envelope that the sink is done with. -/
def answered? : Incident → Option Envelope
  | offered e _ r _ _ => if r = .blocked then none else some e
  | _ => none

/-- Whether this is the dispatcher's. -/
def isDispatchers : Incident → Bool
  | taken _ | handed _ | discarded _ | offered _ _ _ _ _ | reported _ => true
  | bound _ _ | forgiven _ | unbound _ | found _ _ _ _ | missed _ _ | noted _ _ _ | queued _ _
  | cleared _ _ | lost _ _ | raised _ _ _ | refused _ _ | told _ _ | parted _ _ => false

/-- The dispatcher neither makes bindings nor ends them, and neither queues envelopes nor loses
them. -/
theorem of_isDispatchers {i : Incident} (h : i.isDispatchers = true) :
    i.binding? = none ∧ i.rebound? = none ∧ i.queued? = none ∧ i.lost? = none := by
  cases i with
  | taken | handed | discarded | offered | reported => exact ⟨rfl, rfl, rfl, rfl⟩
  | _ => cases h

end Incident

namespace History

/-- What the incidents tell of one thing. -/
def collect {α : Type} (tells : Incident → Option α) (h : History) : List α := h.filterMap tells

/-- The bindings that were made. -/
abbrev bindings (h : History) : List Binding := h.collect Incident.binding?

/-- The envelopes that went into the queue, with their calls. -/
abbrev queued (h : History) : List (Nat × Envelope) := h.collect Incident.queued?

/-- The envelopes that were lost, with their calls. -/
abbrev lost (h : History) : List (Nat × Envelope) := h.collect Incident.lost?

/-- The envelopes that left the queue. -/
abbrev taken (h : History) : List Envelope := h.collect Incident.taken?

/-- The envelopes that the dispatcher looked at, and whether it found them current. -/
abbrev looked (h : History) : List (Envelope × Bool) := h.collect Incident.looked?

/-- The envelopes that were handed to the sink. -/
abbrev handed (h : History) : List Envelope := h.collect Incident.handed?

/-- The envelopes that the sink is done with. -/
abbrev answered (h : History) : List Envelope := h.collect Incident.answered?

variable {α : Type} (tells : Incident → Option α)

/-- Of nothing there is nothing to tell. -/
@[simp] theorem collect_nil : collect tells [] = [] := rfl

/-- What the first incident tells comes first. -/
@[simp] theorem collect_cons (i : Incident) (h : History) :
    collect tells (i :: h) = (tells i).toList ++ h.collect tells := by
  unfold collect
  cases htells : tells i with
  | none => rw [List.filterMap_cons_none htells, Option.toList_none, List.nil_append]
  | some a => rw [List.filterMap_cons_some htells, Option.toList_some, List.singleton_append]

/-- What happens later is told later. -/
@[simp] theorem collect_append (h h' : History) :
    collect tells (h ++ h') = h.collect tells ++ h'.collect tells := List.filterMap_append

end History

/-! ## What the steps of a call do to the queue -/

/-- Queue and dispatcher are the same. -/
structure Publisher.QueuesSame (p q : Publisher) : Prop where
  capacity : q.capacity = p.capacity
  queue : q.queue = p.queue
  dispatcher : q.dispatcher = p.dispatcher

/-- A publisher takes envelopes as long as its dispatcher has not stopped. -/
theorem Publisher.isClosed_eq_false_iff {p : Publisher} :
    p.isClosed = false ↔ p.dispatcher ≠ .stopped := by
  unfold isClosed
  split <;> simp_all

namespace Errand

/-- The envelopes that a call has still to queue. -/
def unsent : Errand → List Envelope
  | noting device b payload => b.topics.map (b.envelope device payload)
  | sending m | clearing m | counting m _ | raising m _ | telling m _ => m.topics.map m.envelope
  | numbering _ _ | binding _ _ | forgiving _ | unbinding _ | forgetting _ | looking _ _ _
  | warning _ | parting _ _ _ | returned _ => []

/-- A line that is told does not change what is to be queued. -/
@[simp] theorem unsent_tellNews (m : Mailing) (news : Option Log.Entry) :
    (tellNews m news).unsent = m.topics.map m.envelope := by
  cases news <;> rfl

/-- After the last line nothing is queued. -/
@[simp] theorem unsent_part (device : String) (answer : Nat) (news : Option Log.Entry) :
    (part device answer news).unsent = [] := by
  cases news <;> rfl

/-- The next envelope comes first. -/
theorem unsent_sending {m : Mailing} {topic : String} {topics : List String}
    (h : m.topics = topic :: topics) :
    (sending m).unsent = m.envelope topic :: topics.map m.envelope := by
  rw [unsent, h, List.map_cons]

variable {p : Publisher} {call : Nat} {errand : Errand} {progress : Progress}

/-- What a step of a call does to the queue: it queues an envelope, it finds no room for one, or it
has nothing to do with the queue. -/
inductive Effect (p : Publisher) (call : Nat) (progress : Progress) : Prop
  | queue (e : Envelope) : p.isClosed = false → p.queue.length < p.capacity →
      progress.publisher = p.put e → progress.incident = some (.queued call e) →
      Effect p call progress
  | lose (e : Envelope) : p.isClosed = false → p.capacity ≤ p.queue.length →
      progress.publisher = p → progress.incident = some (.lost call e) → Effect p call progress
  | none : p.QueuesSame progress.publisher → History.queued progress.incident.toList = [] →
      History.lost progress.incident.toList = [] → Effect p call progress

/-- Every step of a call has one of these effects. -/
theorem Step.effect (h : errand.Step p call progress) : Effect p call progress := by
  cases h with
  | queue _ hopen hroom => exact .queue _ hopen hroom rfl rfl
  | lose _ hopen hfull => exact .lose _ hopen hfull rfl rfl
  | number | bind | forgive | unbind | forget | miss | find | warn | note | finish | refuse | clear
  | count | raise | tell | part => exact .none ⟨rfl, rfl, rfl⟩ rfl rfl

/-- Nothing of what the dispatcher does is done by a call. -/
theorem Step.dispatcher (h : errand.Step p call progress) :
    progress.publisher.dispatcher = p.dispatcher ∧
      ∀ i ∈ progress.incident, i.isDispatchers = false := by
  have hnone : ∀ j ∈ (none : Option Incident), j.isDispatchers = false :=
    fun j hj => absurd hj (Option.not_mem_none j)
  have hone {i : Incident} (hi : i.isDispatchers = false) : ∀ j ∈ some i, j.isDispatchers = false :=
    fun _ hj => Option.mem_some.mp hj ▸ hi
  cases h with
  | number | forget | note | finish | count => exact ⟨rfl, hnone⟩
  | bind | forgive | unbind | miss | find | warn | queue | lose | refuse | clear | raise | tell
  | part => exact ⟨rfl, hone rfl⟩

/-- A call neither takes an envelope from the queue nor looks at one, and hands none to the sink. -/
theorem Step.silent (h : errand.Step p call progress) :
    History.taken progress.incident.toList = [] ∧ History.looked progress.incident.toList = [] ∧
      History.handed progress.incident.toList = [] ∧
      History.answered progress.incident.toList = [] := by
  cases h <;> exact ⟨rfl, rfl, rfl, rfl⟩

end Errand

/-! ## First in, first out -/

/-- The envelope that the dispatcher wants the sink to take. -/
def Dispatcher.held? : Dispatcher → Option Envelope
  | holding e => some e
  | ready | stopped => none

namespace Traffic

/-- Envelopes go from one station to the next in the order in which they were queued. -/
structure InOrder (t : Traffic) : Prop where
  /-- The dispatcher looks at what it has taken before it does anything else. -/
  ready : t.fresh.isSome = true → t.publisher.dispatcher = .ready
  waiting : ∃ rest, t.history.queued.map Prod.snd = t.history.taken ++ rest ∧
    (t.publisher.isClosed = false → t.publisher.queue = rest)
  taken : t.history.taken = t.history.looked.map Prod.fst ++ t.fresh.toList
  handed : t.history.handed = t.history.answered ++ t.publisher.dispatcher.held?.toList

variable {t t' : Traffic} {turn : Turn} {turns : List Turn}

/-- At the start there are no envelopes. -/
theorem inOrder_start (capacity : Nat) (suppressRepeats : Bool) :
    (start capacity suppressRepeats).InOrder where
  ready := by simp [start]
  waiting := ⟨[], rfl, fun _ => rfl⟩
  taken := rfl
  handed := rfl

/-- A step of a call may put an envelope behind the others. -/
theorem InOrder.proceed (h : t.InOrder) {call : Nat} {errand : Errand}
    {progress : Errand.Progress} (hstep : errand.Step t.publisher call progress) :
    InOrder
      { t with
        publisher := progress.publisher
        errands := t.errands.set call progress.errand
        history := t.history ++ progress.incident.toList } := by
  have hdispatcher := hstep.dispatcher.1
  obtain ⟨rest, hqueued, hrest⟩ := h.waiting
  obtain ⟨htaken, hlooked, hhanded, hanswered⟩ := hstep.silent
  refine ⟨?_, ?_, ?_, ?_⟩
  · exact fun hfresh => hdispatcher.trans (h.ready hfresh)
  · rcases hstep.effect with
      ⟨e, hopen, -, hpublisher, hincident⟩ | ⟨e, hopen, -, hpublisher, hincident⟩ | ⟨hsame, hnone, -⟩
    · refine ⟨rest ++ [e], ?_, fun _ => ?_⟩
      · simp [hincident, hqueued, Incident.queued?, Incident.taken?]
      · simp [hpublisher, Publisher.put, hrest hopen]
    · refine ⟨rest, ?_, fun _ => ?_⟩
      · simpa [hincident, Incident.queued?, Incident.taken?] using hqueued
      · rw [hpublisher]
        exact hrest hopen
    · refine ⟨rest, ?_, fun hopen => ?_⟩
      · simpa [hnone, htaken] using hqueued
      · rw [hsame.queue]
        rw [Publisher.isClosed_eq_false_iff, hdispatcher] at hopen
        exact hrest (Publisher.isClosed_eq_false_iff.mpr hopen)
  · simpa [htaken, hlooked] using h.taken
  · simpa [hhanded, hanswered, hdispatcher] using h.handed

section Settle

variable {σ α : Type} (t : Traffic) (e : Envelope) (d : Delivery) (o : Offered σ)

/-- After an offer the sink is done with the envelope, or the dispatcher holds it still. -/
theorem answered_settle :
    (t.settle e d o).history.answered ++ (t.settle e d o).publisher.dispatcher.held?.toList
      = t.history.answered ++ [e] := by
  unfold settle Publisher.settleOffer
  cases o.reception <;> simp [Dispatcher.held?, Incident.answered?]

/-- An offer has nothing to do with what has been taken and not been looked at. -/
@[simp] theorem fresh_settle : (t.settle e d o).fresh = t.fresh := rfl

/-- The publisher is the one of the offer. -/
@[simp] theorem publisher_settle :
    (t.settle e d o).publisher = (t.publisher.settleOffer e o).publisher := rfl

/-- An offer is one incident. -/
theorem collect_settle (tells : Incident → Option α) :
    (t.settle e d o).history.collect tells = t.history.collect tells ++
      (tells (.offered e d o.reception o.logs (t.publisher.offerNews? e o.reception))).toList := by
  simp [settle]

/-- What waits goes on waiting, unless the sink breaks down. -/
theorem queue_settle (hopen : (t.settle e d o).publisher.isClosed = false) :
    (t.settle e d o).publisher.queue = t.publisher.queue := by
  unfold settle Publisher.settleOffer at hopen ⊢
  cases hreception : o.reception with
  | accepted | failed | blocked => rfl
  | broken => simp [hreception, Publisher.isClosed] at hopen

end Settle

/-- In every turn an envelope goes on by one station at most, and it is the next one there. -/
theorem InOrder.step (h : t.InOrder) (hstep : t.Step turn t') : t'.InOrder := by
  obtain ⟨rest, hqueued, hrest⟩ := h.waiting
  have htaken := h.taken
  have hhanded := h.handed
  cases hstep with
  | begin r => exact ⟨h.ready, h.waiting, h.taken, h.handed⟩
  | proceed herrand hprogress => exact h.proceed hprogress
  | @take e rest' hdue hready hfresh hqueue =>
      have hopen : t.publisher.isClosed = false := by
        simp [Publisher.isClosed_eq_false_iff, hready]
      have hrest' : rest = e :: rest' := (hrest hopen).symm.trans hqueue
      rw [hfresh] at htaken
      refine ⟨fun _ => hready, ⟨rest', ?_, fun _ => rfl⟩, ?_, ?_⟩
      · simp [hqueued, hrest', Incident.queued?, Incident.taken?]
      · simp [htaken, Incident.looked?, Incident.taken?]
      · simpa [Incident.handed?, Incident.answered?] using hhanded
  | @hand e hdue hfresh hcurrent =>
      have hready : t.publisher.dispatcher = .ready := h.ready (by rw [hfresh, Option.isSome_some])
      have hopen : t.publisher.isClosed = false := by
        simp [Publisher.isClosed_eq_false_iff, hready]
      rw [hfresh] at htaken
      rw [hready] at hhanded
      refine ⟨by simp, ⟨rest, ?_, fun _ => hrest hopen⟩, ?_, ?_⟩
      · simpa [Incident.queued?, Incident.taken?] using hqueued
      · simpa [Incident.taken?, Incident.looked?] using htaken
      · simpa [Incident.handed?, Incident.answered?, Dispatcher.held?] using hhanded
  | @discard e hdue hfresh hstale =>
      rw [hfresh] at htaken
      refine ⟨by simp, ⟨rest, ?_, hrest⟩, ?_, ?_⟩
      · simpa [Incident.queued?, Incident.taken?] using hqueued
      · simpa [Incident.taken?, Incident.looked?] using htaken
      · simpa [Incident.handed?, Incident.answered?] using hhanded
  | @answer σ _ sink e hdue hholding =>
      have hopen : t.publisher.isClosed = false := by
        simp [Publisher.isClosed_eq_false_iff, hholding]
      refine ⟨fun hfresh => ?_, ⟨rest, ?_, fun hopen' => ?_⟩, ?_, ?_⟩
      · have hready := h.ready hfresh
        rw [hholding] at hready
        cases hready
      · simpa [collect_settle, Incident.queued?, Incident.taken?] using hqueued
      · exact (queue_settle t e _ _ hopen').trans (hrest hopen)
      · simpa [collect_settle, Incident.taken?, Incident.looked?] using htaken
      · rw [answered_settle]
        simpa [collect_settle, Incident.handed?, hholding, Dispatcher.held?] using hhanded
  | report hdue =>
      refine ⟨h.ready, ⟨rest, ?_, hrest⟩, ?_, ?_⟩
      · simpa [Incident.queued?, Incident.taken?] using hqueued
      · simpa [Incident.taken?, Incident.looked?] using htaken
      · simpa [Incident.handed?, Incident.answered?] using hhanded

/-- Envelopes are in order after every run. -/
theorem inOrder_run {capacity : Nat} {suppressRepeats : Bool}
    (hrun : (start capacity suppressRepeats).run? turns = some t) : t.InOrder :=
  run?_preserves InOrder.step (inOrder_start capacity suppressRepeats) hrun

/-! ## Turns seen from the calls -/

/-- A call begins, a call makes a step, or the dispatcher does something, of which the calls and what
is known of the devices are not touched. -/
inductive Turned (t : Traffic) (turn : Turn) (t' : Traffic) : Prop
  | begin (r : Request) : turn = .begin r → t' = { t with errands := t.errands ++ [r.errand] } →
      Turned t turn t'
  | proceed (call : Nat) (errand : Errand) (progress : Errand.Progress) : turn = .proceed call →
      t.errands[call]? = some errand → errand.Step t.publisher call progress →
      t' =
        { t with
          publisher := progress.publisher
          errands := t.errands.set call progress.errand
          history := t.history ++ progress.incident.toList } → Turned t turn t'
  | dispatch (new : Incident) : new.isDispatchers = true → t'.errands = t.errands →
      t'.history = t.history ++ [new] → t.publisher.KnowsSame t'.publisher → Turned t turn t'

/-- Every turn is one of these. -/
theorem Step.turned (hstep : t.Step turn t') : t.Turned turn t' := by
  cases hstep with
  | begin r => exact .begin r rfl rfl
  | @proceed call errand progress herrand hprogress =>
      exact .proceed call errand progress rfl herrand hprogress rfl
  | @take e => exact .dispatch (.taken e) rfl rfl rfl ⟨rfl, rfl, rfl⟩
  | @hand e => exact .dispatch (.handed e) rfl rfl rfl ⟨rfl, rfl, rfl⟩
  | @discard e => exact .dispatch (.discarded e) rfl rfl rfl (.refl _)
  | @answer _ _ sink e => exact .dispatch _ rfl rfl rfl (t.publisher.knowsSame_settleOffer e _)
  | @report line => exact .dispatch (.reported line) rfl rfl rfl (.refl _)

/-! ## The turn of an incident -/

/-- A turn adds one incident to the history, or none. -/
theorem history_step (hstep : t.Step turn t') :
    ∃ new : Option Incident, t'.history = t.history ++ new.toList := by
  rcases hstep.turned with ⟨r, -, rfl⟩ | ⟨_, _, progress, _, _, _, rfl⟩ | ⟨new, _, _, hnew, _⟩
  · exact ⟨none, (List.append_nil _).symm⟩
  · exact ⟨progress.incident, rfl⟩
  · exact ⟨some new, hnew⟩

/-- What has happened remains written. -/
theorem history_run (hrun : t.run? turns = some t') : t.history <+: t'.history := by
  induction turns generalizing t with
  | nil =>
      cases hrun
      exact List.prefix_rfl
  | cons turn turns ih =>
      obtain ⟨t₁, hstep, hrun⟩ := Option.bind_eq_some_iff.mp hrun
      obtain ⟨new, hnew⟩ := history_step (step?_eq_some_iff.mp hstep)
      have hprefix : t.history <+: t₁.history := hnew ▸ List.prefix_append _ _
      exact hprefix.trans (ih hrun)

/-- Whatever is in the history of a run has happened in one of its turns. -/
theorem exists_step_of_history (hrun : t.run? turns = some t') {past later : History} {i : Incident}
    (hpast : t.history.length ≤ past.length) (h : t'.history = past ++ i :: later) :
    ∃ before turn t₀ t₁, t.run? before = some t₀ ∧ t₀.Step turn t₁ ∧ t₀.history = past ∧
      t₁.history = past ++ [i] := by
  induction turns generalizing t with
  | nil =>
      cases hrun
      rw [h, List.length_append, List.length_cons] at hpast
      omega
  | cons turn turns ih =>
      obtain ⟨t₁, hstep?, hrun⟩ := Option.bind_eq_some_iff.mp hrun
      have hstep := step?_eq_some_iff.mp hstep?
      by_cases hlater : t₁.history.length ≤ past.length
      · obtain ⟨before, turn', t₀, t₂, hbefore, hstep', hpast', hi⟩ := ih hrun hlater
        refine ⟨turn :: before, turn', t₀, t₂, ?_, hstep', hpast', hi⟩
        rw [run?, hstep?]
        exact hbefore
      · -- The incident is the first one of the run, and the turn is its first.
        obtain ⟨new, hnew⟩ := history_step hstep
        obtain ⟨rest, hrest⟩ := history_run hrun
        cases new with
        | none =>
            rw [hnew, Option.toList_none, List.append_nil] at hlater
            exact absurd hpast hlater
        | some j =>
            rw [hnew, List.length_append, Option.toList_some, List.length_singleton] at hlater
            have hlength : t.history.length = past.length := by omega
            rw [h, hnew, Option.toList_some, List.append_assoc] at hrest
            obtain ⟨hpast', hrest⟩ := List.append_inj hrest hlength
            obtain ⟨rfl, -⟩ := List.cons.inj hrest
            exact ⟨[], turn, t, t₁, rfl, hstep, hpast', hpast' ▸ hnew⟩

/-! ## What the sink is offered -/

/-- A sink that is offered something is offered topic and payload of the envelope that is held. -/
theorem eq_settle_of_offer {σ : Type} [TopicSink σ] {sink : σ}
    (h : t.step? (.offer sink) = some t') :
    ∃ e, t.publisher.dispatcher = .holding e ∧
      t' = t.settle e { topic := e.topic, payload := e.payload }
        (TopicSink.offer sink { topic := e.topic, payload := e.payload }) := by
  cases step?_eq_some_iff.mp h with
  | answer hdue hholding => exact ⟨_, hholding, rfl⟩

/-- Whatever the sink has been offered is topic and payload of the envelope that it was handed last
and was not done with. -/
theorem handed_of_offered {capacity : Nat} {suppressRepeats : Bool}
    (hrun : (start capacity suppressRepeats).run? turns = some t) {past later : History}
    {e : Envelope} {d : Delivery} {r : Reception} {own : List Log.Entry} {news : Option Log.Entry}
    (hhistory : t.history = past ++ .offered e d r own news :: later) :
    past.handed = past.answered ++ [e] ∧ d = { topic := e.topic, payload := e.payload } := by
  obtain ⟨before, turn, t₀, t₁, hbefore, hstep, rfl, hi⟩ :=
    exists_step_of_history hrun (Nat.zero_le _) hhistory
  have hhanded := (inOrder_run hbefore).handed
  cases hstep with
  | begin => simp at hi
  | proceed herrand hprogress =>
      have hi := Option.toList_eq_singleton_iff.mp (List.append_cancel_left hi)
      cases hprogress.dispatcher.2 _ (Option.mem_def.mpr hi)
  | take | hand | discard | report => cases List.append_cancel_left hi
  | answer hdue hholding =>
      cases List.append_cancel_left hi
      rw [hholding] at hhanded
      exact ⟨hhanded, rfl⟩

end Traffic

end SensorGateway
