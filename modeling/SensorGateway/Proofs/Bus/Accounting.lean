import SensorGateway.Bus.Sinks
import SensorGateway.Proofs.Bus.Ledger
import SensorGateway.Proofs.Bus.Staleness

/-!
# The accounts of the queue

The books of calls and queue, put together (`Traffic.accounts_balance`): nothing that is published is
left out, lost without being counted, discarded while its binding stands, delivered twice or
overtaken by something older.

Two things are not in the books themselves.  That the dispatcher gets through the queue is shown by
letting it go on with a sink that answers (`Traffic.exists_drained`).  And payloads of one device are
queued in the order of the calls only if these are made one after another (`Traffic.oneByOne`), as
the one session of a device makes them.
-/

namespace SensorGateway

/-! ## Older and newer -/

namespace Errand

variable {p : Publisher} {call : Nat} {errand : Errand} {progress : Progress}

/-- A call that tells something about the queue publishes for the same device. -/
@[simp] theorem publishesFor?_tellNews (m : Mailing) (news : Option Log.Entry) :
    (tellNews m news).publishesFor? = some m.device := by
  cases news <;> rfl

/-- A call goes on publishing for the same device. -/
theorem Step.publishesFor (h : errand.Step p call progress) {device : String}
    (hfor : progress.errand.publishesFor? = some device) : errand.publishesFor? = some device := by
  cases h with
  | number | bind | forgive | unbind | forget | finish | part => cases hfor
  | miss | find | note | queue | lose | refuse | count | tell => exact hfor
  | clear | raise =>
      rw [publishesFor?_tellNews] at hfor
      exact hfor
  | @warn device' =>
      cases hnews : p.unboundNews? device' with
      | none =>
          rw [hnews] at hfor
          cases hfor
      | some line =>
          rw [hnews] at hfor
          exact hfor

/-- A call queues for the device for which it publishes. -/
theorem Step.of_queued (h : errand.Step p call progress) :
    ∀ q ∈ History.queued progress.incident.toList,
      q.1 = call ∧ errand.publishesFor? = some q.2.device := by
  intro q hq
  cases h with
  | number | bind | forgive | unbind | forget | miss | find | warn | note | finish | lose | refuse
  | clear | count | raise | tell | part => cases hq
  | queue =>
      obtain rfl := List.mem_singleton.mp hq
      exact ⟨rfl, rfl⟩

end Errand

/-- The delivery that the sink is done with. -/
def Incident.delivered? : Incident → Option Delivery
  | offered _ d r _ _ => if r = .blocked then none else some d
  | _ => none

namespace History

/-- What the sink has been given, whether it has taken it or failed to. -/
abbrev deliveries (h : History) : List Delivery := h.collect Incident.delivered?

/-- The envelopes that were handed to the sink, with the calls that queued them. -/
def handedBy (h : History) : List (Nat × Envelope) :=
  ((h.queued.zip h.looked).filter fun q => q.2.2).map Prod.fst

/-- If each offer is of topic and payload of its envelope, the sink is given those of the envelopes
that it is done with. -/
theorem deliveries_eq {h : History}
    (hoffered : ∀ {e d r own news}, .offered e d r own news ∈ h →
      d = { topic := e.topic, payload := e.payload }) :
    h.deliveries = h.answered.map fun e => { topic := e.topic, payload := e.payload } := by
  induction h with
  | nil => rfl
  | cons i h ih =>
      have hrest := ih fun hmem => hoffered (List.mem_cons_of_mem i hmem)
      simp only [deliveries, answered, collect_cons, List.map_append] at hrest ⊢
      rw [hrest]
      refine congrArg (· ++ _) ?_
      cases i with
      | offered e d r own news =>
          obtain rfl := hoffered List.mem_cons_self
          by_cases hr : r = .blocked <;> simp [Incident.delivered?, Incident.answered?, hr]
      | _ => rfl

/-- What is handed is what has been looked at and found current. -/
theorem handed_eq (h : History) : h.handed = (h.looked.filter Prod.snd).map Prod.fst := by
  induction h with
  | nil => rfl
  | cons i h ih =>
      simp only [handed, looked, collect_cons, List.filter_append, List.map_append] at ih ⊢
      rw [ih]
      cases i <;> rfl

/-- Envelopes that are looked at in the order in which they were queued are those of their calls. -/
theorem handed_of_looked {queued : List (Nat × Envelope)} {looked : List (Envelope × Bool)}
    {rest : List Envelope} (h : queued.map Prod.snd = looked.map Prod.fst ++ rest) :
    (((queued.zip looked).filter fun q => q.2.2).map Prod.fst).map Prod.snd
        = (looked.filter Prod.snd).map Prod.fst ∧
      (((queued.zip looked).filter fun q => q.2.2).map Prod.fst).Sublist queued := by
  induction looked generalizing queued with
  | nil =>
      rw [List.zip_nil_right]
      exact ⟨rfl, List.nil_sublist _⟩
  | cons look looked ih =>
      obtain ⟨e, current⟩ := look
      cases queued with
      | nil => cases h
      | cons q queued =>
          rw [List.map_cons, List.map_cons, List.cons_append, List.cons.injEq] at h
          obtain ⟨rfl, h⟩ := h
          obtain ⟨hsame, hsublist⟩ := ih h
          rw [List.zip_cons_cons]
          cases current with
          | true => exact ⟨congrArg (q.2 :: ·) hsame, hsublist.cons_cons q⟩
          | false => exact ⟨hsame, hsublist.cons q⟩

end History

/-- A sink that takes every delivery, or fails to. -/
def TopicSink.Answers {σ : Type} [TopicSink σ] (sink : σ) : Prop :=
  ∀ d : Delivery,
    (TopicSink.offer sink d).reception ≠ .blocked ∧ (TopicSink.offer sink d).reception ≠ .broken

namespace Traffic

variable {t t' : Traffic} {turn : Turn} {turns : List Turn}

/-- Whether the turn keeps calls apart: a call that publishes for a device begins only when no other
does. -/
def admits (t : Traffic) : Turn → Bool
  | .begin (.publish device _ _) => t.errands.all fun errand => errand.publishesFor? != some device
  | _ => true

/-- Whether the calls that publish for a device are made one after another. -/
def oneByOne (t : Traffic) (turns : List Turn) : Bool := t.throughout admits turns

/-- Of a device, what is queued later is of a later call. -/
structure Successive (t : Traffic) : Prop where
  sorted : t.history.queued.Pairwise fun q q' => q.2.device = q'.2.device → q.1 ≤ q'.1
  latest : ∀ {call : Nat} {errand : Errand} {device : String}, t.errands[call]? = some errand →
    errand.publishesFor? = some device → ∀ q ∈ t.history.queued, q.2.device = device → q.1 ≤ call
  alone : ∀ {call call' : Nat} {errand errand' : Errand} {device : String},
    t.errands[call]? = some errand → t.errands[call']? = some errand' →
    errand.publishesFor? = some device → errand'.publishesFor? = some device → call = call'

/-- At the start nothing has been queued. -/
theorem successive_start (capacity : Nat) (suppressRepeats : Bool) :
    (start capacity suppressRepeats).Successive where
  sorted := List.Pairwise.nil
  latest := nofun
  alone := nofun

/-- What has been queued has been queued by a call that has begun. -/
theorem lt_of_mem_queued (h : t.Begun) {q : Nat × Envelope} (hq : q ∈ t.history.queued) :
    q.1 < t.errands.length := by
  obtain ⟨i, hi, hqueued⟩ := List.mem_filterMap.mp hq
  cases i with
  | queued call e =>
      cases hqueued
      exact h _ hi _ rfl
  | _ => cases hqueued

/-- A call that begins after the others are over is the only one for its device. -/
theorem Successive.begin (h : t.Successive) (hbegun : t.Begun) {r : Request}
    (hadmits : t.admits (.begin r) = true) :
    Successive { t with errands := t.errands ++ [r.errand] } := by
  -- The call that begins is the only one for its device.
  have hnew {errand : Errand} {device : String} (hr : r.errand.publishesFor? = some device)
      (hmem : errand ∈ t.errands) : errand.publishesFor? ≠ some device := by
    cases r with
    | bind | detach => cases hr
    | publish device' =>
        cases hr
        exact bne_iff_ne.mp (List.all_eq_true.mp hadmits errand hmem)
  refine ⟨h.sorted, fun herrand hfor q hq hdevice => ?_, fun herrand herrand' hfor hfor' => ?_⟩
  · rcases of_getElem?_begin herrand with herrand | ⟨rfl, rfl⟩
    · exact h.latest herrand hfor q hq hdevice
    · exact Nat.le_of_lt (lt_of_mem_queued hbegun hq)
  · rcases of_getElem?_begin herrand with herrand | ⟨rfl, rfl⟩
    · rcases of_getElem?_begin herrand' with herrand' | ⟨rfl, rfl⟩
      · exact h.alone herrand herrand' hfor hfor'
      · exact absurd hfor (hnew hfor' (List.mem_of_getElem? herrand))
    · rcases of_getElem?_begin herrand' with herrand' | ⟨rfl, rfl⟩
      · exact absurd hfor' (hnew hfor (List.mem_of_getElem? herrand'))
      · rfl

/-- What a call queues for a device is behind what earlier calls have queued. -/
theorem Successive.proceed (h : t.Successive) {call : Nat} {errand : Errand}
    {progress : Errand.Progress} (herrand : t.errands[call]? = some errand)
    (hstep : errand.Step t.publisher call progress) :
    Successive
      { t with
        publisher := progress.publisher
        errands := t.errands.set call progress.errand
        history := t.history ++ progress.incident.toList } := by
  -- Whoever publishes for a device afterwards has done so before.
  have hbefore {c : Nat} {errand' : Errand} {device : String}
      (herrand' : (t.errands.set call progress.errand)[c]? = some errand')
      (hfor : errand'.publishesFor? = some device) :
      ∃ errand₀, t.errands[c]? = some errand₀ ∧ errand₀.publishesFor? = some device := by
    rcases of_getElem?_proceed herrand' with ⟨rfl, rfl⟩ | ⟨-, herrand'⟩
    · exact ⟨errand, herrand, hstep.publishesFor hfor⟩
    · exact ⟨errand', herrand', hfor⟩
  have hnew := hstep.of_queued
  refine ⟨?_, fun {c errand' device} herrand' hfor q hq hdevice => ?_,
    fun herrand₁ herrand₂ hfor₁ hfor₂ => ?_⟩
  · rw [History.queued, History.collect_append]
    refine List.pairwise_append.mpr ⟨h.sorted, ?_, fun q hq q' hq' hdevice => ?_⟩
    · refine List.pairwise_of_forall_mem_list fun q hq q' hq' _ => ?_
      exact Nat.le_of_eq ((hnew q hq).1.trans (hnew q' hq').1.symm)
    · rw [(hnew q' hq').1]
      exact h.latest herrand (hnew q' hq').2 q hq hdevice
  · obtain ⟨errand₀, herrand₀, hfor₀⟩ := hbefore herrand' hfor
    rw [History.queued, History.collect_append] at hq
    rcases List.mem_append.mp hq with hq | hq
    · exact h.latest herrand₀ hfor₀ q hq hdevice
    · obtain ⟨rfl, hfor'⟩ := hnew q hq
      exact Nat.le_of_eq (h.alone herrand herrand₀ hfor' (hdevice ▸ hfor₀))
  · obtain ⟨_, herrand₁, hfor₁⟩ := hbefore herrand₁ hfor₁
    obtain ⟨_, herrand₂, hfor₂⟩ := hbefore herrand₂ hfor₂
    exact h.alone herrand₁ herrand₂ hfor₁ hfor₂

/-- A turn that keeps calls apart keeps their envelopes in order. -/
theorem Successive.step (h : t.Successive) (hbegun : t.Begun) (hadmits : t.admits turn = true)
    (hstep : t.Step turn t') : t'.Successive := by
  rcases hstep.turned with
    ⟨r, rfl, rfl⟩ | ⟨call, errand, progress, -, herrand, hprogress, rfl⟩
    | ⟨new, hnew, herrands, hhistory, -⟩
  · exact h.begin hbegun hadmits
  · exact h.proceed herrand hprogress
  · obtain ⟨-, -, hqueued, -⟩ := Incident.of_isDispatchers hnew
    have hsame : t'.history.queued = t.history.queued := by simp [hhistory, hqueued]
    exact ⟨hsame ▸ h.sorted, hsame ▸ herrands ▸ h.latest, herrands ▸ h.alone⟩

/-- Calls that are made one after another queue one after another. -/
theorem Successive.run (h : t.Successive) (hbegun : t.Begun) (hrun : t.run? turns = some t')
    (hone : t.oneByOne turns = true) : t'.Successive :=
  (run?_preserves_of_throughout (P := fun t => t.Begun ∧ t.Successive)
    (fun h hadmits hstep => ⟨h.1.step hstep, h.2.step h.1 hadmits hstep⟩) ⟨hbegun, h⟩ hrun hone).2

/-! ## The dispatcher gets through -/

/-- Whether the turn is the dispatcher's. -/
def Turn.isDispatchers : Turn → Bool
  | .begin _ | .proceed _ => false
  | .take | .check | @Turn.offer _ _ _ | .report => true

/-- What the dispatcher has still to do, at most. -/
def load (t : Traffic) : Nat :=
  4 * t.publisher.queue.length + 3 * t.fresh.toList.length
    + 2 * t.publisher.dispatcher.held?.toList.length + t.due.toList.length

/-- A sink that answers makes the dispatcher ready. -/
theorem settleOffer_of_answer {σ : Type} (p : Publisher) (e : Envelope) {o : Offered σ}
    (hblocked : o.reception ≠ .blocked) (hbroken : o.reception ≠ .broken) :
    (p.settleOffer e o).publisher.dispatcher = .ready ∧
      (p.settleOffer e o).publisher.queue = p.queue := by
  unfold Publisher.settleOffer
  cases hreception : o.reception with
  | accepted | failed => exact ⟨rfl, rfl⟩
  | blocked => exact absurd hreception hblocked
  | broken => exact absurd hreception hbroken

/-- The dispatcher is never stuck, unless the sink is. -/
theorem exists_turn {σ : Type} [TopicSink σ] {sink : σ} (hanswers : TopicSink.Answers sink)
    (hopen : t.publisher.isClosed = false) (hload : t.load ≠ 0) :
    ∃ turn t', turn.isDispatchers = true ∧ t.step? turn = some t' ∧ t'.load < t.load ∧
      t'.publisher.isClosed = false ∧ t'.history.queued = t.history.queued := by
  cases hdue : t.due with
  | some line =>
      refine ⟨.report, _, rfl, step?_eq_some_iff.mpr (.report hdue), ?_, hopen, ?_⟩
      · simp [load, hdue]
      · simp [Incident.queued?]
  | none =>
      cases hdispatcher : t.publisher.dispatcher with
      | stopped => simp [Publisher.isClosed, hdispatcher] at hopen
      | holding e =>
          obtain ⟨hblocked, hbroken⟩ := hanswers e.delivery
          obtain ⟨hready, hqueue⟩ := settleOffer_of_answer t.publisher e hblocked hbroken
          refine ⟨.offer sink, _, rfl, step?_eq_some_iff.mpr (.answer hdue hdispatcher), ?_, ?_, ?_⟩
          · have hnews : (t.settle e e.delivery
                (TopicSink.offer sink e.delivery)).due.toList.length ≤ 1 := by
              cases (t.settle e e.delivery (TopicSink.offer sink e.delivery)).due <;> simp
            simp only [load, publisher_settle, fresh_settle, hready, hqueue, hdispatcher, hdue,
              Dispatcher.held?, Option.toList_none, Option.toList_some, List.length_nil,
              List.length_singleton]
            omega
          · simp [Publisher.isClosed_eq_false_iff, hready]
          · simp [collect_settle, Incident.queued?]
      | ready =>
          cases hfresh : t.fresh with
          | some e =>
              cases hcurrent : t.publisher.isCurrent e with
              | true =>
                  refine ⟨.check, _, rfl, step?_eq_some_iff.mpr (.hand hdue hfresh hcurrent), ?_,
                    rfl, ?_⟩
                  · simp [load, hfresh, hdispatcher, Dispatcher.held?]
                  · simp [Incident.queued?]
              | false =>
                  refine ⟨.check, _, rfl, step?_eq_some_iff.mpr (.discard hdue hfresh hcurrent), ?_,
                    hopen, ?_⟩
                  · simp [load, hfresh]
                  · simp [Incident.queued?]
          | none =>
              cases hqueue : t.publisher.queue with
              | nil => simp [load, hfresh, hdispatcher, hqueue, hdue, Dispatcher.held?] at hload
              | cons e rest =>
                  refine ⟨.take, _, rfl,
                    step?_eq_some_iff.mpr (.take hdue hdispatcher hfresh hqueue), ?_, hopen, ?_⟩
                  · simp only [load, hfresh, hqueue, Option.toList_some, Option.toList_none,
                      List.length_cons, List.length_nil]
                    omega
                  · simp [Incident.queued?]

/-- When there is nothing left to do, everything that was queued has been looked at, and everything
that was handed to the sink has been answered. -/
theorem InOrder.of_load_eq_zero (h : t.InOrder) (hopen : t.publisher.isClosed = false)
    (hload : t.load = 0) :
    t.history.looked.map Prod.fst = t.history.queued.map Prod.snd ∧
      t.history.answered = t.history.handed := by
  obtain ⟨rest, hqueued, hrest⟩ := h.waiting
  have htaken := h.taken
  have hhanded := h.handed
  unfold load at hload
  have hqueue : t.publisher.queue = [] := List.eq_nil_of_length_eq_zero (by omega)
  have hfresh : t.fresh.toList = [] := List.eq_nil_of_length_eq_zero (by omega)
  have hheld : t.publisher.dispatcher.held?.toList = [] :=
    List.eq_nil_of_length_eq_zero (by omega)
  rw [hfresh, List.append_nil] at htaken
  rw [hheld, List.append_nil] at hhanded
  rw [← hrest hopen, hqueue, List.append_nil, htaken] at hqueued
  exact ⟨hqueued.symm, hhanded.symm⟩

/-- Left alone with a sink that answers, the dispatcher comes to the end of the queue. -/
theorem exists_drained {σ : Type} [TopicSink σ] {sink : σ} (hanswers : TopicSink.Answers sink)
    (horder : t.InOrder) (hopen : t.publisher.isClosed = false) :
    ∃ turns t', (∀ turn ∈ turns, turn.isDispatchers = true) ∧ t.run? turns = some t' ∧
      t'.history.looked.map Prod.fst = t.history.queued.map Prod.snd ∧
      t'.history.answered = t'.history.handed := by
  induction hn : t.load using Nat.strongRecOn generalizing t with
  | ind n ih =>
      by_cases hload : t.load = 0
      · exact ⟨[], t, nofun, rfl, horder.of_load_eq_zero hopen hload⟩
      · obtain ⟨turn, t₁, hturn, hstep?, hless, hopen₁, hqueued⟩ := exists_turn hanswers hopen hload
        have horder₁ := horder.step (step?_eq_some_iff.mp hstep?)
        obtain ⟨turns, t', hturns, hrun, hlooked, hanswered⟩ :=
          ih t₁.load (hn ▸ hless) horder₁ hopen₁ rfl
        refine ⟨turn :: turns, t', List.forall_mem_cons.mpr ⟨hturn, hturns⟩, ?_, hqueued ▸ hlooked,
          hanswered⟩
        rw [run?, hstep?]
        exact hrun

/-! ## The accounts -/

/-- The accounts of a publisher whose dispatcher has not stopped. -/
structure Balanced (capacity : Nat) (t : Traffic) : Prop where
  /-- A capacity of zero counts as one. -/
  room : t.publisher.queue.length ≤ max capacity 1
  /-- Each call tries to queue an envelope for every topic of the binding that it has found, in order,
  and answers how many it has queued. -/
  calls : ∀ (call : Nat) (errand : Errand), t.errands[call]? = some errand →
    errand.Tally (t.history.of call)
  /-- The envelopes that were not queued are counted, but for those of calls that are about to do
  so. -/
  dropped : t.publisher.dropped + (t.errands.map Errand.uncounted).sum = t.history.lost.length
  /-- An envelope is lost only when the queue is full, -/
  lost : ∀ {past later : History} {call : Nat} {e : Envelope},
    t.history = past ++ .lost call e :: later →
      past.queued.length = past.taken.length + max capacity 1
  /-- and those that wait stay until they are taken, in order. -/
  queued : t.history.queued.map Prod.snd = t.history.taken ++ t.publisher.queue
  /-- What is taken is looked at. -/
  taken : t.history.taken = t.history.looked.map Prod.fst ++ t.fresh.toList
  /-- It was queued by a call, under a binding that this call had found.  If the device has been
  neither bound nor detached since, it is handed to the sink, else it is discarded. -/
  current : ∀ {past later : History} {i : Incident} {e : Envelope} {current : Bool},
    t.history = past ++ i :: later → i.looked? = some (e, current) →
      ∃ origin : Origin past e,
        (i = .handed e ↔ origin.after.Spares e.device) ∧
          (i = .discarded e ↔ ¬ origin.after.Spares e.device)
  /-- Each of those that are handed to the sink is one of those that calls have queued. -/
  byCalls : t.history.handed = t.history.handedBy.map Prod.snd
  /-- The sink answers, well or badly, before anything else is handed to it. -/
  handed : t.history.handed = t.history.answered ++ t.publisher.dispatcher.held?.toList
  /-- What it is given, one after the other, is topic and payload of what is handed to it. -/
  given : t.history.deliveries = (t.history.handedBy.take t.history.deliveries.length).map fun q =>
    { topic := q.2.topic, payload := q.2.payload }
  /-- When all calls are over, their answers and the losses come to as many as there were topics.
  Calls that do not publish answer zero. -/
  total : ∀ {answers : List Nat}, t.errands = answers.map .returned →
    answers.sum + t.publisher.dropped
      = (t.history.found.map fun (_, b, _) => b.topics.length).sum

/-- As many envelopes are asked for as the bindings found have topics. -/
theorem length_asked (h : History) :
    h.asked.length = (h.found.map fun (_, b, _) => b.topics.length).sum := by
  simp [History.asked, List.length_flatMap]

/-- Calls that are over weigh what they have answered. -/
theorem sum_weight_returned (answers : List Nat) :
    ((answers.map Errand.returned).map Errand.weight).sum = answers.sum := by
  have hweight : Errand.weight ∘ Errand.returned = id := rfl
  rw [List.map_map, hweight, List.map_id]

/-- Calls that are over have counted what they have lost. -/
theorem sum_uncounted_returned (answers : List Nat) :
    ((answers.map Errand.returned).map Errand.uncounted).sum = 0 := by
  have hnone : Errand.uncounted ∘ Errand.returned = fun _ => 0 := rfl
  rw [List.map_map, hnone]
  simp

/-- What the sink has been given is what the first of the envelopes handed to it say. -/
theorem deliveries_of_handedBy {capacity : Nat} {suppressRepeats : Bool}
    (hrun : (start capacity suppressRepeats).run? turns = some t)
    (hhanded : t.history.handed = t.history.handedBy.map Prod.snd) :
    t.history.deliveries = (t.history.handedBy.take t.history.deliveries.length).map fun q =>
      { topic := q.2.topic, payload := q.2.payload } := by
  have hdeliveries := History.deliveries_eq (h := t.history) fun {e d r own news} hmem => by
    obtain ⟨past, later, hhistory⟩ := List.append_of_mem hmem
    exact (handed_of_offered hrun hhistory).2
  have hlength : t.history.deliveries.length = t.history.answered.length := by
    rw [hdeliveries, List.length_map]
  have hanswered : t.history.answered
      = (t.history.handedBy.take t.history.answered.length).map Prod.snd := by
    rw [List.map_take, ← hhanded, (inOrder_run hrun).handed, List.take_left]
  rw [hlength, hdeliveries]
  conv_lhs => rw [hanswered, List.map_map]
  rfl

/-- The accounts balance as long as the dispatcher has not stopped. -/
theorem balanced {capacity : Nat} {suppressRepeats : Bool}
    (hrun : (start capacity suppressRepeats).run? turns = some t)
    (hopen : t.publisher.isClosed = false) : t.Balanced capacity := by
  have hroomy := roomy_run hrun
  have hkept := kept_run hrun
  have horder := inOrder_run hrun
  obtain ⟨rest, hqueued, hrest⟩ := horder.waiting
  have hhanded : t.history.handed = t.history.handedBy.map Prod.snd := by
    have hlooked := hqueued
    rw [horder.taken, List.append_assoc] at hlooked
    rw [History.handed_eq]
    exact (History.handed_of_looked hlooked).1.symm
  exact
    { room := hroomy.capacity ▸ hroomy.room
      calls := hkept.tally hopen
      dropped := hroomy.dropped
      lost := full_of_lost hrun
      queued := (hrest hopen).symm ▸ hqueued
      taken := horder.taken
      current := exists_origin hrun
      byCalls := hhanded
      handed := horder.handed
      given := deliveries_of_handedBy hrun hhanded
      total := fun {answers} hover => by
        have htotal := hkept.total hopen
        have hdropped := hroomy.dropped
        rw [hover, sum_weight_returned, length_asked] at htotal
        rw [hover, sum_uncounted_returned, Nat.add_zero] at hdropped
        rw [hdropped]
        exact htotal }

/-- **Nothing is lost unseen, delivered twice or overtaken.**  As long as the dispatcher has not
stopped, the accounts balance.  If each device's calls that publish are made one after another, the
sink is handed nothing of a device after something newer of it.  And everything that was queued will
have been dealt with once the dispatcher has been left alone for a while, with a sink that
answers. -/
theorem accounts_balance {capacity : Nat} {suppressRepeats : Bool}
    (hrun : (start capacity suppressRepeats).run? turns = some t)
    (hopen : t.publisher.isClosed = false) :
    t.Balanced capacity ∧
      ((start capacity suppressRepeats).oneByOne turns = true →
        t.history.handedBy.Pairwise fun q q' => q.2.device = q'.2.device → q.1 ≤ q'.1) ∧
      ∀ {σ : Type} [TopicSink σ] {sink : σ}, TopicSink.Answers sink →
        ∃ later t', (∀ turn ∈ later, turn.isDispatchers = true) ∧ t.run? later = some t' ∧
          t'.history.looked.map Prod.fst = t.history.queued.map Prod.snd ∧
          t'.history.answered = t'.history.handed := by
  have horder := inOrder_run hrun
  refine ⟨balanced hrun hopen, fun hone => ?_, fun hanswers => exists_drained hanswers horder hopen⟩
  obtain ⟨rest, hqueued, -⟩ := horder.waiting
  rw [horder.taken, List.append_assoc] at hqueued
  have hsuccessive := (successive_start capacity suppressRepeats).run
    (begun_start capacity suppressRepeats) hrun hone
  exact hsuccessive.sorted.sublist (History.handed_of_looked hqueued).2

/-- The queue holds one envelope, so of two topics the second gets nothing.  What the first gets of
the first call is delivered; what it would have got of the second is discarded, for the battery has
been detached. -/
theorem accounts_balance_half_lost :
    let turns : List Turn :=
      Turn.whole 0 (.bind "battery" ["first", "second"]) 3 ++
        Turn.whole 1 (.publish "battery" .empty ⟨0, 0⟩) 9 ++ [.take, .check, .offer LogSink.mk] ++
        Turn.whole 2 (.publish "battery" .empty ⟨0, 0⟩) 10 ++ Turn.whole 3 (.detach "battery") 2 ++
        [.take, .check]
    ∃ t, (start 0 true).run? turns = some t ∧ t.publisher.isClosed = false ∧
      (start 0 true).oneByOne turns = true ∧ t.errands = [0, 1, 1, 0].map .returned ∧
      [0, 1, 1, 0].sum + t.publisher.dropped = 4 ∧
      (∃ past later e, t.history = past ++ .handed e :: later ∧
        ∃ origin : Origin past e, origin.after.Spares e.device) ∧
      (∃ past later e, t.history = past ++ .discarded e :: later ∧
        ∃ origin : Origin past e, ¬ origin.after.Spares e.device) ∧
      t.history.deliveries.map Delivery.topic = ["first"] ∧
      (t.history.handedBy.Pairwise fun q q' => q.2.device = q'.2.device → q.1 ≤ q'.1) ∧
      ∃ later t', t.run? later = some t' ∧ t'.history.answered = t'.history.handed := by
  intro turns
  obtain ⟨t, e, e', hrun, hopen, hone, herrands, htopics, hhanded, hdiscarded, hdelivered⟩ :
      ∃ t e e', (start 0 true).run? turns = some t ∧ t.publisher.isClosed = false ∧
        (start 0 true).oneByOne turns = true ∧ t.errands = [0, 1, 1, 0].map .returned ∧
        (t.history.found.map fun (_, b, _) => b.topics.length).sum = 4 ∧
        t.history[9]? = some (.handed e) ∧ t.history[20]? = some (.discarded e') ∧
        t.history.deliveries.map Delivery.topic = ["first"] :=
    ⟨_, _, _, rfl, rfl, by decide +kernel, rfl, rfl, rfl, rfl, by decide +kernel⟩
  have hanswers : TopicSink.Answers LogSink.mk := fun _ => ⟨nofun, nofun⟩
  obtain ⟨hbalanced, hsuccessive, hdrained⟩ := accounts_balance hrun hopen
  obtain ⟨past, since, hpast⟩ := List.append_of_mem (List.mem_of_getElem? hhanded)
  obtain ⟨origin, hspares, -⟩ := hbalanced.current hpast rfl
  obtain ⟨past', since', hpast'⟩ := List.append_of_mem (List.mem_of_getElem? hdiscarded)
  obtain ⟨origin', -, hrebound⟩ := hbalanced.current hpast' rfl
  obtain ⟨later, t', -, hlater, -, hanswered⟩ := hdrained hanswers
  exact ⟨t, hrun, hopen, hone, herrands, (hbalanced.total herrands).trans htopics,
    ⟨past, since, e, hpast, origin, hspares.mp rfl⟩,
    ⟨past', since', e', hpast', origin', hrebound.mp rfl⟩, hdelivered, hsuccessive hone, later, t',
    hlater, hanswered⟩

end Traffic

end SensorGateway
