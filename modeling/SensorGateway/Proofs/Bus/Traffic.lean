import Mathlib.Data.List.Perm.Basic
import SensorGateway.Bus.Interleaving
import SensorGateway.Proofs.Bus.Knowledge

/-!
# What can happen around a publisher

The steps of calls and dispatcher, one by one, each with the condition under which it is made
(`Errand.Step`, `Traffic.Step`).  Everything that is said of a run is said by going through them
(`Traffic.run?_preserves`).

The steps are those of the publisher's own functions: a call that nothing comes between does what the
function of its name does at once (`Errand.completes_bind`, `completes_detach`, `completes_publish`),
and so does the dispatcher (`Traffic.exists_dispatches_of_step`).
-/

namespace SensorGateway

/-! ## Steps of a call -/

namespace Publisher

variable {p : Publisher}

/-- Without a dispatcher nothing is queued. -/
theorem fate_of_closed (h : p.isClosed = true) : p.fate = .refused := by simp [fate, h]

/-- An envelope for which there is room is queued. -/
theorem fate_of_room (hopen : p.isClosed = false) (hroom : p.queue.length < p.capacity) :
    p.fate = .queued := by
  simp [fate, hopen, hroom]

/-- An envelope for which there is no room is lost. -/
theorem fate_of_full (hopen : p.isClosed = false) (hfull : p.capacity ≤ p.queue.length) :
    p.fate = .lost := by
  simp [fate, hopen, Nat.not_lt.mpr hfull]

end Publisher

namespace Errand

/-- The steps that a call with a number can make, and what comes of each. -/
inductive Step (p : Publisher) (call : Nat) : Errand → Progress → Prop
  | number {device : String} {topics : List String} :
      Step p call (.numbering device topics)
        { publisher := { p with nextGeneration := p.nextGeneration + 1 }
          errand := .binding device { topics, generation := p.nextGeneration } }
  | bind {device : String} {b : Binding} :
      Step p call (.binding device b)
        { publisher := { p with bindings := p.bindings.insert device b }
          errand := .forgiving device
          incident := some (.bound device b) }
  | forgive {device : String} :
      Step p call (.forgiving device)
        { publisher := { p with warnedUnbound := p.warnedUnbound.filter (· != device) }
          errand := .returned 0
          incident := some (.forgiven device) }
  | unbind {device : String} :
      Step p call (.unbinding device)
        { publisher := { p with bindings := p.bindings.erase device }
          errand := .forgetting device
          incident := some (.unbound device) }
  | forget {device : String} :
      Step p call (.forgetting device)
        { publisher := { p with lastKnown := p.lastKnown.erase device }, errand := .returned 0 }
  | miss {device : String} {record : Record} {now : Instant} :
      p.bindings.find? device = none →
      Step p call (.looking device record now)
        { publisher := p, errand := .warning device, incident := some (.missed call device) }
  | find {device : String} {record : Record} {now : Instant} {b : Binding} :
      p.bindings.find? device = some b →
      Step p call (.looking device record now)
        { publisher := p
          errand := .noting device b (record.payload device now)
          incident := some (.found call device b (record.payload device now)) }
  | warn {device : String} :
      Step p call (.warning device)
        { publisher := p.noteUnbound device
          errand := part device 0 (p.unboundNews? device)
          incident := some (.noted call device (p.unboundNews? device)) }
  | note {device : String} {b : Binding} {payload : Json} :
      Step p call (.noting device b payload)
        { publisher := { p with lastKnown := p.lastKnown.insert device payload }
          errand := .sending { device, binding := b, payload, topics := b.topics } }
  | finish {m : Mailing} : m.topics = [] →
      Step p call (.sending m) { publisher := p, errand := .returned m.queued }
  | queue {m : Mailing} {topic : String} {topics : List String} : m.topics = topic :: topics →
      p.isClosed = false → p.queue.length < p.capacity →
      Step p call (.sending m)
        { publisher := p.put (m.envelope topic)
          errand := .clearing { m with topics, queued := m.queued + 1 }
          incident := some (.queued call (m.envelope topic)) }
  | lose {m : Mailing} {topic : String} {topics : List String} : m.topics = topic :: topics →
      p.isClosed = false → p.capacity ≤ p.queue.length →
      Step p call (.sending m)
        { publisher := p
          errand := .counting { m with topics } (m.envelope topic)
          incident := some (.lost call (m.envelope topic)) }
  | refuse {m : Mailing} {topic : String} {topics : List String} : m.topics = topic :: topics →
      p.isClosed = true →
      Step p call (.sending m)
        { publisher := p
          errand := .parting m.device Publisher.stoppedError m.queued
          incident := some (.refused call (m.envelope topic)) }
  | clear {m : Mailing} :
      Step p call (.clearing m)
        { publisher := p.clear
          errand := tellNews m p.clearNews?
          incident := some (.cleared call p.clearNews?) }
  | count {m : Mailing} {e : Envelope} :
      Step p call (.counting m e) { publisher := p.count, errand := .raising m e }
  | raise {m : Mailing} {e : Envelope} :
      Step p call (.raising m e)
        { publisher := p.raise
          errand := tellNews m (p.raiseNews? e)
          incident := some (.raised call e (p.raiseNews? e)) }
  | tell {m : Mailing} {line : Log.Entry} :
      Step p call (.telling m line)
        { publisher := p, errand := .sending m, incident := some (.told call line) }
  | part {device : String} {line : Log.Entry} {answer : Nat} :
      Step p call (.parting device line answer)
        { publisher := p, errand := .returned answer, incident := some (.parted call line) }

/-- The steps are those that calls make. -/
theorem advance_eq_some_iff {p : Publisher} {call : Nat} {errand : Errand} {progress : Progress} :
    errand.advance p call = some progress ↔ errand.Step p call progress := by
  constructor
  · intro h
    cases errand with
    | numbering | binding | forgiving | unbinding | forgetting | warning | noting | clearing
    | counting | raising | telling | parting =>
        cases h
        constructor
    | looking device record now =>
        cases hb : p.bindings.find? device with
        | none =>
            simp only [advance, hb] at h
            cases h
            exact .miss hb
        | some b =>
            simp only [advance, hb] at h
            cases h
            exact .find hb
    | sending m =>
        cases htopics : m.topics with
        | nil =>
            simp only [advance, htopics] at h
            cases h
            exact .finish htopics
        | cons topic topics =>
            cases hclosed : p.isClosed with
            | true =>
                simp only [advance, htopics, Publisher.fate_of_closed hclosed] at h
                cases h
                exact .refuse htopics hclosed
            | false =>
                by_cases hroom : p.queue.length < p.capacity
                · simp only [advance, htopics, Publisher.fate_of_room hclosed hroom] at h
                  cases h
                  exact .queue htopics hclosed hroom
                · have hfull : p.capacity ≤ p.queue.length := Nat.le_of_not_lt hroom
                  simp only [advance, htopics, Publisher.fate_of_full hclosed hfull] at h
                  cases h
                  exact .lose htopics hclosed hfull
    | returned => cases h
  · intro h
    cases h with
    | number | bind | forgive | unbind | forget | warn | note | clear | count | raise | tell
    | part => rfl
    | miss hb => simp only [advance, hb]
    | find hb => simp only [advance, hb]
    | finish htopics => simp only [advance, htopics]
    | queue htopics hopen hroom =>
        simp only [advance, htopics, Publisher.fate_of_room hopen hroom]
    | lose htopics hopen hfull =>
        simp only [advance, htopics, Publisher.fate_of_full hopen hfull]
    | refuse htopics hclosed => simp only [advance, htopics, Publisher.fate_of_closed hclosed]

/-! ## Calls that nothing comes between -/

/-- The errand, done without anything in between, takes one publisher to the other, answers a number
and logs these lines. -/
inductive Completes (call : Nat) :
    Publisher → Errand → Publisher → Nat → List Log.Entry → Prop
  | returned (p : Publisher) (answer : Nat) : Completes call p (.returned answer) p answer []
  | step {p p' : Publisher} {errand : Errand} {progress : Progress} {answer : Nat}
      {later logs : List Log.Entry} : errand.Step p call progress →
      Completes call progress.publisher progress.errand p' answer later →
      logs = History.lines progress.incident.toList ++ later →
      Completes call p errand p' answer logs

variable (call : Nat) (p : Publisher) (device : String)

/-- A call that binds does what `bind` does. -/
theorem completes_bind (topics : List String) :
    Completes call p (Request.errand (.bind device topics)) (p.bind device topics) 0 [] :=
  .step .number (.step .bind (.step .forgive (.returned _ 0) rfl) rfl) rfl

/-- A call that detaches does what `detach` does. -/
theorem completes_detach :
    Completes call p (Request.errand (.detach device)) (p.detach device) 0 [] :=
  .step .unbind (.step .forget (.returned _ 0) rfl) rfl

variable {call p} in
/-- What there is to be told of the queue is logged before the next topic. -/
theorem completes_tellNews {m : Mailing} {p' : Publisher} {answer : Nat} {later : List Log.Entry}
    (news : Option Log.Entry) (h : Completes call p (.sending m) p' answer later) :
    Completes call p (tellNews m news) p' answer (news.toList ++ later) := by
  cases news with
  | none => exact h
  | some line => exact .step .tell h rfl

/-- A last line is logged before the call returns. -/
theorem completes_part (answer : Nat) (news : Option Log.Entry) :
    Completes call p (part device answer news) p answer news.toList := by
  cases news with
  | none => exact .returned p answer
  | some line => exact .step .part (.returned p answer) rfl

/-- The loop over the topics queues what `enqueue` queues. -/
theorem completes_sending (m : Mailing) :
    Completes call p (.sending m) (p.enqueue m.envelope m.topics).publisher
      (m.queued + (p.enqueue m.envelope m.topics).queued) (p.enqueue m.envelope m.topics).logs := by
  induction htopics : m.topics generalizing p m with
  | nil => exact .step (.finish htopics) (.returned p m.queued) rfl
  | cons topic topics ih =>
      unfold Publisher.enqueue Publisher.trySend
      cases hclosed : p.isClosed with
      | true =>
          simp only [Publisher.fate_of_closed hclosed]
          exact .step (.refuse htopics hclosed) (.step .part (.returned p m.queued) rfl) rfl
      | false =>
          by_cases hroom : p.queue.length < p.capacity
          · have hcount (n : Nat) : m.queued + (n + 1) = m.queued + 1 + n := by omega
            have hrest := ih (p.put (m.envelope topic)).clear
              { m with topics, queued := m.queued + 1 } rfl
            simp only [Publisher.fate_of_room hclosed hroom]
            rw [hcount]
            exact .step (.queue htopics hclosed hroom)
              (.step .clear (completes_tellNews _ hrest) rfl) rfl
          · have hfull : p.capacity ≤ p.queue.length := Nat.le_of_not_lt hroom
            have hrest := ih p.count.raise { m with topics } rfl
            simp only [Publisher.fate_of_full hclosed hfull]
            exact .step (.lose htopics hclosed hfull)
              (.step .count (.step .raise (completes_tellNews _ hrest) rfl) rfl) rfl

/-- A call that publishes does what `publish` does. -/
theorem completes_publish (record : Record) (now : Instant) :
    Completes call p (Request.errand (.publish device record now))
      (p.publish device record now).publisher (p.publish device record now).queued
      (p.publish device record now).logs := by
  unfold Publisher.publish
  cases hb : p.bindings.find? device with
  | none => exact .step (.miss hb) (.step .warn (completes_part call _ device 0 _) rfl) rfl
  | some b =>
      let payload := record.payload device now
      have hsend := completes_sending call { p with lastKnown := p.lastKnown.insert device payload }
        { device, binding := b, payload, topics := b.topics }
      rw [Nat.zero_add] at hsend
      exact .step (.find hb) (.step .note hsend rfl) rfl

end Errand

/-! ## Turns -/

namespace Traffic

/-- What can happen in a turn. -/
inductive Step (t : Traffic) : Turn → Traffic → Prop
  | begin (r : Request) : Step t (.begin r) { t with errands := t.errands ++ [r.errand] }
  | proceed {call : Nat} {errand : Errand} {progress : Errand.Progress} :
      t.errands[call]? = some errand → errand.Step t.publisher call progress →
      Step t (.proceed call)
        { t with
          publisher := progress.publisher
          errands := t.errands.set call progress.errand
          history := t.history ++ progress.incident.toList }
  | take {e : Envelope} {rest : List Envelope} : t.due = none → t.publisher.dispatcher = .ready →
      t.fresh = none → t.publisher.queue = e :: rest →
      Step t .take
        { t with
          publisher := { t.publisher with queue := rest }
          fresh := some e
          history := t.history ++ [.taken e] }
  | hand {e : Envelope} : t.due = none → t.fresh = some e → t.publisher.isCurrent e = true →
      Step t .check
        { t with
          publisher := { t.publisher with dispatcher := .holding e }
          fresh := none
          history := t.history ++ [.handed e] }
  | discard {e : Envelope} : t.due = none → t.fresh = some e → t.publisher.isCurrent e = false →
      Step t .check { t with fresh := none, history := t.history ++ [.discarded e] }
  | answer {σ : Type} [TopicSink σ] {sink : σ} {e : Envelope} : t.due = none →
      t.publisher.dispatcher = .holding e →
      Step t (.offer sink) (t.settle e e.delivery (TopicSink.offer sink e.delivery))
  | report {line : Log.Entry} : t.due = some line →
      Step t .report { t with due := none, history := t.history ++ [.reported line] }

variable {t t' : Traffic} {turn : Turn} {turns : List Turn}

/-- What is done in a turn is what can be done in it. -/
theorem step?_eq_some_iff : t.step? turn = some t' ↔ t.Step turn t' := by
  constructor
  · intro h
    cases turn with
    | begin r =>
        cases h
        exact .begin r
    | proceed call =>
        obtain ⟨errand, herrand, h⟩ := Option.bind_eq_some_iff.mp h
        obtain ⟨progress, hprogress, h⟩ := Option.bind_eq_some_iff.mp h
        cases h
        exact .proceed herrand (Errand.advance_eq_some_iff.mp hprogress)
    | take =>
        simp only [step?] at h
        split at h
        next hdue hready hfresh hqueue =>
          cases h
          exact .take hdue hready hfresh hqueue
        · cases h
    | check =>
        simp only [step?] at h
        split at h
        next e hdue hfresh =>
          split at h
          next hcurrent =>
            cases h
            exact .hand hdue hfresh hcurrent
          next hstale =>
            cases h
            exact .discard hdue hfresh (Bool.eq_false_iff.mpr hstale)
        · cases h
    | offer sink =>
        simp only [step?] at h
        split at h
        next e hdue hholding =>
          cases h
          exact .answer hdue hholding
        · cases h
    | report =>
        simp only [step?] at h
        split at h
        next line hdue =>
          cases h
          exact .report hdue
        · cases h
  · intro h
    cases h with
    | begin r => rfl
    | proceed herrand hprogress =>
        simp only [step?, herrand, Option.bind_eq_bind, Option.bind_some,
          Errand.advance_eq_some_iff.mpr hprogress]
    | take hdue hready hfresh hqueue => simp only [step?, hdue, hready, hfresh, hqueue]
    | hand hdue hfresh hcurrent => simp only [step?, hdue, hfresh, hcurrent, if_true]
    | discard hdue hfresh hstale =>
        simp only [step?, hdue, hfresh, hstale, Bool.false_eq_true, if_false]
    | answer hdue hholding => simp only [step?, hdue, hholding]
    | report hdue => simp only [step?, hdue]

/-- Turns are taken one after another. -/
theorem run?_append (t : Traffic) (turns later : List Turn) :
    t.run? (turns ++ later) = (t.run? turns).bind fun t' => t'.run? later := by
  induction turns generalizing t with
  | nil => rfl
  | cons turn turns ih =>
      simp only [List.cons_append, run?, Option.bind_assoc]
      exact Option.bind_congr fun t' _ => ih t'

/-- What each turn preserves holds after all of them. -/
theorem run?_preserves {P : Traffic → Prop}
    (hpreserves : ∀ {t t' : Traffic} {turn : Turn}, P t → t.Step turn t' → P t') (h : P t)
    (hrun : t.run? turns = some t') : P t' := by
  induction turns generalizing t with
  | nil =>
      cases hrun
      exact h
  | cons turn turns ih =>
      obtain ⟨t₁, hstep, hrun⟩ := Option.bind_eq_some_iff.mp hrun
      exact ih (hpreserves h (step?_eq_some_iff.mp hstep)) hrun

/-- Whether every turn is one that is allowed when it is taken. -/
def throughout (allows : Traffic → Turn → Bool) (t : Traffic) : List Turn → Bool
  | [] => true
  | turn :: turns => allows t turn && (t.step? turn).all fun t' => t'.throughout allows turns

/-- What each allowed turn preserves holds after all of them, if all are allowed. -/
theorem run?_preserves_of_throughout {P : Traffic → Prop} {allows : Traffic → Turn → Bool}
    (hpreserves : ∀ {t t' : Traffic} {turn : Turn}, P t → allows t turn = true → t.Step turn t' →
      P t') (h : P t) (hrun : t.run? turns = some t') (hall : t.throughout allows turns = true) :
    P t' := by
  induction turns generalizing t with
  | nil =>
      cases hrun
      exact h
  | cons turn turns ih =>
      obtain ⟨t₁, hstep, hrun⟩ := Option.bind_eq_some_iff.mp hrun
      rw [throughout, hstep, Option.all_some, Bool.and_eq_true] at hall
      exact ih (hpreserves h hall.1 (step?_eq_some_iff.mp hstep)) hrun hall.2

/-- A call that makes so many steps, and nothing comes between. -/
def Turn.whole (call : Nat) (r : Request) (steps : Nat) : List Turn :=
  .begin r :: List.replicate steps (.proceed call)

section Calls

variable {errands : List Errand} {call call' : Nat} {errand errand' : Errand}

/-- The calls after one has begun. -/
theorem of_getElem?_begin (h : (errands ++ [errand])[call]? = some errand') :
    errands[call]? = some errand' ∨ (call = errands.length ∧ errand' = errand) := by
  rw [List.getElem?_append] at h
  split at h
  · exact Or.inl h
  next hcall =>
    have hlast : call = errands.length := by
      have hlength := (List.getElem?_eq_some_iff.mp h).1
      rw [List.length_singleton] at hlength
      omega
    subst hlast
    rw [Nat.sub_self] at h
    cases h
    exact Or.inr ⟨rfl, rfl⟩

/-- The calls after one has made a step. -/
theorem of_getElem?_proceed (h : (errands.set call errand)[call']? = some errand') :
    (call' = call ∧ errand' = errand) ∨ (call' ≠ call ∧ errands[call']? = some errand') := by
  by_cases hcall : call = call'
  · subst hcall
    rw [List.getElem?_set] at h
    simp only [if_true, Option.ite_none_right_eq_some] at h
    exact Or.inl ⟨rfl, (Option.some.inj h.2).symm⟩
  · rw [List.getElem?_set_ne hcall] at h
    exact Or.inr ⟨Ne.symm hcall, h⟩

/-- The call that makes a step, and the others. -/
theorem perm_of_getElem? (h : errands[call]? = some errand) :
    errands.Perm (errand :: errands.eraseIdx call) ∧
      ∀ next, (errands.set call next).Perm (next :: errands.eraseIdx call) := by
  obtain ⟨hcall, rfl⟩ := List.getElem?_eq_some_iff.mp h
  exact ⟨(List.getElem_cons_eraseIdx_perm hcall).symm, List.set_perm_cons_eraseIdx hcall⟩

end Calls

/-- A dispatcher that holds an envelope offers it. -/
theorem publisherStep_of_holding {p : Publisher} {σ : Type} [TopicSink σ] {sink : σ} {e : Envelope}
    (hholding : p.dispatcher = .holding e) {d : Publisher.Dispatched σ}
    (h : p.step sink = some d) : d = p.settleOffer e (TopicSink.offer sink e.delivery) := by
  simp only [Publisher.step, hholding] at h
  split at h
  · cases h
  · cases h
    rfl

/-- A dispatcher that is ready takes the next envelope, and offers it if it is current. -/
theorem publisherStep_of_ready {p : Publisher} {σ : Type} [TopicSink σ] (sink : σ) {e : Envelope}
    {rest : List Envelope} (hready : p.dispatcher = .ready) (hqueue : p.queue = e :: rest) :
    p.step sink =
      if Publisher.isCurrent { p with queue := rest } e then
        some (Publisher.settleOffer { p with queue := rest } e (TopicSink.offer sink e.delivery))
      else some { publisher := { p with queue := rest }, sink, logs := [] } := by
  cases p
  cases hready
  cases hqueue
  rfl

/-- Whether the dispatcher is said to hold the envelope makes no difference once it is offered. -/
theorem settleOffer_holding {σ : Type} (p : Publisher) (e : Envelope) (o : Offered σ) :
    Publisher.settleOffer { p with dispatcher := .holding e } e o = p.settleOffer e o := by
  unfold Publisher.settleOffer Publisher.offerNews?
  cases o.reception <;> rfl

/-- Turns in which the dispatcher has done what it does in one step. -/
structure Dispatches {σ : Type} (t : Traffic) (d : Publisher.Dispatched σ) (turns : List Turn)
    (t' : Traffic) : Prop where
  run : t.run? turns = some t'
  publisher : t'.publisher = d.publisher
  errands : t'.errands = t.errands
  fresh : t'.fresh = none
  due : t'.due = none
  logs : t'.logs = t.logs ++ d.logs

/-- What is done after a first turn in which only the dispatcher's own part has changed. -/
theorem Dispatches.cons {σ : Type} {d : Publisher.Dispatched σ} {t₁ : Traffic} {turn : Turn}
    {turns : List Turn} (h : t₁.Dispatches d turns t') (hstep : t.step? turn = some t₁)
    (herrands : t₁.errands = t.errands) (hlogs : t₁.logs = t.logs) :
    t.Dispatches d (turn :: turns) t' where
  run := by
    rw [run?, hstep, Option.bind_some]
    exact h.run
  publisher := h.publisher
  errands := h.errands.trans herrands
  fresh := h.fresh
  due := h.due
  logs := hlogs ▸ h.logs

/-- A dispatcher that holds an envelope offers it, and logs what there is to be told in a turn of
its own. -/
theorem exists_dispatches_of_holding {σ : Type} [TopicSink σ] (sink : σ) {e : Envelope}
    (hdue : t.due = none) (hfresh : t.fresh = none) (hholding : t.publisher.dispatcher = .holding e) :
    ∃ turns t',
      t.Dispatches (t.publisher.settleOffer e (TopicSink.offer sink e.delivery)) turns t' := by
  let o := TopicSink.offer sink e.delivery
  let offered := t.settle e e.delivery o
  have hoffer : t.step? (.offer sink) = some offered :=
    step?_eq_some_iff.mpr (.answer hdue hholding)
  have hlogs : offered.logs = t.logs ++ o.logs := by
    simp [offered, settle, logs, History.lines, Incident.lines]
  cases hnews : t.publisher.offerNews? e o.reception with
  | none =>
      refine ⟨[.offer sink], offered, ?_, rfl, rfl, hfresh, hnews, ?_⟩
      · rw [run?, hoffer]
        rfl
      · rw [hlogs]
        simp [Publisher.settleOffer, o, hnews]
  | some line =>
      let told : Traffic :=
        { offered with due := none, history := offered.history ++ [.reported line] }
      have hreport : offered.step? .report = some told := step?_eq_some_iff.mpr (.report hnews)
      have htold : told.logs = offered.logs ++ [line] := by
        simp [told, logs, History.lines, Incident.lines]
      refine ⟨[.offer sink, .report], told, ?_, rfl, rfl, hfresh, rfl, ?_⟩
      · rw [run?, hoffer, Option.bind_some, run?, hreport]
        rfl
      · rw [htold, hlogs]
        simp [Publisher.settleOffer, o, hnews]

/-- A dispatcher that has taken an envelope offers it if it is current, and leaves it otherwise. -/
theorem exists_dispatches_of_fresh {σ : Type} [TopicSink σ] (sink : σ) {e : Envelope}
    (hdue : t.due = none) (hfresh : t.fresh = some e) :
    ∃ turns t', t.Dispatches
      (if t.publisher.isCurrent e then
        t.publisher.settleOffer e (TopicSink.offer sink e.delivery)
      else { publisher := t.publisher, sink, logs := [] }) turns t' := by
  split
  next hcurrent =>
    let holds : Traffic :=
      { t with
        publisher := { t.publisher with dispatcher := .holding e }
        fresh := none
        history := t.history ++ [.handed e] }
    have hcheck : t.step? .check = some holds := step?_eq_some_iff.mpr (.hand hdue hfresh hcurrent)
    have hlogs : holds.logs = t.logs := by simp [holds, logs, History.lines, Incident.lines]
    obtain ⟨turns, t', hdispatches⟩ := exists_dispatches_of_holding (t := holds) sink hdue rfl rfl
    rw [settleOffer_holding] at hdispatches
    exact ⟨.check :: turns, t', hdispatches.cons hcheck rfl hlogs⟩
  next hstale =>
    let passed : Traffic := { t with fresh := none, history := t.history ++ [.discarded e] }
    have hcheck : t.step? .check = some passed :=
      step?_eq_some_iff.mpr (.discard hdue hfresh (Bool.eq_false_iff.mpr hstale))
    refine ⟨[.check], passed, ?_, rfl, rfl, rfl, hdue, ?_⟩
    · rw [run?, hcheck]
      rfl
    · simp [passed, logs, History.lines, Incident.lines]

/-- A step of the dispatcher is made of its turns. -/
theorem exists_dispatches_of_step {σ : Type} [TopicSink σ] {sink : σ} {d : Publisher.Dispatched σ}
    (hdue : t.due = none) (hfresh : t.fresh = none) (h : t.publisher.step sink = some d) :
    ∃ turns t', t.Dispatches d turns t' := by
  cases hdispatcher : t.publisher.dispatcher with
  | stopped => simp [Publisher.step, hdispatcher] at h
  | holding e =>
      obtain rfl := publisherStep_of_holding hdispatcher h
      exact exists_dispatches_of_holding sink hdue hfresh hdispatcher
  | ready =>
      cases hqueue : t.publisher.queue with
      | nil => simp [Publisher.step, hdispatcher, hqueue] at h
      | cons e rest =>
          let took : Traffic :=
            { t with
              publisher := { t.publisher with queue := rest }
              fresh := some e
              history := t.history ++ [.taken e] }
          have htake : t.step? .take = some took :=
            step?_eq_some_iff.mpr (.take hdue hdispatcher hfresh hqueue)
          have hlogs : took.logs = t.logs := by simp [took, logs, History.lines, Incident.lines]
          obtain ⟨turns, t', hdispatches⟩ :=
            exists_dispatches_of_fresh (t := took) sink (e := e) hdue rfl
          rw [publisherStep_of_ready sink hdispatcher hqueue, ← apply_ite some] at h
          obtain rfl := Option.some.inj h
          exact ⟨.take :: turns, t', hdispatches.cons htake rfl hlogs⟩

end Traffic

end SensorGateway
