import Mathlib.Data.List.Induction
import SensorGateway.Proofs.Bus.Ledger
import SensorGateway.Proofs.Bus.Trials

/-!
# What is told, and the marks that decide it

Whatever is told of a trouble is decided by a mark, at the moment at which the mark is moved.  The
marks of the sink and of the queue are moved by one trial after another (`Traffic.Marked`), and that
of a device is set when a call notes that it has warned about it, and cleared when another one
forgives it (`Traffic.noted_iff`).

Everything that is decided is also said, and by the one that has decided it: the dispatcher logs what
there is to be told of an offer before it goes on, and so does every call (`Errand.Outspoken`).
-/

namespace SensorGateway

/-! ## What an incident tells of a trouble -/

namespace Incident

/-- An offer that the sink has answered, as a trial of the sink. -/
def bus? : Incident → Option Trial
  | offered e _ r _ news =>
      match r with
      | .accepted => some { warning := none, said := news.toList }
      | .failed error =>
          some { warning := some (Publisher.failedWarning e error), said := news.toList }
      | .blocked | .broken => none
  | _ => none

/-- What a call notes about the queue, as a trial of the queue. -/
def room? : Incident → Option Trial
  | cleared _ news => some { warning := none, said := news.toList }
  | raised _ e news => some { warning := some (Publisher.fullWarning e), said := news.toList }
  | _ => none

/-- What there is to warn of, if a call has tried to queue an envelope. -/
def attempt? : Incident → Option (Option Log.Entry)
  | queued _ _ => some none
  | lost _ e => some (some (Publisher.fullWarning e))
  | _ => none

/-- The line that a call has logged about the queue. -/
def told? : Incident → Option Log.Entry
  | told _ line => some line
  | _ => none

/-- The line that the dispatcher has logged. -/
def reported? : Incident → Option Log.Entry
  | reported line => some line
  | _ => none

/-- What a call has to tell. -/
def news? : Incident → Option Log.Entry
  | noted _ _ news | cleared _ news | raised _ _ news => news
  | refused _ _ => some Publisher.stoppedError
  | _ => none

/-- The device that a call has noted as warned about. -/
def noted? : Incident → Option String
  | noted _ device _ => some device
  | _ => none

/-- The device that may be warned about again. -/
def forgiven? : Incident → Option String
  | forgiven device => some device
  | _ => none

end Incident

namespace History

/-- The offers that the sink has answered. -/
abbrev offers (h : History) : List Trial := h.collect Incident.bus?

/-- What calls have noted about the queue. -/
abbrev marks (h : History) : List Trial := h.collect Incident.room?

/-- What there was to warn of at each attempt to queue an envelope. -/
abbrev attempts (h : History) : List (Option Log.Entry) := h.collect Incident.attempt?

/-- What calls have logged about the queue. -/
abbrev told (h : History) : List Log.Entry := h.collect Incident.told?

/-- What the dispatcher has logged. -/
abbrev reported (h : History) : List Log.Entry := h.collect Incident.reported?

/-- What calls had to tell. -/
abbrev news (h : History) : List Log.Entry := h.collect Incident.news?

/-- What is told of a turn is told of its incident. -/
theorem collect_toList {α : Type} (tells : Incident → Option α) (new : Option Incident) :
    collect tells new.toList = (new.bind tells).toList := by
  cases new with
  | none => rfl
  | some i => simp

/-- What is logged later comes later. -/
@[simp] theorem lines_append (h h' : History) : lines (h ++ h') = h.lines ++ h'.lines :=
  List.flatMap_append

/-! ## What was the case since then -/

/-- One thing has happened to a device, and another has not happened to it since. -/
def Since (begins ends : Incident → Option String) (h : History) (device : String) : Prop :=
  ∃ before i since, h = before ++ i :: since ∧ begins i = some device ∧
    ∀ j ∈ since, ends j ≠ some device

variable {begins ends : Incident → Option String} {h : History} {device : String}

/-- What is the case after a further incident depends on it and on what was the case before. -/
theorem since_concat {i : Incident} :
    Since begins ends (h ++ [i]) device ↔
      begins i = some device ∨ Since begins ends h device ∧ ends i ≠ some device := by
  constructor
  · rintro ⟨before, m, since, hm, hbegins, hsince⟩
    rcases List.eq_nil_or_concat since with rfl | ⟨since, j, rfl⟩
    · obtain rfl := List.singleton_inj.mp (List.append_inj' hm rfl).2
      exact Or.inl hbegins
    · rw [List.concat_eq_append, ← List.cons_append, ← List.append_assoc] at hm
      obtain ⟨rfl, hi⟩ := List.append_inj' hm rfl
      obtain rfl := List.singleton_inj.mp hi
      rw [List.concat_eq_append] at hsince
      refine Or.inr ⟨⟨before, m, since, rfl, hbegins, fun j hj => ?_⟩, ?_⟩
      · exact hsince j (List.mem_append_left _ hj)
      · exact hsince i (List.mem_append_right _ (List.mem_singleton_self i))
  · rintro (hbegins | ⟨⟨before, m, since, rfl, hbegins, hsince⟩, hends⟩)
    · exact ⟨h, i, [], rfl, hbegins, fun _ hj => absurd hj List.not_mem_nil⟩
    · refine ⟨before, m, since ++ [i], by rw [List.append_assoc, List.cons_append], hbegins, ?_⟩
      intro j hj
      rcases List.mem_append.mp hj with hj | hj
      · exact hsince j hj
      · exact List.mem_singleton.mp hj ▸ hends

/-- Nothing has been the case before anything has happened. -/
theorem not_since_nil : ¬ Since begins ends [] device := by
  rintro ⟨before, i, since, h, -⟩
  exact List.append_ne_nil_of_right_ne_nil before (List.cons_ne_nil i since) h.symm

/-- What is the case is found by going through the history once. -/
theorem since_iff_foldl :
    Since begins ends h device ↔
      h.foldl (fun b i => begins i == some device || b && ends i != some device) false = true := by
  induction h using List.reverseRecOn with
  | nil => exact ⟨fun h => absurd h not_since_nil, nofun⟩
  | append_singleton h i ih => simp [since_concat, ih, List.foldl_append]

instance : Decidable (Since begins ends h device) := decidable_of_iff _ since_iff_foldl.symm

/-- After a turn the case is what its incident makes of it. -/
theorem since_append_toList {new : Option Incident} :
    Since begins ends (h ++ new.toList) device ↔
      new.bind begins = some device ∨
        Since begins ends h device ∧ new.bind ends ≠ some device := by
  cases new with
  | none => simp
  | some i => exact since_concat

/-- A call has noted that the device has been warned about, and the device has not been forgiven
since. -/
abbrev Noted (h : History) (device : String) : Prop :=
  h.Since Incident.noted? Incident.forgiven? device

end History

/-! ## The marks of sink and queue -/

/-- A step of a call leaves the mark of the sink alone, and moves that of the queue if it is to note
something about the queue. -/
theorem Errand.Step.moves {p : Publisher} {call : Nat} {errand : Errand} {progress : Progress}
    (h : errand.Step p call progress) :
    progress.publisher.suppressRepeats = p.suppressRepeats ∧
      progress.publisher.sinkFailing = p.sinkFailing ∧
      Trial.Moves p.suppressRepeats Publisher.queueDrained p.queueFull
        (progress.incident.bind Incident.room?) progress.publisher.queueFull := by
  cases h with
  | clear =>
      refine ⟨rfl, rfl, rfl, ?_⟩
      unfold Publisher.clearNews?
      cases p.queueFull <;> rfl
  | raise =>
      refine ⟨rfl, rfl, rfl, ?_⟩
      unfold Publisher.raiseNews? Publisher.warns
      cases p.queueFull <;> cases p.suppressRepeats <;> rfl
  | number | bind | forgive | unbind | forget | miss | find | warn | note | finish | queue | lose
  | refuse | count | tell | part => exact ⟨rfl, rfl, rfl⟩

/-- An answer of the sink moves the mark of the sink, and not that of the queue. -/
theorem Publisher.moves_settleOffer {σ : Type} (p : Publisher) (e : Envelope) (d : Delivery)
    (o : Offered σ) :
    (p.settleOffer e o).publisher.suppressRepeats = p.suppressRepeats ∧
      (p.settleOffer e o).publisher.queueFull = p.queueFull ∧
      Trial.Moves p.suppressRepeats busAvailable p.sinkFailing
        (Incident.offered e d o.reception o.logs (p.offerNews? e o.reception)).bus?
        (p.settleOffer e o).publisher.sinkFailing := by
  unfold settleOffer offerNews? warns Incident.bus?
  cases o.reception with
  | accepted =>
      refine ⟨rfl, rfl, rfl, ?_⟩
      cases p.sinkFailing <;> rfl
  | failed error =>
      refine ⟨rfl, rfl, rfl, ?_⟩
      cases p.sinkFailing <;> cases p.suppressRepeats <;> rfl
  | blocked | broken => exact ⟨rfl, rfl, rfl⟩

namespace Traffic

variable {t t' : Traffic} {turn : Turn} {turns : List Turn}

/-- The marks of sink and queue say how the last trial ended, and what there is to be told of the
sink is logged. -/
structure Marked (suppress : Bool) (t : Traffic) : Prop where
  repeats : t.publisher.suppressRepeats = suppress
  bus : Latched suppress Publisher.busAvailable t.history.offers t.publisher.sinkFailing
  room : Latched suppress Publisher.queueDrained t.history.marks t.publisher.queueFull
  reports : t.history.reported ++ t.due.toList = t.history.offers.flatMap Trial.said

/-- At the start no mark is set. -/
theorem marked_start (capacity : Nat) (suppressRepeats : Bool) :
    (start capacity suppressRepeats).Marked suppressRepeats where
  repeats := rfl
  bus := .nil
  room := .nil
  reports := rfl

/-- A turn moves a mark by its own trial, if at all. -/
theorem Marked.step {suppress : Bool} (h : t.Marked suppress) (hstep : t.Step turn t') :
    t'.Marked suppress := by
  have hbus := h.bus
  have hroom := h.room
  have hreports := h.reports
  cases hstep with
  | begin r => exact ⟨h.repeats, h.bus, h.room, h.reports⟩
  | @proceed call errand progress herrand hprogress =>
      obtain ⟨hrepeats, hsink, hmoves⟩ := hprogress.moves
      have hoffers : History.offers progress.incident.toList = [] := by cases hprogress <;> rfl
      have hreported : History.reported progress.incident.toList = [] := by
        cases hprogress <;> rfl
      rw [h.repeats] at hmoves
      refine ⟨hrepeats.trans h.repeats, ?_, ?_, ?_⟩
      · simpa [hoffers, hsink] using hbus
      · have hmarks := hroom.append hmoves
        rw [← History.collect_toList] at hmarks
        simpa only [History.collect_append] using hmarks
      · simpa [hoffers, hreported] using hreports
  | take | hand | discard =>
      refine ⟨h.repeats, ?_, ?_, ?_⟩
      · simpa [Incident.bus?] using hbus
      · simpa [Incident.room?] using hroom
      · simpa [Incident.bus?, Incident.reported?] using hreports
  | @report line hdue =>
      refine ⟨h.repeats, ?_, ?_, ?_⟩
      · simpa [Incident.bus?] using hbus
      · simpa [Incident.room?] using hroom
      · simpa [Incident.bus?, Incident.reported?, hdue] using hreports
  | @answer _ _ sink e hdue hholding =>
      let o := TopicSink.offer sink e.delivery
      obtain ⟨hrepeats, hfull, hmoves⟩ := t.publisher.moves_settleOffer e e.delivery o
      rw [h.repeats] at hmoves
      refine ⟨hrepeats.trans h.repeats, ?_, ?_, ?_⟩
      · rw [History.offers, collect_settle]
        exact hbus.append hmoves
      · rw [publisher_settle, hfull]
        simpa [collect_settle, Incident.room?] using hroom
      · rw [hdue] at hreports
        simp only [collect_settle, List.flatMap_append, Incident.reported?, Option.toList_none,
          List.append_nil] at hreports ⊢
        rw [← hreports]
        unfold settle Incident.bus? Publisher.offerNews?
        cases (TopicSink.offer sink e.delivery).reception <;> simp

/-- The marks say how the last trial ended in every run. -/
theorem marked_run {capacity : Nat} {suppressRepeats : Bool}
    (hrun : (start capacity suppressRepeats).run? turns = some t) : t.Marked suppressRepeats :=
  run?_preserves Marked.step (marked_start capacity suppressRepeats) hrun

end Traffic

/-! ## What calls have to tell -/

namespace Errand

/-- The line that the call is about to log. -/
def due : Errand → List Log.Entry
  | telling _ line | parting _ line _ => [line]
  | _ => []

/-- The line about the queue that the call is about to log. -/
def untold : Errand → List Log.Entry
  | telling _ line => [line]
  | _ => []

/-- The attempt to queue an envelope of which the call is about to take note. -/
def unmarked : Errand → List (Option Log.Entry)
  | clearing _ => [none]
  | counting _ e | raising _ e => [some (Publisher.fullWarning e)]
  | _ => []

section News

variable (m : Mailing) (device : String) (n : Nat) (news : Option Log.Entry)

/-- What there is to be told of the queue is logged next. -/
@[simp] theorem due_tellNews : (tellNews m news).due = news.toList := by cases news <;> rfl

/-- What there is to be told last is logged next. -/
@[simp] theorem due_part : (part device n news).due = news.toList := by cases news <;> rfl

/-- What there is to be told of the queue is not yet told. -/
@[simp] theorem untold_tellNews : (tellNews m news).untold = news.toList := by cases news <;> rfl

/-- The last line is none about the queue. -/
@[simp] theorem untold_part : (part device n news).untold = [] := by cases news <;> rfl

/-- There is something to tell once note has been taken. -/
@[simp] theorem unmarked_tellNews : (tellNews m news).unmarked = [] := by cases news <;> rfl

/-- At the end of a call note has been taken of everything. -/
@[simp] theorem unmarked_part : (part device n news).unmarked = [] := by cases news <;> rfl

end News

variable {p : Publisher} {call : Nat} {errand : Errand} {progress : Progress}

/-- A call takes note of what it has tried, and of nothing else. -/
theorem Step.marks (h : errand.Step p call progress) :
    errand.unmarked ++ History.attempts progress.incident.toList
      = (History.marks progress.incident.toList).map Trial.warning ++ progress.errand.unmarked := by
  cases h with
  | warn =>
      rw [unmarked_part]
      rfl
  | clear | raise =>
      rw [unmarked_tellNews]
      rfl
  | number | bind | forgive | unbind | forget | miss | find | note | finish | queue | lose | refuse
  | count | tell | part => rfl

/-- A call tells of the queue what it has decided to tell. -/
theorem Step.tells (h : errand.Step p call progress) :
    History.told progress.incident.toList ++ progress.errand.untold
      = errand.untold ++ (History.marks progress.incident.toList).flatMap Trial.said := by
  cases h with
  | warn =>
      rw [untold_part]
      rfl
  | clear | raise =>
      rw [untold_tellNews]
      exact (List.append_nil _).symm
  | number | bind | forgive | unbind | forget | miss | find | note | finish | queue | lose | refuse
  | count | tell | part => rfl

/-- A call logs what it has to tell, and nothing else. -/
theorem Step.logs (h : errand.Step p call progress) :
    History.lines progress.incident.toList ++ progress.errand.due
      = errand.due ++ History.news progress.incident.toList := by
  cases h with
  | @warn device =>
      rw [due_part]
      cases p.unboundNews? device <;> rfl
  | clear =>
      rw [due_tellNews]
      cases p.clearNews? <;> rfl
  | @raise m e =>
      rw [due_tellNews]
      cases p.raiseNews? e <;> rfl
  | number | bind | forgive | unbind | forget | miss | find | note | finish | queue | lose | refuse
  | count | tell | part => rfl

/-- What a call logs it logs in its own name. -/
theorem Step.lines_of (h : errand.Step p call progress) :
    History.lines (History.of progress.incident.toList call)
      = History.lines progress.incident.toList := by
  cases h with
  | number | forget | note | finish | count => rfl
  | bind | forgive | unbind | miss | find | warn | queue | lose | refuse | clear | raise | tell
  | part => simp [History.of, History.lines, Incident.call?, Incident.lines]

/-- A call has taken note of what it has tried, and logged what it had to tell, but for what it is
about to note or to log. -/
structure Outspoken (errand : Errand) (own : History) : Prop where
  marked : own.attempts = own.marks.map Trial.warning ++ errand.unmarked
  told : own.lines ++ errand.due = own.news

/-- A call begins with nothing to tell. -/
theorem outspoken_errand (r : Request) : r.errand.Outspoken [] := by
  cases r <;> exact ⟨rfl, rfl⟩

/-- A step of the call takes note, or logs, or gives the call something to do so about. -/
theorem Outspoken.step {own : History} (h : errand.Outspoken own)
    (hstep : errand.Step p call progress) :
    progress.errand.Outspoken (own ++ History.of progress.incident.toList call) := by
  have hattempts := hstep.collect_of Incident.attempt?
    fun i hi => by cases i <;> first | rfl | cases hi
  have hmarks := hstep.collect_of Incident.room?
    fun i hi => by cases i <;> first | rfl | cases hi
  have hnews := hstep.collect_of Incident.news?
    fun i hi => by cases i <;> first | rfl | cases hi
  constructor
  · have hown := h.marked
    simp only [History.attempts, History.marks, History.collect_append, hattempts, hmarks,
      List.map_append] at hown ⊢
    rw [hown, List.append_assoc, hstep.marks, List.append_assoc]
  · have hown := h.told
    simp only [History.news, History.lines_append, History.collect_append, hstep.lines_of, hnews]
      at hown ⊢
    rw [← hown, List.append_assoc, hstep.logs, List.append_assoc]

end Errand

namespace Traffic

variable {t t' : Traffic} {turn : Turn} {turns : List Turn}

/-- Calls tell what they have to tell in every run. -/
theorem outspoken_run {capacity : Nat} {suppressRepeats : Bool}
    (hrun : (start capacity suppressRepeats).run? turns = some t) :
    ∀ (call : Nat) (errand : Errand), t.errands[call]? = some errand →
      errand.Outspoken (t.history.of call) :=
  own_run Errand.outspoken_errand Errand.Outspoken.step hrun

/-! ## Devices that have been warned about -/

/-- A device is marked when a call notes it, until another one forgives it. -/
theorem warned_of_step {p : Publisher} {call : Nat} {errand : Errand} {progress : Errand.Progress}
    (h : errand.Step p call progress) (device : String) :
    device ∈ progress.publisher.warnedUnbound ↔
      progress.incident.bind Incident.noted? = some device ∨
        device ∈ p.warnedUnbound ∧ progress.incident.bind Incident.forgiven? ≠ some device := by
  cases h with
  | @warn device' =>
      rw [Publisher.noteUnbound, List.mem_insert_iff]
      simp [Incident.noted?, Incident.forgiven?, @eq_comm _ device]
  | @forgive device' =>
      simp [Incident.noted?, Incident.forgiven?, @eq_comm _ device]
  | number | bind | unbind | forget | miss | find | note | finish | queue | lose | refuse | clear
  | count | raise | tell | part => exact ⟨fun h => Or.inr ⟨h, nofun⟩, fun h => h.elim nofun And.left⟩

/-- The devices that are marked are those that have been noted and not forgiven since. -/
theorem noted_iff {capacity : Nat} {suppressRepeats : Bool}
    (hrun : (start capacity suppressRepeats).run? turns = some t) (device : String) :
    device ∈ t.publisher.warnedUnbound ↔ t.history.Noted device := by
  refine run?_preserves (P := fun t => device ∈ t.publisher.warnedUnbound ↔ t.history.Noted device)
    (fun {t t' turn} h hstep => ?_)
    ⟨fun h => absurd h List.not_mem_nil, fun h => absurd h History.not_since_nil⟩ hrun
  cases hstep with
  | begin r => exact h
  | proceed herrand hprogress =>
      rw [warned_of_step hprogress, h]
      exact History.since_append_toList.symm
  | take | hand | discard | report =>
      simpa [History.since_concat, Incident.noted?, Incident.forgiven?] using h
  | @answer _ _ sink e hdue hholding =>
      have hsame : (t.publisher.settleOffer e (TopicSink.offer sink e.delivery)).publisher.warnedUnbound
          = t.publisher.warnedUnbound := by
        unfold Publisher.settleOffer
        cases (TopicSink.offer sink e.delivery).reception <;> rfl
      rw [publisher_settle, hsame]
      simpa [settle, History.since_concat, Incident.noted?, Incident.forgiven?] using h

/-- Of a device that is marked nothing is told. -/
theorem unboundNews?_of_mem {p : Publisher} {device : String} (h : device ∈ p.warnedUnbound) :
    p.unboundNews? device = none := if_pos (List.contains_iff_mem.mpr h)

/-- A device that is not marked is warned about. -/
theorem unboundNews?_of_not_mem {p : Publisher} {device : String} (h : device ∉ p.warnedUnbound) :
    p.unboundNews? device = some (Publisher.unboundWarning device) :=
  if_neg (mt List.contains_iff_mem.mp h)

/-- A device is warned about when a call notes it, unless that has been done since it was forgiven
last. -/
theorem news_of_noted {capacity : Nat} {suppressRepeats : Bool}
    (hrun : (start capacity suppressRepeats).run? turns = some t) {past later : History}
    {call : Nat} {device : String} {news : Option Log.Entry}
    (hhistory : t.history = past ++ .noted call device news :: later) :
    (past.Noted device → news = none) ∧
      (¬ past.Noted device → news = some (Publisher.unboundWarning device)) := by
  obtain ⟨before, turn, t₀, t₁, hbefore, hstep, rfl, hi⟩ :=
    exists_step_of_history hrun (Nat.zero_le _) hhistory
  have hnoted := noted_iff hbefore device
  have hnews : news = t₀.publisher.unboundNews? device := by
    rcases hstep.turned with
      ⟨r, -, rfl⟩ | ⟨_, _, progress, -, _, hprogress, rfl⟩ | ⟨new, hnew, -, hhistory', -⟩
    · simp at hi
    · have hi := Option.toList_eq_singleton_iff.mp (List.append_cancel_left hi)
      cases hprogress with
      | warn =>
          cases hi
          rfl
      | _ => cases hi
    · cases List.append_cancel_left (hhistory'.symm.trans hi)
      cases hnew
  rw [hnews, ← hnoted]
  exact ⟨unboundNews?_of_mem, unboundNews?_of_not_mem⟩

end Traffic

end SensorGateway
