import Mathlib.Algebra.GroupWithZero.Nat
import SensorGateway.Proofs.Bus.History

/-!
# What becomes of every envelope

A call that finds a binding asks for one envelope for each of its topics.  As long as the dispatcher
has not stopped, each of them is queued or lost, in the order of the topics, or still to be queued
(`Traffic.Kept`).  An envelope is lost only when the queue is full, and every loss is counted, in a
later step of the call that has made it (`Traffic.Roomy`).

The ledger is kept by call: the part of the history that is one call's own is changed by the steps of
this call only (`Traffic.own_step`), and there every entry is made at the moment at which the call
goes on.
-/

namespace SensorGateway

/-! ## Entries of the ledger -/

namespace Incident

/-- The call that has published or failed to. -/
def call? : Incident → Option Nat
  | found call _ _ _ | missed call _ | noted call _ _ | queued call _ | cleared call _
  | lost call _ | raised call _ _ | refused call _ | told call _ | parted call _ => some call
  | bound _ _ | forgiven _ | unbound _ | taken _ | handed _ | discarded _ | offered _ _ _ _ _
  | reported _ => none

/-- The binding that a call has found, with the device and the payload. -/
def found? : Incident → Option (String × Binding × Json)
  | found _ device b payload => some (device, b, payload)
  | _ => none

/-- The envelope that a call has tried to queue. -/
def tried? : Incident → Option Envelope
  | queued _ e | lost _ e => some e
  | _ => none

/-- The dispatcher does nothing in the name of a call, and finds no bindings for one. -/
theorem call?_of_isDispatchers {i : Incident} (h : i.isDispatchers = true) :
    i.call? = none ∧ i.found? = none := by
  cases i with
  | taken | handed | discarded | offered | reported => exact ⟨rfl, rfl⟩
  | _ => cases h

end Incident

namespace History

/-- What a call has done about a record that it publishes. -/
def of (h : History) (call : Nat) : History := h.filter fun i => i.call? == some call

/-- The bindings that calls have found, with devices and payloads. -/
abbrev found (h : History) : List (String × Binding × Json) := h.collect Incident.found?

/-- The envelopes that calls have tried to queue. -/
abbrev tried (h : History) : List Envelope := h.collect Incident.tried?

/-- The envelopes that are to be queued for the bindings found: one for each topic. -/
def asked (h : History) : List Envelope :=
  h.found.flatMap fun (device, b, payload) => b.topics.map (b.envelope device payload)

/-- What is asked for later is asked for after what was asked for before. -/
@[simp] theorem asked_append (h h' : History) : asked (h ++ h') = h.asked ++ h'.asked := by
  simp [asked]

/-- Every envelope that is tried is queued or lost. -/
theorem length_tried (h : History) : h.tried.length = h.queued.length + h.lost.length := by
  induction h with
  | nil => rfl
  | cons i h ih =>
      simp only [tried, queued, lost, collect_cons, List.length_append] at ih ⊢
      have hone : i.tried?.toList.length = i.queued?.toList.length + i.lost?.toList.length := by
        cases i <;> rfl
      omega

/-- A call goes on where it was. -/
@[simp] theorem of_append (h h' : History) (call : Nat) :
    of (h ++ h') call = h.of call ++ h'.of call := List.filter_append ..

/-- Of a call that is not in the history there is nothing in it. -/
theorem of_eq_nil {h : History} {call : Nat} (hnot : ∀ i ∈ h, i.call? ≠ some call) :
    h.of call = [] :=
  List.filter_eq_nil_iff.mpr fun i hi heq => hnot i hi (beq_iff_eq.mp heq)

/-- What the dispatcher does is no part of a call. -/
theorem of_dispatchers {h : History} {new : Incident} (hnew : new.isDispatchers = true) (call : Nat) :
    of (h ++ [new]) call = h.of call := by
  have hnone : of [new] call = [] := of_eq_nil fun i hi heq => by
    rw [List.mem_singleton.mp hi, (Incident.call?_of_isDispatchers hnew).1] at heq
    cases heq
  rw [of_append, hnone, List.append_nil]

end History

namespace Errand

/-- What the call will have returned if it stops here. -/
def answer : Errand → Nat
  | sending m | clearing m | counting m _ | raising m _ | telling m _ => m.queued
  | parting _ _ answer | returned answer => answer
  | numbering _ _ | binding _ _ | forgiving _ | unbinding _ | forgetting _ | looking _ _ _
  | warning _ | noting _ _ _ => 0

/-- How many bindings the call will still look for. -/
def looks : Errand → Nat
  | looking _ _ _ => 1
  | _ => 0

/-- How many envelopes the call has lost and not yet counted. -/
def uncounted : Errand → Nat
  | counting _ _ => 1
  | _ => 0

section News

variable (m : Mailing) (device : String) (n : Nat) (news : Option Log.Entry)

/-- To tell something about the queue does not change the answer. -/
@[simp] theorem answer_tellNews : (tellNews m news).answer = m.queued := by cases news <;> rfl

/-- Whatever there is to be told last, the answer is given. -/
@[simp] theorem answer_part : (part device n news).answer = n := by cases news <;> rfl

/-- A call that has come to its topics looks for no binding, -/
@[simp] theorem looks_tellNews : (tellNews m news).looks = 0 := by cases news <;> rfl

/-- nor does one that ends. -/
@[simp] theorem looks_part : (part device n news).looks = 0 := by cases news <;> rfl

/-- What is told is told of envelopes that have been counted. -/
@[simp] theorem uncounted_tellNews : (tellNews m news).uncounted = 0 := by cases news <;> rfl

/-- At the end of a call everything has been counted. -/
@[simp] theorem uncounted_part : (part device n news).uncounted = 0 := by cases news <;> rfl

end News

variable {p : Publisher} {call : Nat} {errand : Errand} {progress : Progress}

/-- A call does nothing in the name of another. -/
theorem Step.eq_call (h : errand.Step p call progress) :
    ∀ i ∈ progress.incident.toList, ∀ c, i.call? = some c → c = call := by
  intro i hi c hc
  cases h with
  | number | forget | note | finish | count => cases hi
  | bind | forgive | unbind =>
      obtain rfl := List.mem_singleton.mp hi
      cases hc
  | miss | find | warn | queue | lose | refuse | clear | raise | tell | part =>
      obtain rfl := List.mem_singleton.mp hi
      exact (Option.some.inj hc).symm

/-- What is told of calls that publish is told of the call's own part of the history. -/
theorem Step.collect_of {α : Type} (tells : Incident → Option α) (h : errand.Step p call progress)
    (htells : ∀ i : Incident, i.call? = none → tells i = none) :
    History.collect tells (History.of progress.incident.toList call)
      = History.collect tells progress.incident.toList := by
  cases hincident : progress.incident with
  | none => rfl
  | some i =>
      cases hcall : i.call? with
      | none => simp [History.of, hcall, htells i hcall]
      | some c =>
          have hi : i ∈ progress.incident.toList := by
            rw [hincident]
            exact List.mem_singleton_self i
          obtain rfl := h.eq_call i hi c hcall
          simp [History.of, hcall]

/-- The ledger of a call that has come so far. -/
structure Tally (errand : Errand) (own : History) : Prop where
  /-- Envelopes are tried in the order of the topics. -/
  served : own.tried ++ errand.unsent = own.asked
  counted : errand.answer = own.queued.length
  /-- A call finds one binding at most. -/
  once : own.found.length + errand.looks ≤ 1

/-- A call begins with an empty ledger. -/
theorem tally_errand (r : Request) : r.errand.Tally [] := by
  cases r with
  | bind | detach => exact ⟨rfl, rfl, Nat.zero_le 1⟩
  | publish => exact ⟨rfl, rfl, Nat.le_refl 1⟩

/-- Unless the dispatcher has stopped, a step tries the next of the envelopes that are to be queued,
or it asks for more. -/
theorem Step.serves (h : errand.Step p call progress) (hopen : p.isClosed = false) :
    History.tried progress.incident.toList ++ progress.errand.unsent
      = errand.unsent ++ History.asked progress.incident.toList := by
  cases h with
  | number | bind | forgive | unbind | forget | miss | part => rfl
  | note | count | tell | find => exact (List.append_nil _).symm
  | warn =>
      rw [unsent_part]
      rfl
  | finish htopics =>
      rw [unsent, unsent, htopics]
      rfl
  | queue htopics | lose htopics =>
      rw [unsent_sending htopics]
      exact (List.append_nil _).symm
  | clear | raise =>
      rw [unsent_tellNews]
      exact (List.append_nil _).symm
  | refuse htopics hclosed =>
      rw [hopen] at hclosed
      cases hclosed

/-- The answer grows by the envelopes that are queued. -/
theorem Step.answers (h : errand.Step p call progress) :
    progress.errand.answer = errand.answer + (History.queued progress.incident.toList).length := by
  cases h with
  | warn =>
      rw [answer_part]
      rfl
  | clear | raise =>
      rw [answer_tellNews]
      rfl
  | number | bind | forgive | unbind | forget | miss | find | note | finish | queue | lose | refuse
  | count | tell | part => rfl

/-- A binding that is found is one less to look for. -/
theorem Step.finds (h : errand.Step p call progress) :
    (History.found progress.incident.toList).length + progress.errand.looks ≤ errand.looks := by
  cases h with
  | warn =>
      rw [looks_part]
      exact Nat.le_refl 0
  | clear | raise =>
      rw [looks_tellNews]
      exact Nat.le_refl 0
  | miss => exact Nat.zero_le 1
  | find => exact Nat.le_refl 1
  | number | bind | forgive | unbind | forget | note | finish | queue | lose | refuse | count | tell
  | part => exact Nat.le_refl 0

/-- Unless the dispatcher has stopped, a step of the call keeps its ledger. -/
theorem Tally.step {own : History} (h : errand.Tally own) (hstep : errand.Step p call progress)
    (hopen : p.isClosed = false) :
    progress.errand.Tally (own ++ History.of progress.incident.toList call) := by
  have htried := hstep.collect_of Incident.tried?
    fun i hi => by cases i <;> first | rfl | cases hi
  have hqueued := hstep.collect_of Incident.queued?
    fun i hi => by cases i <;> first | rfl | cases hi
  have hfound := hstep.collect_of Incident.found?
    fun i hi => by cases i <;> first | rfl | cases hi
  have hasked : History.asked (History.of progress.incident.toList call)
      = History.asked progress.incident.toList := by
    rw [History.asked, History.found, hfound]
    rfl
  refine ⟨?_, ?_, ?_⟩
  · rw [History.tried, History.collect_append, htried, History.asked_append, hasked, List.append_assoc,
      hstep.serves hopen, ← List.append_assoc, h.served]
  · rw [History.queued, History.collect_append, hqueued, List.length_append, hstep.answers, h.counted]
  · have honce := h.once
    have hfinds := hstep.finds
    simp only [History.found, History.collect_append, hfound, List.length_append] at honce hfinds ⊢
    omega

/-- What a call has queued and what it has still to queue. -/
def weight (errand : Errand) : Nat := errand.answer + errand.unsent.length

/-- A topic that is asked for is added to what is to be queued, and an envelope that is lost is taken
from it. -/
theorem Step.weight (h : errand.Step p call progress) (hopen : p.isClosed = false) :
    progress.errand.weight + (History.lost progress.incident.toList).length
      = errand.weight + (History.asked progress.incident.toList).length := by
  have hserves := congrArg List.length (h.serves hopen)
  have hanswers := h.answers
  have htried := History.length_tried progress.incident.toList
  rw [List.length_append, List.length_append] at hserves
  unfold Errand.weight
  omega

/-- What is lost is counted by the next step of the call. -/
theorem Step.dropped (h : errand.Step p call progress) :
    progress.publisher.dropped + progress.errand.uncounted
      = p.dropped + errand.uncounted + (History.lost progress.incident.toList).length := by
  cases h with
  | warn =>
      rw [uncounted_part]
      rfl
  | clear | raise =>
      rw [uncounted_tellNews]
      rfl
  | number | bind | forgive | unbind | forget | miss | find | note | finish | queue | lose | refuse
  | count | tell | part => rfl

end Errand

/-! ## The ledgers of all calls -/

namespace Traffic

variable {t t' : Traffic} {turn : Turn} {turns : List Turn}

/-- The dispatcher does not come back. -/
theorem isClosed_of_step (h : t.InOrder) (hstep : t.Step turn t')
    (hopen : t'.publisher.isClosed = false) : t.publisher.isClosed = false := by
  rw [Publisher.isClosed_eq_false_iff] at hopen ⊢
  cases hstep with
  | begin | discard | report => exact hopen
  | proceed _ hprogress => exact hprogress.dispatcher.1 ▸ hopen
  | take hdue hready => exact hready ▸ nofun
  | hand hdue hfresh => exact h.ready (by rw [hfresh, Option.isSome_some]) ▸ nofun
  | answer hdue hholding => exact hholding ▸ nofun

/-- Whatever calls have done they have done after they have begun. -/
def Begun (t : Traffic) : Prop :=
  ∀ i ∈ t.history, ∀ call, i.call? = some call → call < t.errands.length

/-- Calls act only once they have begun. -/
theorem Begun.step (h : t.Begun) (hstep : t.Step turn t') : t'.Begun := by
  intro i hi call hcall
  rcases hstep.turned with
    ⟨r, -, rfl⟩ | ⟨call', errand, progress, -, herrand, hprogress, rfl⟩
    | ⟨new, hnew, herrands, hhistory, -⟩
  · rw [List.length_append]
    exact Nat.lt_add_right _ (h i hi call hcall)
  · rw [List.length_set]
    rcases List.mem_append.mp hi with hi | hi
    · exact h i hi call hcall
    · rw [hprogress.eq_call i hi call hcall]
      exact (List.getElem?_eq_some_iff.mp herrand).1
  · rw [herrands]
    rcases List.mem_append.mp (hhistory ▸ hi) with hi | hi
    · exact h i hi call hcall
    · obtain rfl := List.mem_singleton.mp hi
      cases (Incident.call?_of_isDispatchers hnew).1.symm.trans hcall

/-- What holds of every call and its own part of the history goes on to hold, if it holds of a call
that begins and is kept by the steps of a call. -/
theorem own_step {R : Errand → History → Prop} (hbegun : t.Begun) (hstep : t.Step turn t')
    (hnew : ∀ r : Request, R r.errand [])
    (hkeeps : ∀ {call : Nat} {errand : Errand} {progress : Errand.Progress} {own : History},
      R errand own → errand.Step t.publisher call progress →
        R progress.errand (own ++ History.of progress.incident.toList call))
    (h : ∀ (call : Nat) (errand : Errand), t.errands[call]? = some errand →
      R errand (t.history.of call)) :
    ∀ (call : Nat) (errand : Errand), t'.errands[call]? = some errand →
      R errand (t'.history.of call) := by
  intro call errand herrand
  rcases hstep.turned with
    ⟨r, -, rfl⟩ | ⟨call', errand', progress, -, herrand', hprogress, rfl⟩
    | ⟨new, hdispatchers, herrands, hhistory, -⟩
  · rcases of_getElem?_begin herrand with herrand | ⟨rfl, rfl⟩
    · exact h call errand herrand
    · rw [History.of_eq_nil fun i hi heq => Nat.lt_irrefl _ (hbegun i hi _ heq)]
      exact hnew r
  · rw [History.of_append]
    rcases of_getElem?_proceed herrand with ⟨rfl, rfl⟩ | ⟨hcall, herrand⟩
    · exact hkeeps (h call errand' herrand') hprogress
    · rw [History.of_eq_nil fun i hi heq => hcall (hprogress.eq_call i hi call heq),
        List.append_nil]
      exact h call errand herrand
  · rw [hhistory, History.of_dispatchers hdispatchers]
    exact h call errand (herrands ▸ herrand)

/-- At the start no call has done anything. -/
theorem begun_start (capacity : Nat) (suppressRepeats : Bool) :
    (start capacity suppressRepeats).Begun := fun _ hi => absurd hi List.not_mem_nil

/-- What holds of every call that begins, and is kept by its steps, holds of every call. -/
theorem own_run {R : Errand → History → Prop} {capacity : Nat} {suppressRepeats : Bool}
    (hnew : ∀ r : Request, R r.errand [])
    (hkeeps : ∀ {p : Publisher} {call : Nat} {errand : Errand} {progress : Errand.Progress}
      {own : History}, R errand own → errand.Step p call progress →
        R progress.errand (own ++ History.of progress.incident.toList call))
    (hrun : (start capacity suppressRepeats).run? turns = some t) :
    ∀ (call : Nat) (errand : Errand), t.errands[call]? = some errand →
      R errand (t.history.of call) := by
  let P (t : Traffic) : Prop := t.Begun ∧ ∀ (call : Nat) (errand : Errand),
    t.errands[call]? = some errand → R errand (t.history.of call)
  have hstart : P (start capacity suppressRepeats) :=
    ⟨begun_start capacity suppressRepeats, nofun⟩
  exact (run?_preserves (P := P)
    (fun h hstep => ⟨h.1.step hstep, own_step h.1 hstep hnew hkeeps h.2⟩) hstart hrun).2

/-- The ledgers of all calls are kept, and they sum up. -/
structure Kept (t : Traffic) : Prop where
  begun : t.Begun
  tally : t.publisher.isClosed = false → ∀ (call : Nat) (errand : Errand),
    t.errands[call]? = some errand → errand.Tally (t.history.of call)
  total : t.publisher.isClosed = false →
    (t.errands.map Errand.weight).sum + t.history.lost.length = t.history.asked.length

/-- Without calls there is nothing to be kept. -/
theorem kept_start (capacity : Nat) (suppressRepeats : Bool) :
    (start capacity suppressRepeats).Kept where
  begun := begun_start capacity suppressRepeats
  tally _ := nofun
  total _ := rfl

/-- The sum over all calls changes as the one that makes a step does. -/
theorem sum_proceed {errands : List Errand} {call : Nat} {errand : Errand} (f : Errand → Nat)
    (next : Errand) (herrand : errands[call]? = some errand) :
    ((errands.set call next).map f).sum + f errand = (errands.map f).sum + f next := by
  obtain ⟨hbefore, hafter⟩ := perm_of_getElem? herrand
  rw [(hbefore.map f).sum_nat, ((hafter next).map f).sum_nat, List.map_cons, List.map_cons,
    List.sum_cons, List.sum_cons]
  omega

/-- A turn keeps the ledgers. -/
theorem Kept.step (h : t.Kept) (horder : t.InOrder) (hstep : t.Step turn t') : t'.Kept := by
  have hopen_of := isClosed_of_step horder hstep
  refine ⟨h.begun.step hstep, fun hopen => ?_, fun hopen => ?_⟩
  · exact own_step h.begun hstep Errand.tally_errand
      (fun htally hprogress => htally.step hprogress (hopen_of hopen)) (h.tally (hopen_of hopen))
  · have htotal := h.total (hopen_of hopen)
    rcases hstep.turned with
      ⟨r, -, rfl⟩ | ⟨call, errand, progress, -, herrand, hprogress, rfl⟩
      | ⟨new, hnew, herrands, hhistory, -⟩
    · have hweight : r.errand.weight = 0 := by cases r <;> rfl
      simpa [hweight] using htotal
    · have hweight := hprogress.weight (hopen_of hopen)
      have hsum := sum_proceed Errand.weight progress.errand herrand
      simp only [History.lost, History.collect_append, History.asked_append, List.length_append]
        at htotal hweight ⊢
      omega
    · obtain ⟨-, -, -, hlost⟩ := Incident.of_isDispatchers hnew
      have hfound := (Incident.call?_of_isDispatchers hnew).2
      rw [hhistory, herrands]
      simpa [History.asked, hlost, hfound] using htotal

/-! ## Room in the queue -/

/-- An offer leaves capacity and count alone, and puts nothing into the queue. -/
theorem queue_settleOffer (p : Publisher) (e : Envelope) {σ : Type} (o : Offered σ) :
    (p.settleOffer e o).publisher.capacity = p.capacity ∧
      (p.settleOffer e o).publisher.dropped = p.dropped ∧
      (p.settleOffer e o).publisher.queue.length ≤ p.queue.length := by
  unfold Publisher.settleOffer
  cases o.reception <;> simp

/-- The queue is never too full, and what does not fit is counted. -/
structure Roomy (capacity : Nat) (t : Traffic) : Prop where
  capacity : t.publisher.capacity = max capacity 1
  room : t.publisher.queue.length ≤ t.publisher.capacity
  /-- What has been lost has been counted, or a call is about to count it. -/
  dropped : t.publisher.dropped + (t.errands.map Errand.uncounted).sum = t.history.lost.length

/-- At the start there is room. -/
theorem roomy_start (capacity : Nat) (suppressRepeats : Bool) :
    (start capacity suppressRepeats).Roomy capacity := ⟨rfl, Nat.zero_le _, rfl⟩

/-- What is put into the queue has room there. -/
theorem Roomy.step {capacity : Nat} (h : t.Roomy capacity) (hstep : t.Step turn t') :
    t'.Roomy capacity := by
  have hdropped := h.dropped
  cases hstep with
  | begin r =>
      have hnone : r.errand.uncounted = 0 := by cases r <;> rfl
      exact ⟨h.capacity, h.room, by simpa [hnone] using hdropped⟩
  | @proceed call errand progress herrand hprogress =>
      refine ⟨?_, ?_, ?_⟩
      · rcases hprogress.effect with ⟨e, -, -, hpublisher, -⟩ | ⟨e, -, -, hpublisher, -⟩ | ⟨hsame, -⟩
        · exact hpublisher ▸ h.capacity
        · exact hpublisher ▸ h.capacity
        · exact hsame.capacity.trans h.capacity
      · rcases hprogress.effect with
          ⟨e, -, hroom, hpublisher, -⟩ | ⟨e, -, -, hpublisher, -⟩ | ⟨hsame, -⟩
        · rw [hpublisher, Publisher.put, List.length_append]
          exact hroom
        · exact hpublisher ▸ h.room
        · rw [hsame.queue, hsame.capacity]
          exact h.room
      · have hcount := hprogress.dropped
        have hsum := sum_proceed Errand.uncounted progress.errand herrand
        simp only [History.lost, History.collect_append, List.length_append] at hcount hdropped ⊢
        omega
  | take hdue hready hfresh hqueue =>
      have hroom := h.room
      rw [hqueue, List.length_cons] at hroom
      exact ⟨h.capacity, Nat.le_of_succ_le hroom, by simpa [Incident.lost?] using hdropped⟩
  | hand | discard | report =>
      exact ⟨h.capacity, h.room, by simpa [Incident.lost?] using hdropped⟩
  | @answer _ _ sink e hdue hholding =>
      obtain ⟨hcapacity, hcount, hqueue⟩ :=
        queue_settleOffer t.publisher e (TopicSink.offer sink e.delivery)
      refine ⟨hcapacity.trans h.capacity, ?_, ?_⟩
      · exact hcapacity ▸ Nat.le_trans hqueue h.room
      · rw [publisher_settle, hcount]
        simpa [settle, Incident.lost?] using hdropped

/-- The ledgers are kept in every run. -/
theorem kept_run {capacity : Nat} {suppressRepeats : Bool}
    (hrun : (start capacity suppressRepeats).run? turns = some t) : t.Kept :=
  (run?_preserves (P := fun t => t.InOrder ∧ t.Kept)
    (fun h hstep => ⟨h.1.step hstep, h.2.step h.1 hstep⟩)
    ⟨inOrder_start capacity suppressRepeats, kept_start capacity suppressRepeats⟩ hrun).2

/-- The queue is never too full. -/
theorem roomy_run {capacity : Nat} {suppressRepeats : Bool}
    (hrun : (start capacity suppressRepeats).run? turns = some t) : t.Roomy capacity :=
  run?_preserves Roomy.step (roomy_start capacity suppressRepeats) hrun

/-- An envelope is lost only when there are as many in the queue as it can hold. -/
theorem full_of_lost {capacity : Nat} {suppressRepeats : Bool}
    (hrun : (start capacity suppressRepeats).run? turns = some t) {past later : History}
    {call : Nat} {e : Envelope} (hhistory : t.history = past ++ .lost call e :: later) :
    past.queued.length = past.taken.length + max capacity 1 := by
  obtain ⟨turns₀, turn, t₀, t₁, hrun₀, hstep, rfl, hi⟩ :=
    exists_step_of_history hrun (Nat.zero_le _) hhistory
  have hroomy := roomy_run hrun₀
  obtain ⟨rest, hqueued, hrest⟩ := (inOrder_run hrun₀).waiting
  rcases hstep.turned with
    ⟨r, -, rfl⟩ | ⟨_, _, progress, -, _, hprogress, rfl⟩ | ⟨new, hnew, -, hhistory', -⟩
  · simp at hi
  · rw [List.append_cancel_left_eq] at hi
    rcases hprogress.effect with
      ⟨e, -, -, -, hincident⟩ | ⟨e, hopen, hfull, -, -⟩ | ⟨-, -, hlost⟩
    · rw [hincident] at hi
      cases hi
    · have hlength : t₀.publisher.queue.length = max capacity 1 :=
        Nat.le_antisymm (hroomy.capacity ▸ hroomy.room) (hroomy.capacity ▸ hfull)
      rw [hrest hopen] at hlength
      rw [← List.length_map Prod.snd, hqueued, List.length_append, hlength]
    · rw [hi] at hlost
      cases hlost
  · cases List.append_cancel_left (hhistory'.symm.trans hi)
    cases hnew

end Traffic

end SensorGateway
