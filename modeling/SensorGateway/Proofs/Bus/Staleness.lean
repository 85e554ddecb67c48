import SensorGateway.Proofs.Bus.History

/-!
# Nothing stale is delivered

An envelope is published under the binding that a call has found, and it is handed to the sink if and
only if that very binding stands when the dispatcher looks at it: its device has been neither bound
nor detached since the call found the binding.

Generations carry this.  No two bindings have the same, although calls that bind draw a number first
and make their binding later, in any order (`Traffic.Numbered`).  Every envelope that waits carries
the generation of the binding that its call has found (`Traffic.Attributed`), and the dispatcher
compares it with that of the binding which stands (`History.standing`).
-/

namespace SensorGateway

/-! ## The binding that stands -/

/-- What is left of the binding that a device had, or takes its place. -/
def Incident.rebind (device : String) (old : Option Binding) : Incident → Option Binding
  | bound d b => if d = device then some b else old
  | unbound d => if d = device then none else old
  | _ => old

/-- The device for whose binding a call has looked, and the binding, if there was one. -/
def Incident.sought? : Incident → Option (String × Option Binding)
  | found _ device b _ => some (device, some b)
  | missed _ device => some (device, none)
  | _ => none

namespace History

/-- The device is neither bound nor detached. -/
def Spares (h : History) (device : String) : Prop := ∀ i ∈ h, i.rebound? ≠ some device

instance (h : History) (device : String) : Decidable (h.Spares device) :=
  inferInstanceAs (Decidable (∀ i ∈ h, i.rebound? ≠ some device))

/-- What a call finds leaves the binding of a device as it is. -/
theorem spares_cons_found {call : Nat} {device device' : String} {b : Binding} {payload : Json}
    {h : History} : Spares (.found call device b payload :: h) device' ↔ h.Spares device' :=
  List.forall_mem_cons.trans (and_iff_right nofun)

/-- The binding that a device has after all of it. -/
def standing (h : History) (device : String) : Option Binding :=
  h.foldl (Incident.rebind device) none

variable {past later : History} {device : String} {b : Binding}

/-- An incident that has nothing to do with the binding of a device leaves it as it was. -/
theorem rebind_of_ne {i : Incident} (h : i.rebound? ≠ some device) (old : Option Binding) :
    i.rebind device old = old := by
  cases i with
  | bound d | unbound d => exact if_neg fun heq => h (congrArg some heq)
  | _ => rfl

/-- A device has the binding that it was given last, or the one that it had before. -/
theorem foldl_rebind_eq_some {old : Option Binding} {h : History}
    (hb : h.foldl (Incident.rebind device) old = some b) :
    (old = some b ∧ h.Spares device) ∨
      ∃ before since, h = before ++ .bound device b :: since ∧ Spares since device := by
  induction h generalizing old with
  | nil => exact Or.inl ⟨hb, fun i hi => absurd hi List.not_mem_nil⟩
  | cons i h ih =>
      rcases ih hb with ⟨hold, hspares⟩ | ⟨before, since, rfl, hspares⟩
      · by_cases hi : i.rebound? = some device
        · cases i with
          | bound d b' =>
              obtain rfl : d = device := Option.some.inj hi
              rw [Incident.rebind, if_pos rfl] at hold
              cases hold
              exact Or.inr ⟨[], h, rfl, hspares⟩
          | unbound d =>
              obtain rfl : d = device := Option.some.inj hi
              rw [Incident.rebind, if_pos rfl] at hold
              cases hold
          | _ => cases hi
        · rw [rebind_of_ne hi] at hold
          exact Or.inl ⟨hold, List.forall_mem_cons.mpr ⟨hi, hspares⟩⟩
      · exact Or.inr ⟨i :: before, since, rfl, hspares⟩

/-- A binding stands as long as it is spared. -/
theorem standing_append_of_spares (h : later.Spares device) :
    standing (past ++ later) device = past.standing device := by
  unfold standing
  rw [List.foldl_append]
  induction later with
  | nil => rfl
  | cons i later ih =>
      obtain ⟨hi, hlater⟩ := List.forall_mem_cons.mp h
      rw [List.foldl_cons, rebind_of_ne hi]
      exact ih hlater

/-- A binding that stands has been made, and was spared since. -/
theorem exists_bound_of_standing (h : past.standing device = some b) :
    ∃ before since, past = before ++ .bound device b :: since ∧ Spares since device := by
  rcases foldl_rebind_eq_some h with ⟨hnone, -⟩ | hbound
  · cases hnone
  · exact hbound

/-- A binding that stands is one of those that were made. -/
theorem mem_bindings_of_standing (h : past.standing device = some b) : b ∈ past.bindings := by
  obtain ⟨before, since, rfl, -⟩ := exists_bound_of_standing h
  simp [Incident.binding?]

/-- A binding that takes the place of another is made after it. -/
theorem mem_bindings_of_not_spares (h : standing (past ++ later) device = some b)
    (hlater : ¬ later.Spares device) : b ∈ later.bindings := by
  unfold standing at h
  rw [List.foldl_append] at h
  rcases foldl_rebind_eq_some h with ⟨-, hspares⟩ | ⟨before, since, rfl, -⟩
  · exact absurd hspares hlater
  · simp [Incident.binding?]

end History

/-! ## Numbers are drawn once -/

namespace Errand

variable {p : Publisher} {call : Nat} {errand : Errand} {progress : Progress}

/-- The numbers that a call has drawn for bindings not yet made. -/
def drawn : Errand → List Nat
  | binding _ b => [b.generation]
  | _ => []

/-- No number is drawn for a line that is told, -/
@[simp] theorem drawn_tellNews (m : Mailing) (news : Option Log.Entry) :
    (tellNews m news).drawn = [] := by
  cases news <;> rfl

/-- nor at the end of a call. -/
@[simp] theorem drawn_part (device : String) (answer : Nat) (news : Option Log.Entry) :
    (part device answer news).drawn = [] := by
  cases news <;> rfl

/-- The numbers that a step leaves with its call or puts into the history are those that the call
had, and the next one if it is drawn. -/
theorem Step.draws (h : errand.Step p call progress) :
    ∃ new : Option Nat,
      (History.bindings progress.incident.toList).map Binding.generation ++ progress.errand.drawn
          = new.toList ++ errand.drawn ∧
        ((new = none ∧ progress.publisher.nextGeneration = p.nextGeneration) ∨
          (new = some p.nextGeneration ∧
            progress.publisher.nextGeneration = p.nextGeneration + 1)) := by
  cases h with
  | number => exact ⟨some p.nextGeneration, rfl, Or.inr ⟨rfl, rfl⟩⟩
  | warn =>
      refine ⟨none, ?_, Or.inl ⟨rfl, rfl⟩⟩
      rw [drawn_part]
      rfl
  | clear | raise =>
      refine ⟨none, ?_, Or.inl ⟨rfl, rfl⟩⟩
      rw [drawn_tellNews]
      rfl
  | bind | forgive | unbind | forget | miss | find | note | finish | queue | lose | refuse | count
  | tell | part => exact ⟨none, rfl, Or.inl ⟨rfl, rfl⟩⟩

/-- A step changes the standing bindings as its incident says. -/
theorem Step.bindings (h : errand.Step p call progress) (device : String) :
    progress.publisher.bindings.find? device
      = progress.incident.toList.foldl (Incident.rebind device) (p.bindings.find? device) := by
  cases h with
  | @bind d b =>
      simp only [KeyMap.find?_insert, Option.toList_some, List.foldl_cons, List.foldl_nil,
        Incident.rebind, eq_comm]
  | @unbind d =>
      simp only [KeyMap.find?_erase, Option.toList_some, List.foldl_cons, List.foldl_nil,
        Incident.rebind, eq_comm]
  | number | forgive | forget | miss | find | warn | note | finish | queue | lose | refuse | clear
  | count | raise | tell | part => rfl

end Errand

namespace Traffic

/-- The numbers that have been drawn: those of the bindings made, and those of bindings to come. -/
def generations (t : Traffic) : List Nat :=
  t.history.bindings.map Binding.generation ++ t.errands.flatMap Errand.drawn

/-- Bindings stand as the history has it, and their numbers are all different. -/
structure Numbered (t : Traffic) : Prop where
  standing : ∀ device, t.publisher.bindings.find? device = t.history.standing device
  distinct : t.generations.Nodup
  below : ∀ g ∈ t.generations, g < t.publisher.nextGeneration

variable {t t' : Traffic} {turn : Turn} {turns : List Turn}

/-- At the start no numbers have been drawn. -/
theorem numbered_start (capacity : Nat) (suppressRepeats : Bool) :
    (start capacity suppressRepeats).Numbered where
  standing _ := rfl
  distinct := List.nodup_nil
  below _ hg := absurd hg List.not_mem_nil

/-- What keeps the numbers that have been drawn, or draws the next one, keeps them different. -/
theorem Numbered.of_perm (h : t.Numbered) (new : Option Nat)
    (hperm : t'.generations.Perm (new.toList ++ t.generations))
    (hnext : (new = none ∧ t'.publisher.nextGeneration = t.publisher.nextGeneration) ∨
      (new = some t.publisher.nextGeneration ∧
        t'.publisher.nextGeneration = t.publisher.nextGeneration + 1))
    (hstanding : ∀ device, t'.publisher.bindings.find? device = t'.history.standing device) :
    t'.Numbered := by
  rcases hnext with ⟨rfl, hnext⟩ | ⟨rfl, hnext⟩
  · rw [Option.toList_none, List.nil_append] at hperm
    refine ⟨hstanding, hperm.nodup_iff.mpr h.distinct, fun g hg => ?_⟩
    rw [hnext]
    exact h.below g (hperm.mem_iff.mp hg)
  · rw [Option.toList_some, List.singleton_append] at hperm
    have hfresh : t.publisher.nextGeneration ∉ t.generations :=
      fun hmem => Nat.lt_irrefl _ (h.below _ hmem)
    refine ⟨hstanding, hperm.nodup_iff.mpr (List.nodup_cons.mpr ⟨hfresh, h.distinct⟩),
      fun g hg => ?_⟩
    rw [hnext]
    rcases List.mem_cons.mp (hperm.mem_iff.mp hg) with rfl | hg
    · exact Nat.lt_succ_self _
    · exact Nat.lt_succ_of_lt (h.below g hg)

/-- The step of a call draws at most one number, which is new. -/
theorem Numbered.proceed (h : t.Numbered) {call : Nat} {errand : Errand}
    {progress : Errand.Progress} (herrand : t.errands[call]? = some errand)
    (hstep : errand.Step t.publisher call progress) :
    Numbered
      { t with
        publisher := progress.publisher
        errands := t.errands.set call progress.errand
        history := t.history ++ progress.incident.toList } := by
  obtain ⟨new, hdrawn, hnext⟩ := hstep.draws
  obtain ⟨hbefore, hafter⟩ := perm_of_getElem? herrand
  refine h.of_perm new ?_ hnext fun device => ?_
  · let others := (t.errands.eraseIdx call).flatMap Errand.drawn
    let made := t.history.bindings.map Binding.generation
    have hothers : (made ++ (errand.drawn ++ others)).Perm t.generations :=
      ((hbefore.flatMap_right Errand.drawn).symm).append_left made
    have hothers' := (hafter progress.errand).flatMap_right Errand.drawn
    unfold generations
    simp only [History.bindings, History.collect_append, List.map_append]
    refine (hothers'.append_left _).trans ?_
    rw [List.flatMap_cons, List.append_assoc, ← List.append_assoc _ progress.errand.drawn, hdrawn,
      List.append_assoc]
    exact (List.perm_append_comm_assoc _ _ _).trans (hothers.append_left _)
  · rw [hstep.bindings device, h.standing device]
    exact (List.foldl_append ..).symm

/-- A turn keeps the numbers of bindings apart. -/
theorem Numbered.step (h : t.Numbered) (hstep : t.Step turn t') : t'.Numbered := by
  rcases hstep.turned with
    ⟨r, -, rfl⟩ | ⟨call, errand, progress, -, herrand, hprogress, rfl⟩
    | ⟨new, hnew, herrands, hhistory, hknows⟩
  · have hdrawn : r.errand.drawn = [] := by cases r <;> rfl
    refine h.of_perm none ?_ (Or.inl ⟨rfl, rfl⟩) h.standing
    simp [generations, hdrawn]
  · exact h.proceed herrand hprogress
  · obtain ⟨hbindings, hrebound, -, -⟩ := Incident.of_isDispatchers hnew
    have hspares (device : String) : History.Spares [new] device :=
      List.forall_mem_singleton.mpr (hrebound ▸ nofun)
    refine h.of_perm none ?_ (Or.inl ⟨rfl, hknows.nextGeneration⟩) fun device => ?_
    · simp [generations, herrands, hhistory, hbindings]
    · rw [hknows.bindings, h.standing device, hhistory]
      exact (History.standing_append_of_spares (hspares device)).symm

end Traffic

/-! ## Where envelopes come from -/

/-- The envelope is one of those that a call is to queue for the binding that it has found. -/
def History.Stems (h : History) (call : Nat) (e : Envelope) : Prop :=
  ∃ b payload, .found call e.device b payload ∈ h ∧ e.topic ∈ b.topics ∧
    e = b.envelope e.device payload e.topic

/-- An envelope stems from what a call has found, also when more has happened. -/
theorem History.Stems.append {h : History} {call : Nat} {e : Envelope} (hstems : h.Stems call e)
    (later : History) : Stems (h ++ later) call e := by
  obtain ⟨b, payload, hfound, htopic, he⟩ := hstems
  exact ⟨b, payload, List.mem_append_left later hfound, htopic, he⟩

/-- The envelopes for the topics of a binding that a call has found stem from it. -/
theorem History.stems_of_mem {h : History} {call : Nat} {device : String} {b : Binding}
    {payload : Json} (hfound : .found call device b payload ∈ h) :
    ∀ e ∈ b.topics.map (b.envelope device payload), h.Stems call e := by
  intro e he
  obtain ⟨topic, htopic, rfl⟩ := List.mem_map.mp he
  exact ⟨b, payload, hfound, htopic, rfl⟩

/-- What a call queues, and what it has still to queue, stems from what it has found. -/
theorem Errand.Step.stems {p : Publisher} {call : Nat} {errand : Errand} {progress : Progress}
    (h : errand.Step p call progress) {past : History}
    (hold : ∀ e ∈ errand.unsent, past.Stems call e) :
    (∀ e ∈ progress.errand.unsent,
        History.Stems (past ++ progress.incident.toList) call e) ∧
      ∀ q ∈ History.queued progress.incident.toList,
        History.Stems (past ++ progress.incident.toList) q.1 q.2 := by
  cases h with
  | number | bind | forgive | unbind | forget | miss | finish | refuse | part =>
      exact ⟨nofun, nofun⟩
  | warn =>
      rw [unsent_part]
      exact ⟨nofun, nofun⟩
  | find hb =>
      refine ⟨History.stems_of_mem (List.mem_append_right past ?_), nofun⟩
      exact List.mem_singleton_self _
  | note | count | tell => exact ⟨fun e he => (hold e he).append _, nofun⟩
  | clear | raise =>
      rw [unsent_tellNews]
      exact ⟨fun e he => (hold e he).append _, nofun⟩
  | queue htopics hopen hroom =>
      rw [unsent_sending htopics] at hold
      refine ⟨fun e he => (hold e (List.mem_cons_of_mem _ he)).append _, fun q hq => ?_⟩
      obtain rfl := List.mem_singleton.mp hq
      exact (hold _ List.mem_cons_self).append _
  | lose htopics hopen hfull =>
      rw [unsent_sending htopics] at hold
      exact ⟨fun e he => (hold e (List.mem_cons_of_mem _ he)).append _, nofun⟩

namespace Traffic

/-- Every envelope, queued or still to be queued, stems from what its call has found. -/
structure Attributed (t : Traffic) : Prop where
  unsent : ∀ call errand, t.errands[call]? = some errand →
    ∀ e ∈ errand.unsent, t.history.Stems call e
  queued : ∀ q ∈ t.history.queued, t.history.Stems q.1 q.2

variable {t t' : Traffic} {turn : Turn} {turns : List Turn}

/-- At the start there are no envelopes. -/
theorem attributed_start (capacity : Nat) (suppressRepeats : Bool) :
    (start capacity suppressRepeats).Attributed where
  unsent := nofun
  queued := nofun

/-- A turn makes no envelope that does not stem from a binding found by its call. -/
theorem Attributed.step (h : t.Attributed) (hstep : t.Step turn t') : t'.Attributed := by
  rcases hstep.turned with
    ⟨r, -, rfl⟩ | ⟨call, errand, progress, -, herrand, hprogress, rfl⟩
    | ⟨new, hnew, herrands, hhistory, -⟩
  · refine ⟨fun call errand herrand e he => ?_, h.queued⟩
    rcases of_getElem?_begin herrand with herrand | ⟨rfl, rfl⟩
    · exact h.unsent call errand herrand e he
    · cases r <;> cases he
  · obtain ⟨hunsent, hqueued⟩ := hprogress.stems (h.unsent call errand herrand)
    refine ⟨fun call' errand' herrand' e he => ?_, fun q hq => ?_⟩
    · rcases of_getElem?_proceed herrand' with ⟨rfl, rfl⟩ | ⟨-, herrand'⟩
      · exact hunsent e he
      · exact (h.unsent call' errand' herrand' e he).append _
    · simp only [History.collect_append, List.mem_append] at hq
      rcases hq with hq | hq
      · exact (h.queued q hq).append _
      · exact hqueued q hq
  · obtain ⟨-, -, hqueued, -⟩ := Incident.of_isDispatchers hnew
    refine ⟨fun call errand herrand e he => ?_, fun q hq => ?_⟩
    · rw [herrands] at herrand
      exact hhistory ▸ (h.unsent call errand herrand e he).append _
    · rw [hhistory] at hq ⊢
      simp only [History.collect_append, History.collect_cons, History.collect_nil, hqueued,
        Option.toList_none, List.append_nil] at hq
      exact (h.queued q hq).append _

/-! ## The dispatcher's check -/

/-- In every run the numbers of bindings are different. -/
theorem numbered_run {capacity : Nat} {suppressRepeats : Bool}
    (hrun : (start capacity suppressRepeats).run? turns = some t) : t.Numbered :=
  run?_preserves Numbered.step (numbered_start capacity suppressRepeats) hrun

/-- In every run each envelope stems from a binding that its call has found. -/
theorem attributed_run {capacity : Nat} {suppressRepeats : Bool}
    (hrun : (start capacity suppressRepeats).run? turns = some t) : t.Attributed :=
  run?_preserves Attributed.step (attributed_start capacity suppressRepeats) hrun

/-- A call finds the binding that stands, and misses one if there is none. -/
theorem standing_of_sought {capacity : Nat} {suppressRepeats : Bool}
    (hrun : (start capacity suppressRepeats).run? turns = some t) {past later : History}
    {i : Incident} {device : String} {b? : Option Binding} (hhistory : t.history = past ++ i :: later)
    (hsought : i.sought? = some (device, b?)) : past.standing device = b? := by
  obtain ⟨before, turn, t₀, t₁, hbefore, hstep, rfl, hi⟩ :=
    exists_step_of_history hrun (Nat.zero_le _) hhistory
  have hstanding := (numbered_run hbefore).standing device
  rcases hstep.turned with
    ⟨r, -, rfl⟩ | ⟨_, _, progress, -, _, hprogress, rfl⟩ | ⟨new, hnew, -, hhistory, -⟩
  · simp at hi
  · have hi := Option.toList_eq_singleton_iff.mp (List.append_cancel_left hi)
    cases hprogress with
    | find hb | miss hb =>
        cases hi
        cases hsought
        exact hstanding.symm.trans hb
    | number | forget | note | finish | count => cases hi
    | bind | forgive | unbind | warn | queue | lose | refuse | clear | raise | tell | part =>
        cases hi
        cases hsought
  · cases List.append_cancel_left (hhistory.symm.trans hi)
    have hnone : i.sought? = none := by cases i <;> first | rfl | cases hnew
    cases hnone.symm.trans hsought

/-- The envelope that the dispatcher looks at next has been queued by a call, after as many others as
it has looked at. -/
theorem InOrder.exists_call (h : t.InOrder) {e : Envelope} (hfresh : t.fresh = some e) :
    ∃ call, t.history.queued[t.history.looked.length]? = some (call, e) := by
  obtain ⟨rest, hqueued, -⟩ := h.waiting
  have htaken := h.taken
  rw [hfresh, Option.toList_some] at htaken
  have hnext : (t.history.queued.map Prod.snd)[t.history.looked.length]? = some e := by
    rw [hqueued, htaken]
    simp
  rw [List.getElem?_map] at hnext
  obtain ⟨⟨call, e'⟩, hcall, rfl⟩ := Option.map_eq_some_iff.mp hnext
  exact ⟨call, hcall⟩

/-- An envelope is current if the binding of its device has its number. -/
theorem isCurrent_eq_true_iff {p : Publisher} {e : Envelope} :
    p.isCurrent e = true ↔
      ∃ b, p.bindings.find? e.device = some b ∧ b.generation = e.generation := by
  unfold Publisher.isCurrent
  split
  next b hb => simp [hb]
  next hnone => simp [hnone]

/-- An envelope is current as long as its device is spared. -/
theorem isCurrent_iff_spares (h : t.Numbered) {before after : History} {b : Binding} {e : Envelope}
    (hhistory : t.history = before ++ after) (hstanding : before.standing e.device = some b)
    (hgeneration : b.generation = e.generation) :
    t.publisher.isCurrent e = true ↔ after.Spares e.device := by
  rw [isCurrent_eq_true_iff, h.standing, hhistory]
  constructor
  · rintro ⟨b', hb', hgeneration'⟩
    -- A binding made later would have a number of its own.
    refine Decidable.byContradiction fun hspares => ?_
    have hlater : b' ∈ after.bindings := History.mem_bindings_of_not_spares hb' hspares
    have hearlier : b ∈ before.bindings := History.mem_bindings_of_standing hstanding
    have hdistinct := (List.nodup_append.mp h.distinct).1
    rw [hhistory] at hdistinct
    simp only [History.collect_append, List.map_append] at hdistinct
    exact (List.nodup_append.mp hdistinct).2.2 _ (List.mem_map_of_mem hearlier) _
      (List.mem_map_of_mem hlater) (hgeneration.trans hgeneration'.symm)
  · intro hspares
    exact ⟨b, (History.standing_append_of_spares hspares).trans hstanding, hgeneration⟩

/-- What the dispatcher looks at is what it has taken, and it tells whether that is current. -/
theorem fresh_of_looked (hstep : t.Step turn t') {i : Incident} {e : Envelope} {current : Bool}
    (hi : t'.history = t.history ++ [i]) (hlooked : i.looked? = some (e, current)) :
    t.fresh = some e ∧ t.publisher.isCurrent e = current := by
  cases hstep with
  | begin r => simp at hi
  | @proceed _ _ progress herrand hprogress =>
      rw [List.append_cancel_left_eq, Option.toList_eq_singleton_iff] at hi
      have hdispatchers : i.isDispatchers = true := by cases i <;> first | rfl | cases hlooked
      cases hdispatchers.symm.trans (hprogress.dispatcher.2 i (Option.mem_def.mpr hi))
  | hand hdue hfresh hcurrent =>
      rw [List.append_cancel_left_eq] at hi
      cases hi
      cases hlooked
      exact ⟨hfresh, hcurrent⟩
  | discard hdue hfresh hstale =>
      rw [List.append_cancel_left_eq] at hi
      cases hi
      cases hlooked
      exact ⟨hfresh, hstale⟩
  | take | answer | report =>
      obtain rfl := List.singleton_inj.mp (List.append_cancel_left hi)
      cases hlooked

/-- An envelope that has been looked at is handed over if it is current, and discarded if not. -/
theorem eq_handed_iff_of_looked {i : Incident} {e : Envelope} {current : Bool}
    (hlooked : i.looked? = some (e, current)) :
    (i = .handed e ↔ current = true) ∧ (i = .discarded e ↔ current = false) := by
  cases i with
  | handed | discarded =>
      cases hlooked
      simp
  | _ => cases hlooked

/-- Where the envelope at which the dispatcher looks next comes from. -/
structure Origin (past : History) (e : Envelope) where
  /-- The call that has queued it. -/
  call : Nat
  /-- The binding that the call has found. -/
  binding : Binding
  payload : Json
  /-- What had happened when the binding was made. -/
  before : History
  /-- What happened until the call found the binding. -/
  since : History
  /-- What has happened from then on. -/
  after : History
  history : past = before ++ .bound e.device binding :: since
    ++ .found call e.device binding payload :: after
  /-- The binding still stood when the call found it. -/
  stands : since.Spares e.device
  /-- As many envelopes were queued before as have been looked at. -/
  next : past.queued[past.looked.length]? = some (call, e)
  topic : e.topic ∈ binding.topics
  envelope : e = binding.envelope e.device payload e.topic

/-- Whatever the dispatcher looks at was queued under a binding, and goes to the sink if and only if
that binding still stands. -/
theorem exists_origin {capacity : Nat} {suppressRepeats : Bool}
    (hrun : (start capacity suppressRepeats).run? turns = some t) {past later : History}
    {i : Incident} {e : Envelope} {current : Bool} (hhistory : t.history = past ++ i :: later)
    (hlooked : i.looked? = some (e, current)) :
    ∃ origin : Origin past e,
      (i = .handed e ↔ origin.after.Spares e.device) ∧
        (i = .discarded e ↔ ¬ origin.after.Spares e.device) := by
  obtain ⟨turns₀, turn, t₀, t₁, hrun₀, hstep, rfl, hi⟩ :=
    exists_step_of_history hrun (Nat.zero_le _) hhistory
  obtain ⟨hfresh, rfl⟩ := fresh_of_looked hstep hi hlooked
  obtain ⟨hhanded, hdiscarded⟩ := eq_handed_iff_of_looked hlooked
  obtain ⟨call, hcall⟩ := (inOrder_run hrun₀).exists_call hfresh
  obtain ⟨b, payload, hfound, htopic, henvelope⟩ :=
    (attributed_run hrun₀).queued (call, e) (List.mem_of_getElem? hcall)
  obtain ⟨upTo, after, hafter⟩ := List.append_of_mem hfound
  have hstanding : History.standing upTo e.device = some b := standing_of_sought hrun₀ hafter rfl
  have hgeneration : b.generation = e.generation := (congrArg Envelope.generation henvelope).symm
  have hcurrent := isCurrent_iff_spares (numbered_run hrun₀) hafter hstanding hgeneration
  rw [History.spares_cons_found] at hcurrent
  obtain ⟨before, since, rfl, hstands⟩ := History.exists_bound_of_standing hstanding
  let origin : Origin t₀.history e :=
    { call, binding := b, payload, before, since, after, history := hafter, stands := hstands
      next := hcall, topic := htopic, envelope := henvelope }
  refine ⟨origin, hhanded.trans hcurrent, ?_⟩
  rw [hdiscarded, ← hcurrent, Bool.not_eq_true]

/-- **No stale envelope reaches the sink.**  The sink is offered only what it has been handed last and
is not done with, and that is topic and payload of an envelope.  And whatever the dispatcher looks
at, it hands to the sink if the device has been neither bound nor detached since the call that queued
it found its binding, else it discards it.  That binding is told from all others by its
generation. -/
theorem handed_iff_binding_stands {capacity : Nat} {suppressRepeats : Bool}
    (hrun : (start capacity suppressRepeats).run? turns = some t) :
    (t.history.bindings.map Binding.generation).Nodup ∧
      (∀ {e}, t.publisher.dispatcher = .holding e → t.history.handed = t.history.answered ++ [e]) ∧
      (∀ {σ : Type} [TopicSink σ] {sink : σ} {t' : Traffic}, t.step? (.offer sink) = some t' →
        ∃ e, t.publisher.dispatcher = .holding e ∧
          t' = t.settle e { topic := e.topic, payload := e.payload }
            (TopicSink.offer sink { topic := e.topic, payload := e.payload })) ∧
      ∀ {past later : History} {i : Incident} {e : Envelope} {current : Bool},
        t.history = past ++ i :: later → i.looked? = some (e, current) →
          ∃ origin : Origin past e,
            (i = .handed e ↔ origin.after.Spares e.device) ∧
              (i = .discarded e ↔ ¬ origin.after.Spares e.device) := by
  refine ⟨(List.nodup_append.mp (numbered_run hrun).distinct).1, fun hholding => ?_,
    eq_settle_of_offer, exists_origin hrun⟩
  have hhanded := (inOrder_run hrun).handed
  rw [hholding] at hhanded
  exact hhanded

/-- A battery is bound again, to the same topic, while an envelope of it waits. -/
theorem handed_iff_binding_stands_bound_again :
    let publish : Request := .publish "battery" .empty ⟨0, 0⟩
    let bind : Request := .bind "battery" ["topic"]
    let turns : List Turn :=
      [.begin bind, .proceed 0, .proceed 0, .begin publish, .proceed 1, .proceed 1, .proceed 1,
        .begin bind, .proceed 2, .proceed 2, .take, .check]
    ∃ t, ∃ past later : History, ∃ e, (start 1 true).run? turns = some t ∧
      t.history = past ++ .discarded e :: later ∧
      past.bindings.map Binding.topics = [["topic"], ["topic"]] ∧
      ∃ origin : Origin past e, ¬ origin.after.Spares e.device := by
  intro publish bind turns
  obtain ⟨t, past, later, e, hrun, hhistory, htopics⟩ :
      ∃ t, ∃ past later : History, ∃ e, (start 1 true).run? turns = some t ∧
        t.history = past ++ .discarded e :: later ∧
        past.bindings.map Binding.topics = [["topic"], ["topic"]] :=
    ⟨_, [_, _, _, _, _], [], _, rfl, rfl, rfl⟩
  obtain ⟨-, -, -, hlooked⟩ := handed_iff_binding_stands hrun
  obtain ⟨origin, -, hdiscarded⟩ := hlooked hhistory rfl
  exact ⟨t, past, later, e, hrun, hhistory, htopics, origin, hdiscarded.mp rfl⟩

end Traffic

end SensorGateway
