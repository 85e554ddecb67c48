import SensorGateway.Proofs.Bus.Marks
import SensorGateway.Proofs.Bus.Staleness

/-!
# Calls that do not disturb each other

The marks of the queue and of devices are moved by calls, each of them a step after what it marks: a
call that has queued or lost an envelope takes note of it later, and so does one that has found a
device without a binding.  In between, the call is in the middle of something (`Errand.engaged?`).

If no call begins with what another one is in the middle of (`Traffic.undisturbed`), note is taken of
everything in the order in which it has happened (`Traffic.undisturbed_run`).  Calls that are made
one at a time are of this kind (`Traffic.undisturbed_of_oneAtATime`).
-/

namespace SensorGateway

/-! ## What calls can be disturbed at -/

/-- What calls may be about at the same time. -/
inductive Matter
  | queue
  | device (id : String)
  deriving DecidableEq

namespace Incident

/-- The device that a call has found without a binding. -/
def missed? : Incident → Option String
  | missed _ device => some device
  | _ => none

/-- The device that is bound. -/
def bound? : Incident → Option String
  | bound device _ => some device
  | _ => none

/-- The device that is found without a binding, or bound, or of which note is taken. -/
def concerns? : Incident → Option String
  | missed _ device | bound device _ | noted _ device _ | forgiven device => some device
  | _ => none

/-- What does not concern a device is none of this. -/
theorem ne_of_concerns? {new : Option Incident} {device : String}
    (h : new.bind concerns? ≠ some device) :
    new.bind missed? ≠ some device ∧ new.bind bound? ≠ some device ∧
      new.bind noted? ≠ some device ∧ new.bind forgiven? ≠ some device := by
  cases new with
  | none => exact ⟨h, h, h, h⟩
  | some i => cases i <;> simp_all [concerns?, missed?, bound?, noted?, forgiven?]

/-- What the dispatcher does concerns no device in this way. -/
theorem concerns?_of_isDispatchers {i : Incident} (h : i.isDispatchers = true) :
    i.concerns? = none := by
  cases i with
  | taken | handed | discarded | offered | reported => rfl
  | _ => cases h

end Incident

/-- A call has found the device without a binding, and it has not been bound since. -/
abbrev History.Missed (h : History) (device : String) : Prop :=
  h.Since Incident.missed? Incident.bound? device

namespace Errand

/-- What the call is in the middle of: it has done something, and not yet taken note of it or told
of it. -/
def engaged? : Errand → Option Matter
  | clearing _ | counting _ _ | raising _ _ | telling _ _ => some .queue
  | warning device | forgiving device => some (.device device)
  | _ => none

/-- What the next step of the call begins with. -/
def engages? : Errand → Option Matter
  | sending m => if m.topics.isEmpty then none else some .queue
  | looking device _ _ | binding device _ => some (.device device)
  | _ => none

/-- A call that tells something is in the middle of it, and no other call is. -/
theorem eq_queue_of_engaged_tellNews {m : Mailing} {news : Option Log.Entry} {matter : Matter}
    (h : (tellNews m news).engaged? = some matter) : matter = .queue := by
  cases news <;> cases h
  rfl

/-- At its end a call is in the middle of nothing. -/
@[simp] theorem engaged?_part (device : String) (n : Nat) (news : Option Log.Entry) :
    (part device n news).engaged? = none := by
  cases news <;> rfl

/-- Nothing is left to be noted or told by a call that is not in the middle of it. -/
theorem unmarked_of_not_engaged {errand : Errand} (h : errand.engaged? ≠ some .queue) :
    errand.unmarked = [] ∧ errand.untold = [] := by
  cases errand with
  | clearing | counting | raising | telling => exact absurd rfl h
  | _ => exact ⟨rfl, rfl⟩

/-- Whether the call has returned. -/
def isOver : Errand → Bool
  | returned _ => true
  | _ => false

variable {p : Publisher} {call : Nat} {errand : Errand} {progress : Progress} {matter : Matter}

/-- A call that has returned is in the middle of nothing, -/
theorem isOver_of_engaged (h : errand.engaged? = some matter) : errand.isOver = false := by
  cases errand <;> first | rfl | cases h

/-- and begins with nothing. -/
theorem isOver_of_engages (h : errand.engages? = some matter) : errand.isOver = false := by
  cases errand <;> first | rfl | cases h

/-- A call that begins with something is not yet in the middle of it. -/
theorem not_engaged_of_engages (h : errand.engages? = some matter) :
    errand.engaged? ≠ some matter := by
  cases errand with
  | looking | binding | sending => nofun
  | _ => cases h

/-- A call that has returned makes no more steps. -/
theorem Step.isOver (h : errand.Step p call progress) : errand.isOver = false := by
  cases h <;> rfl

/-- A call is in the middle of something because it was so before, or has begun with it. -/
theorem Step.engaged (h : errand.Step p call progress) {matter : Matter}
    (hengaged : progress.errand.engaged? = some matter) :
    errand.engaged? = some matter ∨ errand.engages? = some matter := by
  cases h with
  | number | forgive | unbind | forget | find | note | finish | refuse | tell | part => cases hengaged
  | bind | miss => exact Or.inr hengaged
  | warn =>
      rw [engaged?_part] at hengaged
      cases hengaged
  | queue htopics | lose htopics =>
      refine Or.inr ?_
      rw [engages?, htopics]
      exact hengaged
  | count => exact Or.inl hengaged
  | clear | raise => exact Or.inl (congrArg some (eq_queue_of_engaged_tellNews hengaged).symm)

/-- A call that is not about the queue adds nothing to what is known of the queue. -/
theorem Step.of_not_queue (h : errand.Step p call progress)
    (hengaged : errand.engaged? ≠ some .queue) (hengages : errand.engages? ≠ some .queue) :
    History.attempts progress.incident.toList = [] ∧ History.marks progress.incident.toList = [] ∧
      History.told progress.incident.toList = [] := by
  cases h with
  | clear | count | raise | tell => exact absurd rfl hengaged
  | queue htopics | lose htopics => simp [engages?, htopics] at hengages
  | number | bind | forgive | unbind | forget | miss | find | warn | note | finish | refuse | part =>
      exact ⟨rfl, rfl, rfl⟩

/-- What a step of a call has to do with a device: it finds the device without a binding, binds it,
warns about it, forgives it, or has nothing to do with it. -/
inductive Deed (p : Publisher) (call : Nat) (errand : Errand) (progress : Progress)
    (device : String) : Prop
  | miss {record : Record} {now : Instant} : errand = .looking device record now →
      progress.errand = .warning device → progress.incident = some (.missed call device) →
      Deed p call errand progress device
  | bind {b : Binding} : errand = .binding device b → progress.errand = .forgiving device →
      progress.incident = some (.bound device b) → Deed p call errand progress device
  | warn : errand = .warning device → progress.errand = part device 0 (p.unboundNews? device) →
      progress.incident = some (.noted call device (p.unboundNews? device)) →
      Deed p call errand progress device
  | forgive : errand = .forgiving device → progress.errand = .returned 0 →
      progress.incident = some (.forgiven device) → Deed p call errand progress device
  | other : errand.engaged? ≠ some (.device device) →
      progress.errand.engaged? ≠ some (.device device) →
      progress.incident.bind Incident.concerns? ≠ some device → Deed p call errand progress device

/-- Every step has one of these to do with a device. -/
theorem Step.deed (h : errand.Step p call progress) (device : String) :
    Deed p call errand progress device := by
  have hnone : none ≠ some device := (Option.some_ne_none device).symm
  cases h with
  | @miss device' =>
      by_cases hdevice : device' = device
      · subst hdevice
        exact .miss rfl rfl rfl
      · refine .other ?_ ?_ ?_ <;> simp [engaged?, Incident.concerns?, hdevice]
  | @bind device' =>
      by_cases hdevice : device' = device
      · subst hdevice
        exact .bind rfl rfl rfl
      · refine .other ?_ ?_ ?_ <;> simp [engaged?, Incident.concerns?, hdevice]
  | @forgive device' =>
      by_cases hdevice : device' = device
      · subst hdevice
        exact .forgive rfl rfl rfl
      · refine .other ?_ ?_ ?_ <;> simp [engaged?, Incident.concerns?, hdevice]
  | @warn device' =>
      by_cases hdevice : device' = device
      · subst hdevice
        exact .warn rfl rfl rfl
      · refine .other ?_ ?_ ?_
        · simpa [engaged?] using hdevice
        · simp
        · simpa [Incident.concerns?] using hdevice
  | clear | raise =>
      refine .other (by simp [engaged?]) (fun hengaged => ?_) hnone
      cases eq_queue_of_engaged_tellNews hengaged
  | number | unbind | forget | find | note | finish | queue | lose | refuse | count | tell | part =>
      exact .other (by simp [engaged?]) (by simp [engaged?]) hnone

/-- What a call has done that publishes for a device without a binding: nothing before it has
looked, and nothing but to warn afterwards. -/
structure Unanswered (errand : Errand) (own : History) : Prop where
  fresh : ∀ {device : String} {record : Record} {now : Instant},
    errand = .looking device record now → own = []
  missed : ∀ {call : Nat} {device : String}, .missed call device ∈ own →
    errand = .warning device ∧ own.news = [] ∨ (∃ line, errand = .parting device line 0) ∨
      errand = .returned 0

/-- A call begins with looking. -/
theorem unanswered_errand (r : Request) : r.errand.Unanswered [] := ⟨fun _ => rfl, nofun⟩

/-- No step leads to a call that has still to look. -/
theorem Step.looks_eq_zero (h : errand.Step p call progress) : progress.errand.looks = 0 := by
  cases h with
  | warn => exact looks_part ..
  | clear | raise => exact looks_tellNews ..
  | number | bind | forgive | unbind | forget | miss | find | note | finish | queue | lose | refuse
  | count | tell | part => rfl

/-- Once a call has found a device without a binding, it warns and ends. -/
theorem Unanswered.step {own : History} (h : errand.Unanswered own)
    (hstep : errand.Step p call progress) :
    progress.errand.Unanswered (own ++ History.of progress.incident.toList call) := by
  refine ⟨fun hlooking => ?_, fun {c device} hmem => ?_⟩
  · have hlooks := hstep.looks_eq_zero
    rw [hlooking] at hlooks
    cases hlooks
  · rcases List.mem_append.mp hmem with hmem | hmem
    · rcases h.missed hmem with ⟨rfl, -⟩ | ⟨line, rfl⟩ | rfl
      · cases hstep with
        | warn =>
            cases p.unboundNews? device with
            | none => exact Or.inr (Or.inr rfl)
            | some line => exact Or.inr (Or.inl ⟨line, rfl⟩)
      · cases hstep
        exact Or.inr (Or.inr rfl)
      · cases hstep
    · have hmem := Option.mem_toList.mp (List.mem_of_mem_filter hmem)
      cases hstep with
      | miss hb =>
          cases hmem
          rw [h.fresh rfl]
          refine Or.inl ⟨rfl, ?_⟩
          simp [History.of, Incident.call?, Incident.news?]
      | number | bind | forgive | unbind | forget | find | warn | note | finish | queue | lose
      | refuse | clear | count | raise | tell | part => cases hmem

/-- A call that has found a device without a binding changes nothing but that this is noted. -/
theorem Unanswered.inert {own : History} (h : errand.Unanswered own)
    (hstep : errand.Step p call progress) {device : String}
    (hmem : .missed call device ∈ own ++ progress.incident.toList) :
    progress.publisher = { p with warnedUnbound := progress.publisher.warnedUnbound } := by
  rcases List.mem_append.mp hmem with hmem | hmem
  · rcases h.missed hmem with ⟨rfl, -⟩ | ⟨line, rfl⟩ | rfl
    · cases hstep
      rfl
    · cases hstep
      rfl
    · cases hstep
  · have hmem := Option.mem_toList.mp hmem
    cases hstep with
    | miss hb => rfl
    | number | bind | forgive | unbind | forget | find | warn | note | finish | queue | lose
    | refuse | clear | count | raise | tell | part => cases hmem

end Errand

/-! ## Calls that do not disturb each other -/

namespace Traffic

variable {t t' : Traffic} {turn : Turn} {turns : List Turn}

/-- Whether the turn leaves other calls undisturbed: a call begins with something only when no call
is in the middle of it. -/
def leaves (t : Traffic) : Turn → Bool
  | .proceed call =>
      ((t.errands[call]?).bind Errand.engages?).all fun matter =>
        t.errands.all fun errand => errand.engaged? != some matter
  | _ => true

/-- Whether calls do not disturb each other. -/
def undisturbed (t : Traffic) (turns : List Turn) : Bool := t.throughout leaves turns

/-- What a call begins with in such a turn no call is in the middle of. -/
theorem not_engaged_of_leaves {call : Nat} {errand : Errand} {matter : Matter}
    (hleaves : t.leaves (.proceed call) = true) (herrand : t.errands[call]? = some errand)
    (hengages : errand.engages? = some matter) :
    ∀ errand' ∈ t.errands, errand'.engaged? ≠ some matter := by
  rw [leaves, herrand, Option.bind_some, hengages, Option.all_some, List.all_eq_true] at hleaves
  exact fun errand' hmem => bne_iff_ne.mp (hleaves errand' hmem)

/-- No two calls are in the middle of the same. -/
def Apart (t : Traffic) : Prop :=
  ∀ {call call' : Nat} {errand errand' : Errand} {matter : Matter},
    t.errands[call]? = some errand → t.errands[call']? = some errand' →
      errand.engaged? = some matter → errand'.engaged? = some matter → call = call'

/-- A call that begins is in the middle of nothing. -/
theorem engaged?_errand (r : Request) : r.errand.engaged? = none := by cases r <;> rfl

/-- If no call is in the middle of something after the step of one that was not, none was before. -/
theorem not_engaged_before {call : Nat} {errand next : Errand} {matter : Matter}
    (herrand : t.errands[call]? = some errand) (hengaged : errand.engaged? ≠ some matter)
    (hidle : ∀ errand' ∈ t.errands.set call next, errand'.engaged? ≠ some matter) :
    ∀ errand' ∈ t.errands, errand'.engaged? ≠ some matter := by
  intro errand' hmem
  obtain ⟨c, hc⟩ := List.getElem?_of_mem hmem
  by_cases hcall : c = call
  · subst hcall
    cases herrand.symm.trans hc
    exact hengaged
  · refine hidle errand' (List.mem_of_getElem? (i := c) ?_)
    rw [List.getElem?_set_ne (Ne.symm hcall)]
    exact hc

/-- Calls that do not disturb each other stay apart. -/
theorem Apart.step (h : t.Apart) (hleaves : t.leaves turn = true) (hstep : t.Step turn t') :
    t'.Apart := by
  intro c c' e e' matter he he' hengaged hengaged'
  rcases hstep.turned with
    ⟨r, -, rfl⟩ | ⟨call, errand, progress, rfl, herrand, hprogress, rfl⟩
    | ⟨new, -, herrands, -, -⟩
  · rcases of_getElem?_begin he with he | ⟨-, rfl⟩
    · rcases of_getElem?_begin he' with he' | ⟨-, rfl⟩
      · exact h he he' hengaged hengaged'
      · cases (engaged?_errand r).symm.trans hengaged'
    · cases (engaged?_errand r).symm.trans hengaged
  · -- Of two calls, one that has gone on was in the middle of it before, or the other one is not.
    have hgone {c₁ : Nat} {e₁ : Errand} (hc : c₁ ≠ call) (he₁ : t.errands[c₁]? = some e₁)
        (hengaged₁ : e₁.engaged? = some matter)
        (hnext : progress.errand.engaged? = some matter) : c₁ = call := by
      rcases hprogress.engaged hnext with hbefore | hengages
      · exact h he₁ herrand hengaged₁ hbefore
      · exact absurd hengaged₁
          (not_engaged_of_leaves hleaves herrand hengages e₁ (List.mem_of_getElem? he₁))
    rcases of_getElem?_proceed he with ⟨hc, hnext⟩ | ⟨hc, hold⟩
    · rcases of_getElem?_proceed he' with ⟨hc', -⟩ | ⟨hc', hold'⟩
      · exact hc.trans hc'.symm
      · exact hc.trans (hgone hc' hold' hengaged' (hnext ▸ hengaged)).symm
    · rcases of_getElem?_proceed he' with ⟨hc', hnext'⟩ | ⟨-, hold'⟩
      · exact (hgone hc hold hengaged (hnext' ▸ hengaged')).trans hc'.symm
      · exact h hold hold' hengaged hengaged'
  · rw [herrands] at he he'
    exact h he he' hengaged hengaged'

end Traffic

/-! ## The queue -/

/-- Note has been taken of all attempts but these, and all has been told but these lines. -/
structure History.Level (h : History) (unmarked : List (Option Log.Entry))
    (untold : List Log.Entry) : Prop where
  attempts : h.attempts = h.marks.map Trial.warning ++ unmarked
  told : h.told ++ untold = h.marks.flatMap Trial.said

/-- What has nothing to do with the queue changes nothing of it. -/
theorem History.Level.append {h new : History} {unmarked : List (Option Log.Entry)}
    {untold : List Log.Entry} (hlevel : h.Level unmarked untold)
    (hnew : new.attempts = [] ∧ new.marks = [] ∧ new.told = []) :
    Level (h ++ new) unmarked untold := by
  obtain ⟨hattempts, hmarks, htold⟩ := hnew
  constructor
  · simpa [hattempts, hmarks] using hlevel.attempts
  · simpa [htold, hmarks] using hlevel.told

/-- A step of the call that is in the middle of it takes note of an attempt, or tells of it, or makes
the next one. -/
theorem Errand.Step.level {p : Publisher} {call : Nat} {errand : Errand} {progress : Progress}
    (h : errand.Step p call progress) {past : History}
    (hlevel : past.Level errand.unmarked errand.untold) :
    History.Level (past ++ progress.incident.toList) progress.errand.unmarked
      progress.errand.untold := by
  have hattempts := hlevel.attempts
  have htold := hlevel.told
  constructor
  · simp only [History.attempts, History.marks, History.collect_append, List.map_append]
      at hattempts ⊢
    rw [hattempts, List.append_assoc, h.marks, List.append_assoc]
  · simp only [History.told, History.marks, History.collect_append, List.flatMap_append] at htold ⊢
    rw [← htold, List.append_assoc, h.tells, List.append_assoc]

namespace Traffic

variable {t t' : Traffic} {turn : Turn} {turns : List Turn}

/-- Note is taken of attempts in their order, and they are told of in their order. -/
structure InStep (t : Traffic) : Prop where
  busy : ∀ {call : Nat} {errand : Errand}, t.errands[call]? = some errand →
    errand.engaged? = some .queue → t.history.Level errand.unmarked errand.untold
  idle : (∀ errand ∈ t.errands, errand.engaged? ≠ some .queue) → t.history.Level [] []

/-- At the start there is nothing to take note of. -/
theorem inStep_start (capacity : Nat) (suppressRepeats : Bool) :
    (start capacity suppressRepeats).InStep where
  busy := nofun
  idle _ := ⟨rfl, rfl⟩

/-- The step of a call keeps attempts and notes in step. -/
theorem InStep.proceed (h : t.InStep) (hapart : t.Apart) {call : Nat} {errand : Errand}
    {progress : Errand.Progress} (hleaves : t.leaves (.proceed call) = true)
    (herrand : t.errands[call]? = some errand) (hstep : errand.Step t.publisher call progress) :
    InStep
      { t with
        publisher := progress.publisher
        errands := t.errands.set call progress.errand
        history := t.history ++ progress.incident.toList } := by
  -- If the call itself is in the middle of it, or none is, it goes on from there.
  have hown (hengaged : errand.engaged? = some .queue ∨
      ∀ errand' ∈ t.errands, errand'.engaged? ≠ some .queue) :
      t.history.Level errand.unmarked errand.untold := by
    rcases hengaged with hengaged | hnone
    · exact h.busy herrand hengaged
    · obtain ⟨hunmarked, huntold⟩ :=
        Errand.unmarked_of_not_engaged (hnone errand (List.mem_of_getElem? herrand))
      rw [hunmarked, huntold]
      exact h.idle hnone
  refine ⟨fun {c e} he hengaged => ?_, fun hidle => ?_⟩
  · rcases of_getElem?_proceed he with ⟨rfl, rfl⟩ | ⟨hc, he⟩
    · refine hstep.level (hown ?_)
      rcases hstep.engaged hengaged with hbefore | hengages
      · exact Or.inl hbefore
      · exact Or.inr (not_engaged_of_leaves hleaves herrand hengages)
    · refine (h.busy he hengaged).append (hstep.of_not_queue (fun hbusy => ?_) fun hengages => ?_)
      · exact hc (hapart he herrand hengaged hbusy)
      · exact not_engaged_of_leaves hleaves herrand hengages e (List.mem_of_getElem? he) hengaged
  · have hnext : progress.errand.engaged? ≠ some .queue :=
      hidle progress.errand (List.mem_set (List.getElem?_eq_some_iff.mp herrand).1 _)
    obtain ⟨hunmarked, huntold⟩ := Errand.unmarked_of_not_engaged hnext
    have hlevel := hstep.level (hown ?_)
    · rw [hunmarked, huntold] at hlevel
      exact hlevel
    · by_cases hengaged : errand.engaged? = some .queue
      · exact Or.inl hengaged
      · exact Or.inr (not_engaged_before herrand hengaged hidle)

/-- A turn keeps attempts and notes in step. -/
theorem InStep.step (h : t.InStep) (hapart : t.Apart) (hleaves : t.leaves turn = true)
    (hstep : t.Step turn t') : t'.InStep := by
  rcases hstep.turned with
    ⟨r, -, rfl⟩ | ⟨call, errand, progress, rfl, herrand, hprogress, rfl⟩
    | ⟨new, hnew, herrands, hhistory, -⟩
  · refine ⟨fun he hengaged => ?_, fun hidle => h.idle fun errand hmem => ?_⟩
    · rcases of_getElem?_begin he with he | ⟨-, rfl⟩
      · exact h.busy he hengaged
      · cases (engaged?_errand r).symm.trans hengaged
    · exact hidle errand (List.mem_append_left _ hmem)
  · exact h.proceed hapart hleaves herrand hprogress
  · have hnone : History.attempts [new] = [] ∧ History.marks [new] = [] ∧
        History.told [new] = [] := by
      cases new <;> first | exact ⟨rfl, rfl, rfl⟩ | cases hnew
    exact ⟨fun he hengaged => hhistory ▸ (h.busy (herrands ▸ he) hengaged).append hnone,
      fun hidle => hhistory ▸ (h.idle (herrands ▸ hidle)).append hnone⟩

end Traffic

/-! ## Devices without a binding -/

namespace History

variable {h past later : History} {new : Option Incident} {i : Incident} {device : String}

/-- Something that has happened after a turn has happened before it, or in it. -/
theorem split_append (new : Option Incident) (heq : h ++ new.toList = past ++ i :: later) :
    (∃ later', h = past ++ i :: later') ∨ new = some i ∧ past = h := by
  cases new with
  | none =>
      rw [Option.toList_none, List.append_nil] at heq
      exact Or.inl ⟨later, heq⟩
  | some j =>
      rcases List.eq_nil_or_concat later with rfl | ⟨later', k, rfl⟩
      · obtain ⟨rfl, hj⟩ := List.append_inj' heq rfl
        exact Or.inr ⟨congrArg some (List.singleton_inj.mp hj), rfl⟩
      · rw [List.concat_eq_append, ← List.cons_append, ← List.append_assoc] at heq
        exact Or.inl ⟨later', (List.append_inj' heq rfl).1⟩

/-- What has nothing to do with it leaves it as it was. -/
theorem since_append_of_ne {begins ends : Incident → Option String}
    (hbegins : new.bind begins ≠ some device) (hends : new.bind ends ≠ some device) :
    Since begins ends (h ++ new.toList) device ↔ Since begins ends h device := by
  rw [since_append_toList]
  exact ⟨fun h => (h.resolve_left hbegins).1, fun h => Or.inr ⟨h, hends⟩⟩

end History

namespace Traffic

variable {t t' : Traffic} {turn : Turn} {turns : List Turn}

/-- Note is taken of devices in the order in which they are found without a binding, and are bound. -/
structure Agreed (t : Traffic) : Prop where
  idle : ∀ {device : String}, (∀ errand ∈ t.errands, errand.engaged? ≠ some (.device device)) →
    (t.history.Noted device ↔ t.history.Missed device)
  forgiving : ∀ {call : Nat} {device : String}, t.errands[call]? = some (.forgiving device) →
    ¬ t.history.Missed device
  warning : ∀ {call : Nat} {device : String}, t.errands[call]? = some (.warning device) →
    t.history.Missed device ∧
      ∀ {past later : History}, t.history = past ++ .missed call device :: later →
        (t.history.Noted device ↔ past.Missed device)
  /-- A call that has taken note of a device tells of it unless it had been found so before. -/
  notes : ∀ {call : Nat} {device : String} {errand : Errand} {past later : History},
    t.history = past ++ .missed call device :: later → t.errands[call]? = some errand →
      errand ≠ .warning device →
        (past.Missed device → (t.history.of call).news = []) ∧
          (¬ past.Missed device → (t.history.of call).news = [Publisher.unboundWarning device])

/-- At the start no device has been found without a binding. -/
theorem agreed_start (capacity : Nat) (suppressRepeats : Bool) :
    (start capacity suppressRepeats).Agreed where
  idle _ := iff_of_false History.not_since_nil History.not_since_nil
  forgiving := nofun
  warning := nofun
  notes _ := nofun

/-- The step of another call has nothing to do with a device that a call is in the middle of. -/
theorem of_engaged_other (hapart : t.Apart) {call c : Nat} {errand e : Errand}
    {progress : Errand.Progress} {device : String} (hleaves : t.leaves (.proceed call) = true)
    (herrand : t.errands[call]? = some errand) (hstep : errand.Step t.publisher call progress)
    (hc : c ≠ call) (he : t.errands[c]? = some e) (hengaged : e.engaged? = some (.device device)) :
    progress.incident.bind Incident.missed? ≠ some device ∧
      progress.incident.bind Incident.bound? ≠ some device ∧
      progress.incident.bind Incident.noted? ≠ some device ∧
      progress.incident.bind Incident.forgiven? ≠ some device := by
  have hfree (hengages : errand.engages? = some (.device device)) :
      ∀ errand' ∈ t.errands, errand'.engaged? ≠ some (.device device) :=
    not_engaged_of_leaves hleaves herrand hengages
  rcases hstep.deed device with
    ⟨rfl, -, -⟩ | ⟨rfl, -, -⟩ | ⟨rfl, -, -⟩ | ⟨rfl, -, -⟩ | ⟨-, -, hconcerns⟩
  · exact absurd hengaged (hfree rfl e (List.mem_of_getElem? he))
  · exact absurd hengaged (hfree rfl e (List.mem_of_getElem? he))
  · exact absurd (hapart he herrand hengaged rfl) hc
  · exact absurd (hapart he herrand hengaged rfl) hc
  · exact Incident.ne_of_concerns? hconcerns

section Proceed

variable {call : Nat} {errand : Errand} {progress : Errand.Progress} {device : String}

/-- If no call is in the middle of it afterwards, a device is noted after the step of a call if it has
been found without a binding. -/
theorem Agreed.noted_iff_missed (h : t.Agreed) (herrand : t.errands[call]? = some errand)
    (hstep : errand.Step t.publisher call progress)
    (hidle : ∀ errand' ∈ t.errands.set call progress.errand,
      errand'.engaged? ≠ some (.device device)) :
    History.Noted (t.history ++ progress.incident.toList) device ↔
      History.Missed (t.history ++ progress.incident.toList) device := by
  have hnext : progress.errand.engaged? ≠ some (.device device) :=
    hidle progress.errand (List.mem_set (List.getElem?_eq_some_iff.mp herrand).1 _)
  rcases hstep.deed device with
    ⟨-, hprogress, -⟩ | ⟨-, hprogress, -⟩ | ⟨rfl, -, hincident⟩ | ⟨rfl, -, hincident⟩
    | ⟨hengaged, -, hconcerns⟩
  · exact absurd (congrArg Errand.engaged? hprogress) hnext
  · exact absurd (congrArg Errand.engaged? hprogress) hnext
  · rw [hincident]
    refine iff_of_true (History.since_concat.mpr (Or.inl rfl)) (History.since_concat.mpr ?_)
    exact Or.inr ⟨(h.warning herrand).1, nofun⟩
  · rw [hincident]
    refine iff_of_false (fun hsince => ?_) fun hsince => ?_
    · rcases History.since_concat.mp hsince with hnone | ⟨-, hends⟩
      · cases hnone
      · exact hends rfl
    · rcases History.since_concat.mp hsince with hnone | ⟨hmissed, -⟩
      · cases hnone
      · exact h.forgiving herrand hmissed
  · obtain ⟨hmissed, hbound, hnot, hforgiven⟩ := Incident.ne_of_concerns? hconcerns
    exact (History.since_append_of_ne hnot hforgiven).trans
      ((h.idle (not_engaged_before herrand hengaged hidle)).trans
        (History.since_append_of_ne hmissed hbound).symm)

/-- While a call is about to forgive a device, nobody has found it without a binding since it was
bound. -/
theorem Agreed.not_missed (h : t.Agreed) (hapart : t.Apart)
    (hleaves : t.leaves (.proceed call) = true) (herrand : t.errands[call]? = some errand)
    (hstep : errand.Step t.publisher call progress) {c : Nat}
    (he : (t.errands.set call progress.errand)[c]? = some (.forgiving device)) :
    ¬ History.Missed (t.history ++ progress.incident.toList) device := by
  rcases of_getElem?_proceed he with ⟨-, hnext⟩ | ⟨hc, hold⟩
  · have hengaged : progress.errand.engaged? = some (.device device) := hnext ▸ rfl
    rcases hstep.deed device with
      ⟨-, hprogress, -⟩ | ⟨-, -, hincident⟩ | ⟨-, hprogress, -⟩ | ⟨-, hprogress, -⟩ | ⟨-, hnot, -⟩
    · cases hnext.trans hprogress
    · rw [hincident]
      intro hsince
      rcases History.since_concat.mp hsince with hnone | ⟨-, hends⟩
      · cases hnone
      · exact hends rfl
    · rw [hprogress, Errand.engaged?_part] at hengaged
      cases hengaged
    · cases hnext.trans hprogress
    · exact absurd hengaged hnot
  · obtain ⟨hmissed, hbound, -, -⟩ := of_engaged_other hapart hleaves herrand hstep hc hold rfl
    exact fun hsince => h.forgiving hold ((History.since_append_of_ne hmissed hbound).mp hsince)

/-- What a call has found is in its own part of the history. -/
theorem missed_mem_of {h past later : History} (hpast : h = past ++ .missed call device :: later) :
    .missed call device ∈ h.of call := by
  rw [hpast]
  simp [History.of, Incident.call?]

/-- While a call is about to take note of a device, it is noted if it had been found without a binding
before the call has found it so. -/
theorem Agreed.noted_iff_missed_before (h : t.Agreed) (hapart : t.Apart)
    (hown : errand.Unanswered (t.history.of call)) (hleaves : t.leaves (.proceed call) = true)
    (herrand : t.errands[call]? = some errand) (hstep : errand.Step t.publisher call progress)
    {c : Nat} (he : (t.errands.set call progress.errand)[c]? = some (.warning device)) :
    History.Missed (t.history ++ progress.incident.toList) device ∧
      ∀ {past later : History},
        t.history ++ progress.incident.toList = past ++ .missed c device :: later →
          (History.Noted (t.history ++ progress.incident.toList) device ↔ past.Missed device) := by
  rcases of_getElem?_proceed he with ⟨rfl, hnext⟩ | ⟨hc, hold⟩
  · have hengaged : progress.errand.engaged? = some (.device device) := hnext ▸ rfl
    rcases hstep.deed device with
      ⟨rfl, -, hincident⟩ | ⟨-, hprogress, -⟩ | ⟨-, hprogress, -⟩ | ⟨-, hprogress, -⟩ | ⟨-, hnot, -⟩
    · rw [hincident]
      refine ⟨History.since_concat.mpr (Or.inl rfl), fun {past later} hpast => ?_⟩
      rcases History.split_append (some _) hpast with ⟨later', hpast'⟩ | ⟨-, rfl⟩
      · have hnone := missed_mem_of hpast'
        rw [hown.fresh rfl] at hnone
        cases hnone
      · refine (History.since_concat.trans ?_).trans
          (h.idle (not_engaged_of_leaves hleaves herrand rfl))
        exact ⟨fun hsince => (hsince.resolve_left nofun).1, fun hsince => Or.inr ⟨hsince, nofun⟩⟩
    · cases hnext.trans hprogress
    · rw [hprogress, Errand.engaged?_part] at hengaged
      cases hengaged
    · cases hnext.trans hprogress
    · exact absurd hengaged hnot
  · obtain ⟨hmissed, hbound, hnot, hforgiven⟩ :=
      of_engaged_other hapart hleaves herrand hstep hc hold rfl
    obtain ⟨hbefore, hagreed⟩ := h.warning hold
    refine ⟨(History.since_append_of_ne hmissed hbound).mpr hbefore, fun {past later} hpast => ?_⟩
    rcases History.split_append _ hpast with ⟨later', hpast'⟩ | ⟨hnew, -⟩
    · exact (History.since_append_of_ne hnot hforgiven).trans (hagreed hpast')
    · rw [hnew] at hmissed
      exact absurd rfl hmissed

/-- A call takes note of a device only once, and tells of it then. -/
theorem Agreed.news_over (h : t.Agreed) (hown : errand.Unanswered (t.history.of call))
    (hnoted : device ∈ t.publisher.warnedUnbound ↔ t.history.Noted device)
    (herrand : t.errands[call]? = some errand) (hstep : errand.Step t.publisher call progress)
    {past later : History} (hpast : t.history = past ++ .missed call device :: later) :
    (past.Missed device →
        History.news (t.history.of call ++ History.of progress.incident.toList call) = []) ∧
      (¬ past.Missed device →
        History.news (t.history.of call ++ History.of progress.incident.toList call)
          = [Publisher.unboundWarning device]) := by
  have hnews : History.news (t.history.of call ++ History.of progress.incident.toList call)
      = (t.history.of call).news ++ (progress.incident.bind Incident.news?).toList := by
    have hof := hstep.collect_of Incident.news?
      fun i hi => by cases i <;> first | rfl | cases hi
    rw [History.news, History.collect_append, hof, History.collect_toList]
  rw [hnews]
  rcases hown.missed (missed_mem_of hpast) with ⟨rfl, hnone⟩ | ⟨line, rfl⟩ | rfl
  · have hagreed := hnoted.trans ((h.warning herrand).2 hpast)
    cases hstep with
    | warn =>
        rw [hnone, ← hagreed, List.nil_append]
        exact ⟨fun hmem => congrArg Option.toList (unboundNews?_of_mem hmem),
          fun hmem => congrArg Option.toList (unboundNews?_of_not_mem hmem)⟩
  · have hover := h.notes hpast herrand nofun
    cases hstep
    simpa [Incident.news?] using hover
  · cases hstep

end Proceed

/-- The step of a call keeps what has been noted of a device in step with what has happened to
it. -/
theorem Agreed.proceed (h : t.Agreed) (hapart : t.Apart) {call : Nat} {errand : Errand}
    {progress : Errand.Progress} (hown : errand.Unanswered (t.history.of call))
    (hnoted : ∀ device, device ∈ t.publisher.warnedUnbound ↔ t.history.Noted device)
    (hleaves : t.leaves (.proceed call) = true) (herrand : t.errands[call]? = some errand)
    (hstep : errand.Step t.publisher call progress) :
    Agreed
      { t with
        publisher := progress.publisher
        errands := t.errands.set call progress.errand
        history := t.history ++ progress.incident.toList } where
  idle := h.noted_iff_missed herrand hstep
  forgiving := h.not_missed hapart hleaves herrand hstep
  warning := h.noted_iff_missed_before hapart hown hleaves herrand hstep
  notes {c device e past later} hpast he hne := by
    rcases History.split_append _ hpast with ⟨later', hpast'⟩ | ⟨hnew, -⟩
    · rw [History.of_append]
      rcases of_getElem?_proceed he with ⟨rfl, -⟩ | ⟨hc, hold⟩
      · exact h.news_over hown (hnoted device) herrand hstep hpast'
      · rw [History.of_eq_nil fun i hi heq => hc (hstep.eq_call i hi c heq), List.append_nil]
        exact h.notes hpast' hold hne
    · -- The call has just found the device so, and has still to take note of it.
      have hc : c = call := hstep.eq_call _ (Option.mem_toList.mpr hnew) c rfl
      rcases of_getElem?_proceed he with ⟨-, rfl⟩ | ⟨hne', -⟩
      · cases hstep with
        | miss hb =>
            cases hnew
            exact absurd rfl hne
        | _ => cases hnew
      · exact absurd hc hne'

/-- What the dispatcher does has nothing to do with the bindings of devices. -/
theorem Agreed.dispatch (h : t.Agreed) {new : Incident} (hnew : new.isDispatchers = true)
    (herrands : t'.errands = t.errands) (hhistory : t'.history = t.history ++ [new]) :
    t'.Agreed := by
  have hconcerns (device : String) : (some new).bind Incident.concerns? ≠ some device := by
    rw [Option.bind_some, Incident.concerns?_of_isDispatchers hnew]
    exact (Option.some_ne_none device).symm
  have hnoted (device : String) : t'.history.Noted device ↔ t.history.Noted device := by
    obtain ⟨-, -, hnot, hforgiven⟩ := Incident.ne_of_concerns? (hconcerns device)
    exact hhistory ▸ History.since_append_of_ne hnot hforgiven
  have hsame (device : String) : t'.history.Missed device ↔ t.history.Missed device := by
    obtain ⟨hmissed, hbound, -, -⟩ := Incident.ne_of_concerns? (hconcerns device)
    exact hhistory ▸ History.since_append_of_ne hmissed hbound
  have hbefore {call : Nat} {device : String} {past later : History}
      (hpast : t'.history = past ++ .missed call device :: later) :
      ∃ later', t.history = past ++ .missed call device :: later' := by
    rcases History.split_append (some new) (hhistory.symm.trans hpast) with hold | ⟨hi, -⟩
    · exact hold
    · exact absurd (congrArg (Option.bind · Incident.concerns?) hi) (hconcerns device)
  refine ⟨fun {device} hidle => ?_, fun {_ device} he => ?_, fun {_ device} he => ?_,
    fun {_ _ _ _ _} hpast he hne => ?_⟩
  · rw [hnoted, hsame]
    exact h.idle (herrands ▸ hidle)
  · rw [hsame]
    exact h.forgiving (herrands ▸ he)
  · rw [hnoted, hsame]
    obtain ⟨hfound, hagreed⟩ := h.warning (herrands ▸ he)
    exact ⟨hfound, fun hpast => (hbefore hpast).elim fun _ hpast' => hagreed hpast'⟩
  · obtain ⟨later', hpast'⟩ := hbefore hpast
    rw [hhistory, History.of_dispatchers hnew]
    exact h.notes hpast' (herrands ▸ he) hne

/-- A turn keeps what has been noted of a device in step with what has happened to it. -/
theorem Agreed.step (h : t.Agreed) (hbegun : t.Begun) (hapart : t.Apart)
    (hown : ∀ (call : Nat) (errand : Errand), t.errands[call]? = some errand →
      errand.Unanswered (t.history.of call))
    (hnoted : ∀ device, device ∈ t.publisher.warnedUnbound ↔ t.history.Noted device)
    (hleaves : t.leaves turn = true) (hstep : t.Step turn t') : t'.Agreed := by
  rcases hstep.turned with
    ⟨r, -, rfl⟩ | ⟨call, errand, progress, rfl, herrand, hprogress, rfl⟩
    | ⟨new, hnew, herrands, hhistory, -⟩
  · have hold {c : Nat} {errand : Errand} {matter : Matter}
        (he : (t.errands ++ [r.errand])[c]? = some errand)
        (hengaged : errand.engaged? = some matter) : t.errands[c]? = some errand := by
      rcases of_getElem?_begin he with he | ⟨-, rfl⟩
      · exact he
      · cases (engaged?_errand r).symm.trans hengaged
    refine ⟨fun hidle => h.idle fun errand hmem => hidle errand (List.mem_append_left _ hmem),
      fun he => h.forgiving (hold he rfl), fun he => h.warning (hold he rfl),
      fun {c device errand past later} hpast he hne => ?_⟩
    rcases of_getElem?_begin he with he | ⟨rfl, rfl⟩
    · exact h.notes hpast he hne
    · have hmem := List.mem_of_mem_filter (missed_mem_of hpast)
      exact absurd (hbegun _ hmem _ rfl) (Nat.lt_irrefl _)
  · exact h.proceed hapart (hown call errand herrand) hnoted hleaves herrand hprogress
  · exact h.dispatch hnew herrands hhistory

/-! ## Runs without disturbance -/

/-- Calls of a run in which they do not disturb each other stay apart and in step. -/
theorem undisturbed_run {capacity : Nat} {suppressRepeats : Bool}
    (hrun : (start capacity suppressRepeats).run? turns = some t)
    (hundisturbed : (start capacity suppressRepeats).undisturbed turns = true) :
    t.Apart ∧ t.InStep ∧ t.Agreed := by
  let P (t : Traffic) : Prop := (∃ before, (start capacity suppressRepeats).run? before = some t) ∧
    t.Apart ∧ t.InStep ∧ t.Agreed
  have hstart : P (start capacity suppressRepeats) :=
    ⟨⟨[], rfl⟩, nofun, inStep_start capacity suppressRepeats, agreed_start capacity suppressRepeats⟩
  refine (run?_preserves_of_throughout (P := P) (fun {t t' turn} h hleaves hstep => ?_) hstart hrun
    hundisturbed).2
  obtain ⟨⟨before, hbefore⟩, hapart, hinStep, hagreed⟩ := h
  have hunanswered := own_run Errand.unanswered_errand Errand.Unanswered.step hbefore
  refine ⟨⟨before ++ [turn], ?_⟩, hapart.step hleaves hstep, hinStep.step hapart hleaves hstep,
    hagreed.step (kept_run hbefore).begun hapart hunanswered (noted_iff hbefore) hleaves hstep⟩
  rw [run?_append, hbefore, Option.bind_some, run?, step?_eq_some_iff.mpr hstep]
  rfl

/-! ## Calls made one at a time -/

/-- Whether the turn keeps calls from running side by side: a call begins only when all others have
returned. -/
def waits (t : Traffic) : Turn → Bool
  | .begin _ => t.errands.all Errand.isOver
  | _ => true

/-- Whether calls are made one at a time. -/
def oneAtATime (t : Traffic) (turns : List Turn) : Bool := t.throughout waits turns

/-- Only one call has not returned. -/
def Single (t : Traffic) : Prop :=
  ∀ {call call' : Nat} {errand errand' : Errand},
    t.errands[call]? = some errand → t.errands[call']? = some errand' →
      errand.isOver = false → errand'.isOver = false → call = call'

/-- A call that waits for all others to return is the only one. -/
theorem Single.step (h : t.Single) (hwaits : t.waits turn = true) (hstep : t.Step turn t') :
    t'.Single := by
  intro c c' e e' he he' hopen hopen'
  rcases hstep.turned with
    ⟨r, rfl, rfl⟩ | ⟨call, errand, progress, -, herrand, hprogress, rfl⟩ | ⟨-, -, herrands, -, -⟩
  · have hover {c : Nat} {e : Errand} (he : t.errands[c]? = some e) : e.isOver = true :=
      List.all_eq_true.mp hwaits e (List.mem_of_getElem? he)
    rcases of_getElem?_begin he with he | ⟨rfl, -⟩
    · cases hopen.symm.trans (hover he)
    · rcases of_getElem?_begin he' with he' | ⟨rfl, -⟩
      · cases hopen'.symm.trans (hover he')
      · rfl
  · -- The call that has gone on had not returned before.
    have hbefore {c : Nat} {e : Errand}
        (he : (t.errands.set call progress.errand)[c]? = some e) (hopen : e.isOver = false) :
        ∃ e, t.errands[c]? = some e ∧ e.isOver = false := by
      rcases of_getElem?_proceed he with ⟨rfl, -⟩ | ⟨-, he⟩
      · exact ⟨errand, herrand, hprogress.isOver⟩
      · exact ⟨e, he, hopen⟩
    obtain ⟨e₀, he₀, hopen₀⟩ := hbefore he hopen
    obtain ⟨e₁, he₁, hopen₁⟩ := hbefore he' hopen'
    exact h he₀ he₁ hopen₀ hopen₁
  · rw [herrands] at he he'
    exact h he he' hopen hopen'

/-- What the only call begins with, no call is in the middle of. -/
theorem Single.leaves (h : t.Single) (turn : Turn) : t.leaves turn = true := by
  cases turn with
  | proceed call =>
      rw [Traffic.leaves]
      cases herrand : t.errands[call]? with
      | none => rfl
      | some errand =>
          rw [Option.bind_some]
          cases hengages : errand.engages? with
          | none => rfl
          | some matter =>
              refine List.all_eq_true.mpr fun errand' hmem => bne_iff_ne.mpr fun hengaged => ?_
              obtain ⟨call', herrand'⟩ := List.getElem?_of_mem hmem
              obtain rfl := h herrand herrand' (Errand.isOver_of_engages hengages)
                (Errand.isOver_of_engaged hengaged)
              cases herrand.symm.trans herrand'
              exact Errand.not_engaged_of_engages hengages hengaged
  | begin | take | check | offer | report => rfl

/-- Calls that are made one at a time do not disturb each other. -/
theorem undisturbed_of_oneAtATime (h : t.Single) (hone : t.oneAtATime turns = true) :
    t.undisturbed turns = true := by
  induction turns generalizing t with
  | nil => rfl
  | cons turn turns ih =>
      rw [oneAtATime, throughout, Bool.and_eq_true] at hone
      rw [undisturbed, throughout, h.leaves turn, Bool.true_and]
      cases hstep : t.step? turn with
      | none => rfl
      | some t' =>
          rw [hstep] at hone
          exact ih (h.step hone.1 (step?_eq_some_iff.mp hstep)) hone.2

end Traffic

end SensorGateway
