import SensorGateway.Bus.Sinks
import SensorGateway.Proofs.Bus.Undisturbed

/-!
# Warnings while a trouble lasts

Three things are warned of: a sink that fails, a queue that is full, and a device without a binding.
For each of them the publisher keeps a mark.  A failure sets it, a success of the same kind clears
it, and what is told depends on the mark as it was before.

The mark of the sink is the dispatcher's own, so what is told of the sink follows the offers in every
run.  The other two are moved by calls, each of them a step after what it marks: a call that has
queued or lost an envelope takes note of it later, and so does one that has found a device without a
binding.  If another call does the same in between, note is taken in another order than that in which
things have happened, and the queue may be said to have been drained between two losses in a row
(`Traffic.warnings_off_edges`).  What is told follows the marks in every run, and what has
happened in every run in which calls do not disturb each other (`Traffic.undisturbed`).
`Traffic.warnings_on_edges` says both.
-/

namespace SensorGateway

namespace Traffic

variable {t t' : Traffic} {turn : Turn} {turns : List Turn}

/-! ## What is told of troubles -/

/-- What is told of troubles, in every run, and in those in which calls do not disturb each other. -/
structure Announced (suppress undisturbed : Bool) (t : Traffic) : Prop where
  /-- What is told of the sink follows the offers that it has answered, -/
  bus : EdgeTriggered suppress Publisher.busAvailable t.history.offers
  /-- and the dispatcher logs this and nothing else. -/
  reports : t.history.reported ++ t.due.toList = t.history.offers.flatMap Trial.said
  /-- What is told of the queue follows the notes that calls take of it. -/
  room : EdgeTriggered suppress Publisher.queueDrained t.history.marks
  /-- Each call takes note of its attempts, and logs what it has to tell and nothing else. -/
  calls : ∀ (call : Nat) (errand : Errand), t.errands[call]? = some errand →
    errand.Outspoken (t.history.of call)
  /-- A device is warned about when a call notes it, unless that has been done since it was forgiven
  last. -/
  noted : ∀ {past later : History} {call : Nat} {device : String} {news : Option Log.Entry},
    t.history = past ++ .noted call device news :: later →
      (past.Noted device → news = none) ∧
        (¬ past.Noted device → news = some (Publisher.unboundWarning device))
  /-- A call misses a binding only if there is none, -/
  missed : ∀ {past later : History} {call : Nat} {device : String},
    t.history = past ++ .missed call device :: later → past.standing device = none
  /-- and then it changes nothing but that it notes this. -/
  inert : ∀ {t' : Traffic} {call : Nat} {device : String}, t.step? (.proceed call) = some t' →
    .missed call device ∈ t'.history →
      t'.publisher = { t.publisher with warnedUnbound := t'.publisher.warnedUnbound }
  /-- If calls do not disturb each other, their notes of the queue are those of all attempts, in their
  order, and what is told of them is logged in their order. -/
  attempts : undisturbed = true → (∀ errand ∈ t.errands, errand.engaged? ≠ some .queue) →
    t.history.marks.map Trial.warning = t.history.attempts ∧
      t.history.told = t.history.marks.flatMap Trial.said
  /-- And a call that has found a device without a binding has logged a warning and nothing else,
  unless a call had found it so since it was bound last; then it has logged nothing. -/
  devices : undisturbed = true →
    ∀ {past later : History} {call : Nat} {device : String} {answer : Nat},
      t.history = past ++ .missed call device :: later →
        t.errands[call]? = some (.returned answer) →
          answer = 0 ∧ (past.Missed device → (t.history.of call).lines = []) ∧
            (¬ past.Missed device →
              (t.history.of call).lines = [Publisher.unboundWarning device])

/-- **Troubles are told when they begin and when they are over.**  What is told of the sink depends
on how the last offer ended; what is told of the queue and of devices depends on the notes that calls
take, and so, if they do not disturb each other, on how the last attempt to queue an envelope ended,
and on whether the device has been found without a binding since it was bound last.  Calls that are
made one at a time do not disturb each other. -/
theorem warnings_on_edges {capacity : Nat} {suppressRepeats : Bool}
    (hrun : (start capacity suppressRepeats).run? turns = some t) :
    t.Announced suppressRepeats ((start capacity suppressRepeats).undisturbed turns) ∧
      ((start capacity suppressRepeats).oneAtATime turns = true →
        (start capacity suppressRepeats).undisturbed turns = true) := by
  have hmarked := marked_run hrun
  have hunanswered := own_run Errand.unanswered_errand Errand.Unanswered.step hrun
  refine ⟨?_, undisturbed_of_oneAtATime nofun⟩
  exact
    { bus := hmarked.bus.told.edgeTriggered
      reports := hmarked.reports
      room := hmarked.room.told.edgeTriggered
      calls := outspoken_run hrun
      noted := news_of_noted hrun
      missed := fun hpast => standing_of_sought hrun hpast rfl
      inert := fun {t' call device} hstep? hmem => by
        cases step?_eq_some_iff.mp hstep? with
        | @proceed _ errand progress herrand hstep =>
            have hown : .missed call device
                ∈ t.history.of call ++ progress.incident.toList := by
              rcases List.mem_append.mp hmem with hmem | hmem
              · refine List.mem_append_left _ (List.mem_filter.mpr ⟨hmem, ?_⟩)
                exact beq_self_eq_true (some call)
              · exact List.mem_append_right _ hmem
            exact (hunanswered call errand herrand).inert hstep hown
      attempts := fun hundisturbed hidle => by
        obtain ⟨hattempts, htold⟩ := (undisturbed_run hrun hundisturbed).2.1.idle hidle
        rw [List.append_nil] at hattempts htold
        exact ⟨hattempts.symm, htold⟩
      devices := fun hundisturbed {past later call device answer} hpast herrand => by
        have hover := (undisturbed_run hrun hundisturbed).2.2.notes hpast herrand nofun
        have htold : (t.history.of call).lines ++ [] = (t.history.of call).news :=
          (outspoken_run hrun call _ herrand).told
        rw [List.append_nil] at htold
        refine ⟨?_, ?_⟩
        · rcases (hunanswered call _ herrand).missed (missed_mem_of hpast) with
            ⟨h, -⟩ | ⟨line, h⟩ | h
          · cases h
          · cases h
          · exact Errand.returned.inj h
        · rw [htold]
          exact hover }

/-- There is room for one envelope, and two topics.  The sink fails twice before it takes anything.
Then the battery is detached, and twice found without a binding. -/
theorem warnings_on_edges_two_outages :
    let turns : List Turn :=
      Turn.whole 0 (.bind "battery" ["first", "second"]) 3 ++
        Turn.whole 1 (.publish "battery" .empty ⟨0, 0⟩) 9 ++
        [.take, .check, .offer (RecordingSink.mk .failing 0 []), .report] ++
        Turn.whole 2 (.publish "battery" .empty ⟨0, 0⟩) 10 ++
        [.take, .check, .offer (RecordingSink.mk .failing 0 [])] ++
        Turn.whole 3 (.publish "battery" .empty ⟨0, 0⟩) 10 ++
        [.take, .check, .offer (RecordingSink.mk .accepting 0 []), .report] ++
        Turn.whole 4 (.detach "battery") 2 ++ Turn.whole 5 (.publish "battery" .empty ⟨0, 0⟩) 3 ++
        Turn.whole 6 (.publish "battery" .empty ⟨0, 0⟩) 2
    let messages : List String :=
      ["Publisher: queue full, dropping payload for second",
        "Publisher: failed to publish to first: " ++ (Error.publish .busDown).message,
        "Publisher: queue drained",
        "Publisher: queue full, dropping payload for second",
        "Publisher: queue drained",
        "Publisher: queue full, dropping payload for second",
        "Publisher: bus available again",
        "Publisher: no topics bound for battery, not publishing"]
    ∃ t, (start 0 true).run? turns = some t ∧ (start 0 true).oneAtATime turns = true ∧
      t.history.offers.map Trial.failed = [true, true, false] ∧
      EdgeTriggered true Publisher.busAvailable t.history.offers ∧
      t.history.attempts.map Option.isSome = [false, true, false, true, false, true] ∧
      t.history.marks.map Trial.warning = t.history.attempts ∧
      EdgeTriggered true Publisher.queueDrained t.history.marks ∧
      (t.history.of 5).lines = [Publisher.unboundWarning "battery"] ∧
      (t.history.of 6).lines = [] ∧
      t.logs.map Log.Entry.message = messages := by
  intro turns messages
  obtain ⟨t, hrun, hone, hfailed, hattempts, hlogs, hidle, hover₅, hover₆, hpast₅, hnot, hpast₆,
      hmissed⟩ :
      ∃ t, (start 0 true).run? turns = some t ∧ (start 0 true).oneAtATime turns = true ∧
        t.history.offers.map Trial.failed = [true, true, false] ∧
        t.history.attempts.map Option.isSome = [false, true, false, true, false, true] ∧
        t.logs.map Log.Entry.message = messages ∧
        (∀ errand ∈ t.errands, errand.engaged? ≠ some .queue) ∧
        t.errands[5]? = some (.returned 0) ∧ t.errands[6]? = some (.returned 0) ∧
        t.history = t.history.take 34 ++ .missed 5 "battery" :: t.history.drop 35 ∧
        ¬ History.Missed (t.history.take 34) "battery" ∧
        t.history = t.history.take 37 ++ .missed 6 "battery" :: t.history.drop 38 ∧
        History.Missed (t.history.take 37) "battery" :=
    ⟨_, rfl, by decide +kernel, by decide +kernel, by decide +kernel, by decide +kernel,
      by decide +kernel, rfl, rfl, rfl, by decide +kernel, rfl, by decide +kernel⟩
  obtain ⟨hannounced, halone⟩ := warnings_on_edges hrun
  have hundisturbed := halone hone
  exact ⟨t, hrun, hone, hfailed, hannounced.bus, hattempts,
    (hannounced.attempts hundisturbed hidle).1, hannounced.room,
    (hannounced.devices hundisturbed hpast₅ hover₅).2.2 hnot,
    (hannounced.devices hundisturbed hpast₆ hover₆).2.1 hmissed, hlogs⟩

/-- If a success and two failures are told of in three lines, this is not at the edges. -/
theorem not_edgeTriggered_of_three_lines {recovery first second : Log.Entry} {trials : List Trial}
    (htrials : trials.map Trial.warning = [none, some first, some second])
    (hsaid : (trials.flatMap Trial.said).length = 3) : ¬ EdgeTriggered true recovery trials := by
  intro h
  obtain ⟨x, y, z, rfl⟩ := List.length_eq_three.mp (by simpa using congrArg List.length htrials)
  obtain ⟨hx, hy, hz⟩ : x.warning = none ∧ y.warning = some first ∧ z.warning = some second := by
    simpa using htrials
  have hpast : [x, y, z] = [] ++ x :: [y, z] := rfl
  have hafter : [x, y, z] = [x] ++ y :: [z] ++ [] := rfl
  have hsilent : x.said = [] := h.succeeding hpast hx
  have honce := h.once rfl hafter
    (by rw [Trial.failsAfter, List.getLast?_singleton, Option.map_some, Trial.failed, hx]; rfl) hy
    (fun w hw => by rw [List.mem_singleton.mp hw, Trial.failed, hz]; rfl) nofun
  rw [List.flatMap_cons, hsilent, List.nil_append, honce.1] at hsaid
  cases hsaid

/-- Calls that disturb each other are not told about at the edges.  Of two calls that publish, one
queues an envelope, and takes note of it only after the other has lost one: so the queue is said to
have been drained between two losses in a row.  A call finds the battery without a binding, and takes
note of it only after it has been bound: so the next one that finds it so is silent.  And when the
dispatcher has stopped, an attempt fails without a word about the queue. -/
theorem warnings_off_edges :
    let losing : List Turn :=
      Turn.whole 0 (.bind "a" ["first"]) 3 ++ Turn.whole 1 (.bind "b" ["second", "third"]) 3 ++
        Turn.whole 2 (.publish "a" .empty ⟨0, 0⟩) 3 ++
        Turn.whole 3 (.publish "b" .empty ⟨0, 0⟩) 6 ++ List.replicate 3 (.proceed 2) ++
        List.replicate 5 (.proceed 3)
    let missing : List Turn :=
      Turn.whole 0 (.publish "battery" .empty ⟨0, 0⟩) 1 ++
        Turn.whole 1 (.bind "battery" ["first"]) 3 ++ List.replicate 2 (.proceed 0) ++
        Turn.whole 2 (.detach "battery") 2 ++ Turn.whole 3 (.publish "battery" .empty ⟨0, 0⟩) 2
    let stopping : List Turn :=
      Turn.whole 0 (.bind "battery" ["first"]) 3 ++
        Turn.whole 1 (.publish "battery" .empty ⟨0, 0⟩) 5 ++
        [.take, .check, .offer (RecordingSink.mk .breaking 0 [])] ++
        Turn.whole 2 (.publish "battery" .empty ⟨0, 0⟩) 4
    (∃ t, (start 1 true).run? losing = some t ∧ (∀ errand ∈ t.errands, errand.isOver = true) ∧
      ∀ trials : List Trial, trials.map Trial.warning = t.history.attempts →
        trials.flatMap Trial.said = t.history.told →
          ¬ EdgeTriggered true Publisher.queueDrained trials) ∧
      (∃ t past later, (start 1 true).run? missing = some t ∧
        t.history = past ++ .missed 3 "battery" :: later ∧ t.errands[3]? = some (.returned 0) ∧
        ¬ History.Missed past "battery" ∧ (t.history.of 3).lines = []) ∧
      ∃ t e, (start 1 true).run? stopping = some t ∧
        (start 1 true).oneAtATime stopping = true ∧ .refused 2 e ∈ t.history ∧
        Publisher.fullWarning e ∉ t.logs := by
  intro losing missing stopping
  refine ⟨?_, ?_, ?_⟩
  · obtain ⟨t, first, second, hrun, hover, hattempts, htold⟩ :
        ∃ t first second, (start 1 true).run? losing = some t ∧
          (∀ errand ∈ t.errands, errand.isOver = true) ∧
          t.history.attempts = [none, some first, some second] ∧ t.history.told.length = 3 :=
      ⟨_, _, _, rfl, by decide +kernel, rfl, rfl⟩
    refine ⟨t, hrun, hover, fun trials htrials hsaid => ?_⟩
    exact not_edgeTriggered_of_three_lines (htrials.trans hattempts) (hsaid ▸ htold)
  · exact ⟨_, _, _, rfl, (List.take_append_drop 6 _).symm, rfl, by decide +kernel,
      by decide +kernel⟩
  · exact ⟨_, _, rfl, by decide +kernel, List.mem_of_getElem? (i := 9) rfl, by decide +kernel⟩

end Traffic

end SensorGateway
