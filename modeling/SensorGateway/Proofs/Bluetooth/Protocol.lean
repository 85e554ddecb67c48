import SensorGateway.Proofs.Bluetooth.Deeds

/-!
# The protocol of a link at work

What can be seen of a link from outside: what it asks for and when, what it hands over, and that it
does nothing more once something has happened that ends a session (`Link.keeps_protocol`).  It is
shown of what a link does at one time, and then of sessions by induction along the grammar.
-/

namespace SensorGateway.Bluetooth

variable {l : Link} {xs ys deeds : List Deed} {result : Except LinkError Unit}

/-! ## Requests -/

/-- A call with which it is made sure that a device is connected. -/
def Deed.Calls (device : Handle) (d : Deed) : Prop :=
  (∃ connected, d = .check device connected) ∨ ∃ succeeded, d = .connect device succeeded

/-- A device is approached by asking whether it is connected, and by connecting it. -/
theorem Approach.calls {device : Handle} {ok : Bool} (h : Approach device ok deeds) :
    ∀ d ∈ deeds, d.Calls device := by
  intro d hd
  cases h with
  | stands => exact Or.inl ⟨_, List.mem_singleton.mp hd⟩
  | dialled h =>
      rcases List.mem_cons.mp hd with rfl | hd
      · exact Or.inl ⟨_, rfl⟩
      · cases h with
        | failed => exact Or.inr ⟨_, List.eq_of_mem_replicate hd⟩
        | made failures _ =>
            rcases List.mem_append.mp hd with hd | hd
            · exact Or.inr ⟨_, List.eq_of_mem_replicate hd⟩
            · exact Or.inr ⟨_, List.mem_singleton.mp hd⟩

section calls

variable (h : ∀ d ∈ deeds, d.Calls l.device)

include h

/-- These calls write nothing. -/
theorem written_of_calls : ∀ d ∈ deeds, d.written? = none := by
  intro d hd
  rcases h d hd with ⟨_, rfl⟩ | ⟨_, rfl⟩ <;> rfl

/-- A session does not end with one of these calls alone. -/
theorem isLast_of_calls : ∀ d ∈ deeds, d.isLast = false := by
  intro d hd
  rcases h d hd with ⟨_, rfl⟩ | ⟨_, rfl⟩ <;> rfl

/-- These calls are the link's own, and nothing is received or handed over in them. -/
theorem sound_of_calls : Sound l deeds where
  led := led_of_not_written (written_of_calls h)
  own d hd := by rcases h d hd with ⟨_, rfl⟩ | ⟨_, rfl⟩ <;> rfl
  handed := by
    refine List.filterMap_congr fun d hd => ?_
    rcases h d hd with ⟨_, rfl⟩ | ⟨_, rfl⟩ <;> rfl

end calls

/-- An attempt that succeeds is made before the third has failed. -/
theorem Approach.ongoing (h : Approach l.device true deeds) : Ongoing l deeds := by
  refine ⟨open_of_count (isLast_of_calls h.calls) ?_, ?_⟩
  · cases h with
    | stands => exact Nat.zero_lt_succ 2
    | dialled h =>
        cases h with
        | made failures hfailures =>
            have hretries : Link.retries = 2 := rfl
            simp [List.count_append]
            omega
  · intro d hd
    cases h with
    | stands =>
        cases hd
        nofun
    | dialled h =>
        cases h with
        | made failures _ =>
            rw [← List.cons_append, List.getLast?_concat] at hd
            cases hd
            nofun

/-- All attempts fail. -/
theorem Approach.eq_of_unreached {device : Handle} (h : Approach device false deeds) :
    deeds = .check device false :: List.replicate 3 (.connect device false) := by
  cases h with
  | dialled h =>
      cases h with
      | failed => rfl

namespace Asked

variable {bytes : Bytes} {ok : Bool}

/-- A request does only what is always true of a link. -/
theorem sound (h : Asked l bytes ok deeds) : Sound l deeds := by
  cases h with
  | unreached h => exact sound_of_calls h.calls
  | written ok h =>
      have hsound := sound_of_calls h.calls
      refine ⟨led_concat (written_of_calls h.calls) h _, fun d hd => ?_, ?_⟩
      · rcases List.mem_append.mp hd with hd | hd
        · exact hsound.own d hd
        · rw [List.mem_singleton.mp hd]
          exact ⟨rfl, rfl⟩
      · rw [List.filterMap_append, List.filterMap_append, hsound.handed]
        rfl

/-- A session goes on after a request that was written. -/
theorem ongoing (h : Asked l bytes true deeds) : Ongoing l deeds := by
  cases h with
  | written _ h => exact h.ongoing.append (ongoing_single rfl nofun)

/-- A session ends with a request that could not be written. -/
theorem closed (h : Asked l bytes false deeds) (fault : RadioFault) :
    Closed l (.error (.radio fault)) deeds := by
  cases h with
  | unreached h =>
      rw [h.eq_of_unreached]
      exact (ongoing_single (d := .check l.device false) rfl nofun).closed
        (Closing.unreached fault).closed
  | written _ h => exact h.ongoing.closed (Closing.unwritten fault bytes).closed

/-- A request that succeeds has written its bytes, once. -/
theorem written_eq (h : Asked l bytes true deeds) : deeds.filterMap Deed.written? = [bytes] := by
  cases h with
  | written _ h =>
      rw [List.filterMap_append, List.filterMap_eq_nil_iff.mpr (written_of_calls h.calls)]
      rfl

/-- A request writes its bytes once, or nothing if the device is not reached. -/
theorem written_eq_or (h : Asked l bytes ok deeds) :
    deeds.filterMap Deed.written? = [] ∨ deeds.filterMap Deed.written? = [bytes] := by
  cases h with
  | unreached h => exact Or.inl (List.filterMap_eq_nil_iff.mpr (written_of_calls h.calls))
  | written _ h =>
      rw [List.filterMap_append, List.filterMap_eq_nil_iff.mpr (written_of_calls h.calls)]
      exact Or.inr rfl

end Asked

/-! ## Reactions -/

namespace Reacted

variable {s : Link.Stimulus} {p : Link.Progress}

/-- A reaction does only what is always true of a link. -/
theorem sound (h : Reacted l s p deeds) : Sound l (.hear s :: deeds) := by
  have htick : Sound l [.hear .tick] := sound_single trivial rfl rfl
  cases h with
  | asked h => exact htick.append h.sound
  | failed fault h => exact htick.append h.sound
  | taken chunk => exact sound_handing chunk true
  | refused chunk => exact sound_handing chunk false
  | broken fault => exact sound_single trivial rfl rfl
  | ended => exact sound_single trivial rfl rfl

/-- A session goes on while the link is running. -/
theorem ongoing {l' : Link} (h : Reacted l s (.running l') deeds) :
    Ongoing l (.hear s :: deeds) := by
  have hhear : Ongoing l [.hear s] := by
    refine ongoing_single ?_ nofun
    cases h <;> rfl
  cases h with
  | asked h => exact hhear.append h.ongoing
  | taken chunk =>
      have hhand : Ongoing l [.hand chunk true] := ongoing_single rfl nofun
      exact hhear.append hhand

/-- A session ends with the reaction after which the link is over. -/
theorem closed (h : Reacted l s (.over result) deeds) : Closed l result (.hear s :: deeds) := by
  cases h with
  | failed fault h =>
      have htick : Ongoing l [.hear .tick] := ongoing_single rfl nofun
      exact htick.closed (h.closed fault)
  | refused chunk =>
      have hhear : Ongoing l [.hear (.notice (.data chunk))] := ongoing_single rfl nofun
      exact hhear.closed (Closing.refused chunk).closed
  | broken fault => exact (Closing.broken fault).closed
  | ended => exact Closing.ended.closed

end Reacted

/-! ## What is asked for -/

/-- What is asked for after so many requests. -/
def Query.after : Nat → Query → Query
  | 0, q => q
  | n + 1, q => q.next.after n

/-- The requests of a session, in their order. -/
def request : Nat → Wire.Command
  | 0 => .readDeviceName
  | n + 1 => if n % 2 = 0 then .readHardwareInfo else .readCellInfo

/-- After the name, the pack and the cells are asked for in turn. -/
theorem request_succ : ∀ n : Nat, request (n + 1) = (Query.pack.after n).command
  | 0 => rfl
  | 1 => rfl
  | n + 2 => by
      have hnext : Query.pack.after (n + 2) = Query.pack.after n := rfl
      rw [hnext, ← request_succ n]
      simp only [request, Nat.add_mod_right]

/-- The first so many requests after one that comes up. -/
def Query.requests (q : Query) (n : Nat) : List Bytes :=
  (List.range n).map fun i => (q.after i).command.toBytes

/-- The requests from some point on begin with the one that comes up. -/
theorem Query.requests_succ (q : Query) (n : Nat) :
    q.requests (n + 1) = q.command.toBytes :: q.next.requests n := by
  rw [requests, List.range_succ_eq_map, List.map_cons, List.map_map]
  rfl

/-- What is asked for from some point on: one request a tick, but perhaps not at the last one. -/
structure Asks (q : Query) (p : Link.Progress) (deeds : List Deed) (n : Nat) : Prop where
  written : deeds.filterMap Deed.written? = q.requests n
  le : n ≤ deeds.countP Deed.isTick
  eq : ∀ l, p = .running l → n = deeds.countP Deed.isTick

/-- Within a request there is no tick. -/
theorem Asked.countP_isTick {bytes : Bytes} {ok : Bool} (h : Asked l bytes ok deeds) :
    deeds.countP Deed.isTick = 0 := by
  have hcalls : ∀ {deeds : List Deed}, (∀ d ∈ deeds, d.Calls l.device) →
      deeds.countP Deed.isTick = 0 := by
    intro deeds hcalls
    refine List.countP_eq_zero.mpr fun d hd => ?_
    rcases hcalls d hd with ⟨_, rfl⟩ | ⟨_, rfl⟩ <;> nofun
  cases h with
  | unreached h => exact hcalls h.calls
  | written ok h =>
      rw [List.countP_append, hcalls h.calls]
      rfl

/-- A tick that is survived is a request, and then it is the other's turn. -/
theorem Reacted.asks_append {s : Link.Stimulus} {l' : Link} {p : Link.Progress} {later : List Deed}
    {n : Nat} (h : Reacted l s (.running l') deeds) (hlater : Asks l'.query p later n) :
    ∃ n', Asks l.query p (.hear s :: deeds ++ later) n' := by
  cases h with
  | asked h =>
      have hticks : (Deed.hear .tick :: deeds ++ later).countP Deed.isTick =
          later.countP Deed.isTick + 1 := by
        rw [List.cons_append, List.countP_cons, List.countP_append, h.countP_isTick, Nat.zero_add]
        rfl
      refine ⟨n + 1, ?_, ?_, fun l hl => ?_⟩
      · have hnone : (Deed.hear .tick).written? = none := rfl
        rw [List.cons_append, List.filterMap_cons_none hnone, List.filterMap_append, h.written_eq,
          hlater.written, Query.requests_succ]
        rfl
      · rw [hticks]
        exact Nat.succ_le_succ hlater.le
      · rw [hticks, hlater.eq l hl]
  | taken chunk => exact ⟨n, hlater.written, hlater.le, hlater.eq⟩

/-- At the last tick something is asked for or not. -/
theorem Reacted.asks_of_over {s : Link.Stimulus} (h : Reacted l s (.over result) deeds) :
    ∃ n, Asks l.query (.over result) (.hear s :: deeds) n := by
  cases h with
  | failed fault h =>
      rcases h.written_eq_or with hnone | hone
      · exact ⟨0, hnone, Nat.zero_le _, nofun⟩
      · exact ⟨1, hone, List.countP_pos_iff.mpr ⟨_, List.mem_cons_self, rfl⟩, nofun⟩
  | refused chunk => exact ⟨0, rfl, Nat.zero_le _, nofun⟩
  | broken fault => exact ⟨0, rfl, Nat.zero_le _, nofun⟩
  | ended => exact ⟨0, rfl, Nat.zero_le _, nofun⟩

/-! ## Whole sessions -/

/-- What has become of a link tells whether its session has ended. -/
def Ends (l : Link) : Link.Progress → List Deed → Prop
  | .running _, deeds => Ongoing l deeds
  | .over result, deeds => Closed l result deeds

/-- What follows on an open session decides whether it has ended. -/
theorem Ongoing.ends {p : Link.Progress} (hxs : Ongoing l xs) (hys : Ends l p ys) :
    Ends l p (xs ++ ys) := by
  rcases p with _ | _
  · exact Ongoing.append hxs hys
  · exact Ongoing.closed hxs hys

section query

/-! What a link will ask for next makes no difference to what is its own and to how it ends. -/

variable {q : Query}

/-- What is always true of a link does not depend on what it will ask for next. -/
theorem Sound.of_query (h : Sound { l with query := q } deeds) : Sound l deeds :=
  ⟨h.led, h.own, h.handed⟩

/-- Nor does it depend on this which deeds end a session, -/
theorem Closing.query (h : Closing l result deeds) (q : Query) :
    Closing { l with query := q } result deeds := by
  cases h with
  | refused chunk => exact .refused chunk
  | unwritten fault bytes => exact .unwritten fault bytes
  | unreached fault => exact .unreached fault
  | unsubscribed fault => exact .unsubscribed fault
  | broken fault => exact .broken fault
  | ended => exact .ended

/-- whether there are such deeds, -/
theorem Open.of_query (h : Open { l with query := q } deeds) : Open l deeds :=
  fun result closing hclosing => h result closing (hclosing.query q)

/-- or whether the session has ended. -/
theorem Ends.of_query {p : Link.Progress} (h : Ends { l with query := q } p deeds) :
    Ends l p deeds := by
  rcases p with _ | _
  · exact ⟨Open.of_query h.1, h.2⟩
  · obtain ⟨hopen, before, closing, hdeeds, hclosing⟩ := h
    exact ⟨Open.of_query hopen, before, closing, hdeeds, hclosing.query l.query⟩

end query

/-- A reaction changes nothing of a running link but what it will ask for next. -/
theorem Reacted.query {s : Link.Stimulus} {l' : Link} (h : Reacted l s (.running l') deeds) :
    ∃ q, l' = { l with query := q } := by
  cases h with
  | asked _ => exact ⟨_, rfl⟩
  | taken _ => exact ⟨l.query, rfl⟩

namespace Course

variable {p : Link.Progress}

/-- From one stimulus to the next, a link does only what is always true of a link. -/
theorem sound (h : Course l p deeds) : Sound l deeds := by
  induction h with
  | rests l => exact ⟨led_of_not_written nofun, nofun, rfl⟩
  | goesOn h _ ih =>
      obtain ⟨q, rfl⟩ := h.query
      exact h.sound.append ih.of_query
  | stops h => exact h.sound

/-- A course ends when the link is over, and not before. -/
theorem ends (h : Course l p deeds) : Ends l p deeds := by
  induction h with
  | rests l => exact ⟨open_of_count nofun (Nat.zero_lt_succ 2), nofun⟩
  | goesOn h _ ih =>
      obtain ⟨q, rfl⟩ := h.query
      exact h.ongoing.ends ih.of_query
  | stops h => exact h.closed

/-- In a course there is one request a tick, in the order of the requests. -/
theorem asks (h : Course l p deeds) : ∃ n, Asks l.query p deeds n := by
  induction h with
  | rests l => exact ⟨0, rfl, Nat.le_refl 0, fun _ _ => rfl⟩
  | goesOn h _ ih =>
      obtain ⟨n, hn⟩ := ih
      exact h.asks_append hn
  | stops h => exact h.asks_of_over

end Course

namespace Started

variable {p : Link.Progress}

/-- Starting a link does only what is always true of a link. -/
theorem sound (h : Started l p deeds) : Sound l deeds := by
  have hsubscribe (ok : Bool) : Sound l [.subscribe l.device l.notifyFrom ok] :=
    sound_single ⟨rfl, rfl⟩ rfl rfl
  cases h with
  | unsubscribed fault => exact hsubscribe false
  | unasked fault h => exact (hsubscribe true).append h.sound
  | asked h => exact (hsubscribe true).append h.sound

/-- A session ends with its start if the start does not succeed. -/
theorem ends (h : Started l p deeds) : Ends l p deeds := by
  have hsubscribe : Ongoing l [.subscribe l.device l.notifyFrom true] := ongoing_single rfl nofun
  cases h with
  | unsubscribed fault => exact (Closing.unsubscribed fault).closed
  | unasked fault h => exact hsubscribe.closed (h.closed fault)
  | asked h => exact hsubscribe.append h.ongoing

/-- A start that succeeds has asked for the name. -/
theorem written_eq (h : Started l (.running l) deeds) :
    deeds.filterMap Deed.written? = [(request 0).toBytes] := by
  cases h with
  | asked h => exact h.written_eq

/-- A start asks for the name, or for nothing at all. -/
theorem written_eq_or (h : Started l p deeds) : deeds.filterMap Deed.written? = [] ∨
    deeds.filterMap Deed.written? = [(request 0).toBytes] := by
  cases h with
  | unsubscribed fault => exact Or.inl rfl
  | unasked fault h => exact h.written_eq_or
  | asked h => exact h.written_eq_or

/-- Within the start there is no tick. -/
theorem countP_isTick (h : Started l p deeds) : deeds.countP Deed.isTick = 0 := by
  cases h with
  | unsubscribed fault => rfl
  | unasked fault h => exact h.countP_isTick
  | asked h => exact h.countP_isTick

/-- A link that has been started is the one that it was before. -/
theorem eq_of_running {l' : Link} (h : Started l (.running l') deeds) : l' = l := by
  cases h with
  | asked h => rfl

end Started

/-- The first so many requests of a session. -/
def requests (n : Nat) : List Bytes :=
  (List.range n).map fun i => (request i).toBytes

/-- The requests of a session are that for the name, and then those in turn. -/
theorem requests_succ (n : Nat) :
    requests (n + 1) = (request 0).toBytes :: Query.pack.requests n := by
  rw [requests, List.range_succ_eq_map, List.map_cons, List.map_map]
  refine congrArg _ (List.map_congr_left fun i _ => ?_)
  rw [Function.comp_apply, Nat.succ_eq_add_one, request_succ]

/-- What can be seen of a session. -/
structure Protocol (l : Link) (p : Link.Progress) (deeds : List Deed) : Prop where
  /-- The name is asked for, and then the pack and the cells in turn, at one tick after the
  other. -/
  asks : ∃ n ≤ deeds.countP Deed.isTick + 1, deeds.filterMap Deed.written? = requests n ∧
    ∀ l', p = .running l' → n = deeds.countP Deed.isTick + 1
  /-- Before something is written, the device says that it is connected, or it is called at most
  three times, and the last call succeeds. -/
  reached : Led l deeds
  own : ∀ d ∈ deeds, d.IsOf l
  /-- What is received is handed over as it is and in its order. -/
  handed : deeds.filterMap Deed.handed? = deeds.filterMap Deed.received?
  /-- Whatever ends a session is the last that happens in it. -/
  silent : ∀ before closing after result, deeds = before ++ closing ++ after →
    Closing l result closing → after = [] ∧ ∃ result', p = .over result'
  /-- And it does not end without. -/
  reason : ∀ result, p = .over result →
    ∃ before closing, deeds = before ++ closing ∧ Closing l result closing
  /-- It ends without an error when a chunk is not taken, and only then. -/
  refused : p = .over (.ok ()) ↔ ∃ chunk, .hand chunk false ∈ deeds

/-- Nothing is done after the deeds with which a session ends. -/
theorem Ends.silent {p : Link.Progress} (h : Ends l p deeds) {before closing after : List Deed}
    (hdeeds : deeds = before ++ closing ++ after) (hclosing : Closing l result closing) :
    after = [] ∧ ∃ result', p = .over result' := by
  subst hdeeds
  rcases p with l' | result'
  · exact absurd ⟨before, after, rfl⟩ (h.1 result closing hclosing)
  · exact ⟨h.eq_nil_of_closing hclosing, result', rfl⟩

/-- A session ends well if a chunk has been refused, and only then. -/
theorem Ends.refused {p : Link.Progress} (h : Ends l p deeds) :
    p = .over (.ok ()) ↔ ∃ chunk, .hand chunk false ∈ deeds := by
  constructor
  · rintro rfl
    obtain ⟨-, before, closing, rfl, hclosing⟩ := h
    cases hclosing with
    | refused chunk => exact ⟨chunk, List.mem_append_right _ (List.mem_singleton_self _)⟩
  · rintro ⟨chunk, hmem⟩
    obtain ⟨before, after, hdeeds⟩ := List.append_of_mem hmem
    have hdeeds' : deeds = before ++ [.hand chunk false] ++ after := by
      rw [hdeeds, List.append_assoc, List.singleton_append]
    obtain ⟨rfl, result, rfl⟩ := h.silent hdeeds' (.refused chunk)
    obtain ⟨-, earlier, closing, hclosed, hclosing⟩ := h
    have hlast : closing.getLast? = some (.hand chunk false) := by
      have h' := congrArg List.getLast? (hclosed.symm.trans hdeeds)
      rwa [List.getLast?_append_of_ne_nil _ hclosing.ne_nil, List.getLast?_concat] at h'
    cases hclosing with
    | refused chunk => rfl
    | unwritten | unreached | unsubscribed | broken | ended => cases hlast

namespace Session

variable {p : Link.Progress}

/-- In a whole session a link does only what is always true of a link. -/
theorem sound (h : Session l p deeds) : Sound l deeds := by
  cases h with
  | fails h => exact h.sound
  | goesOn h hcourse =>
      obtain rfl := h.eq_of_running
      exact h.sound.append hcourse.sound

/-- A session is over when it has ended, and not before. -/
theorem ends (h : Session l p deeds) : Ends l p deeds := by
  cases h with
  | fails h => exact h.ends
  | goesOn h hcourse =>
      obtain rfl := h.eq_of_running
      exact Ongoing.ends h.ends hcourse.ends

/-- A session asks for the name, and then for one thing more at each tick. -/
theorem asks (h : Session l p deeds) (hquery : l.query = .pack) :
    ∃ n ≤ deeds.countP Deed.isTick + 1, deeds.filterMap Deed.written? = requests n ∧
      ∀ l', p = .running l' → n = deeds.countP Deed.isTick + 1 := by
  cases h with
  | fails h =>
      rcases h.written_eq_or with hnone | hone
      · exact ⟨0, Nat.zero_le _, hnone, nofun⟩
      · exact ⟨1, Nat.le_add_left 1 _, hone, nofun⟩
  | goesOn h hcourse =>
      obtain rfl := h.eq_of_running
      obtain ⟨n, hn⟩ := hcourse.asks
      rw [hquery] at hn
      rw [List.countP_append, h.countP_isTick, Nat.zero_add, List.filterMap_append, h.written_eq,
        hn.written]
      refine ⟨n + 1, Nat.succ_le_succ hn.le, (requests_succ n).symm, fun l' hl' => ?_⟩
      rw [hn.eq l' hl']

/-- Whatever happens, what can be seen of a session follows the protocol. -/
theorem protocol (h : Session l p deeds) (hquery : l.query = .pack) : Protocol l p deeds where
  asks := h.asks hquery
  reached := h.sound.led
  own := h.sound.own
  handed := h.sound.handed
  silent _ _ _ _ hdeeds hclosing := h.ends.silent hdeeds hclosing
  reason result hp := by
    subst hp
    exact h.ends.2
  refused := h.ends.refused

end Session

namespace Link

variable {σ : Type} [Radio σ] [Journal σ]

/-- **A link keeps the protocol.**  Whatever comes from the clock and from the battery, and whatever
the radio answers; and watching it makes no difference.  A link that runs by itself hears a tick
first, and then what has come from the battery, or else a tick. -/
theorem keeps_protocol (deliver : Bytes → StateM σ Bool) (sources : List (StateM σ Stimulus))
    (device : Handle) (name : String) (writeTo notifyFrom fuel : Nat) (state : σ) :
    let l : Link := { device, name, writeTo, notifyFrom }
    let watched :=
      (l.session (Watched.handing deliver) (sources.map Watched.hearing)).run { state }
    (l.session deliver sources).run state = (watched.1, watched.2.state) ∧
      Protocol l watched.1 watched.2.deeds ∧
      l.run deliver fuel =
        l.session deliver (pure .tick :: List.replicate fuel (nextStimulus device)) := by
  intro l watched
  have htells : Tells (l.session deliver sources)
      (l.session (Watched.handing deliver) (sources.map Watched.hearing)) (Session l) :=
    l.tells_session sources
  refine ⟨htells.same { state }, ?_, l.run_eq_session deliver fuel⟩
  obtain ⟨deeds, hdeeds, hsession⟩ := htells.deeds { state }
  have hwatched : watched.2.deeds = deeds := hdeeds
  rw [hwatched]
  exact hsession.protocol rfl

end Link

end SensorGateway.Bluetooth
