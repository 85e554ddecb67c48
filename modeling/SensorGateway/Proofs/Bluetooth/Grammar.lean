import SensorGateway.Proofs.Bluetooth.Watched

/-!
# The grammar of a link at work

A link subscribes, asks for the name, and then reacts to ticks and notifications in whatever order
they come.  What happens in a session is told by the grammar below: a request is an approach and a
write (`Asked`), and a reaction is a request, a chunk handed over, or an end (`Reacted`).  Every
session is one of the grammar (`Link.tells_session`).

What a link is given to react to comes from *sources*, one after another, which may do anything to
the state of the world but make the link do something.
-/

namespace SensorGateway.Bluetooth

variable {σ : Type} [Radio σ] [Journal σ]

namespace Link

/-! ## Sessions -/

/-- Reacts to what comes from one source after another until it is over. -/
def attend (deliver : Bytes → StateM σ Bool) : List (StateM σ Stimulus) → Link → StateM σ Progress
  | [], l => return .running l
  | source :: rest, l => do
      match ← l.react deliver (← source) with
      | .running l => attend deliver rest l
      | .over result => return .over result

/-- Starts a link and lets it react to what comes from the sources. -/
def session (deliver : Bytes → StateM σ Bool) (sources : List (StateM σ Stimulus)) (l : Link) :
    StateM σ Progress := do
  match ← l.start with
  | .running l => l.attend deliver sources
  | .over result => return .over result

/-- What has come from the battery, or else a tick. -/
def nextStimulus (device : Handle) : StateM σ Stimulus :=
  return (← Radio.notice device).elim .tick .notice

/-- A link that goes on is a link to the same device. -/
theorem react_bind_congr {β : Type} {deliver : Bytes → StateM σ Bool} {l : Link}
    {f g : Progress → StateM σ β} (hover : ∀ result, f (.over result) = g (.over result))
    (hrunning : ∀ l' : Link, l'.device = l.device → f (.running l') = g (.running l'))
    (s : Stimulus) : l.react deliver s >>= f = l.react deliver s >>= g := by
  cases s with
  | tick =>
      simp only [react, bind_assoc]
      refine bind_congr fun r => ?_
      cases r with
      | ok _ => exact hrunning { l with query := l.query.next } rfl
      | error fault => exact hover _
  | notice notice =>
      cases notice with
      | data chunk =>
          simp only [react, bind_assoc]
          refine bind_congr fun taken => ?_
          cases taken with
          | true => exact hrunning l rfl
          | false =>
              simp only [Bool.false_eq_true, if_false, bind_assoc, pure_bind]
              exact bind_congr fun _ => hover _
      | failed fault =>
          simp only [react, bind_assoc, pure_bind]
          exact bind_congr fun _ => hover _
      | ended => exact hover _

/-- Working on is attending to what comes from the battery, or to ticks. -/
theorem work_eq_attend (deliver : Bytes → StateM σ Bool) (fuel : Nat) (l : Link) :
    l.work deliver fuel = l.attend deliver (List.replicate fuel (nextStimulus l.device)) := by
  induction fuel generalizing l with
  | zero => rfl
  | succ fuel ih =>
      simp only [work, List.replicate_succ, attend]
      refine Eq.trans ?_ (bind_assoc _ _ _).symm
      refine bind_congr fun notice => ?_
      rw [pure_bind]
      refine react_bind_congr ?_ ?_ _
      · exact fun _ => rfl
      · intro l' hl'
        rw [← hl']
        exact ih l'

/-- A link that runs by itself attends to a tick, and then to what comes. -/
theorem run_eq_session (deliver : Bytes → StateM σ Bool) (fuel : Nat) (l : Link) :
    l.run deliver fuel =
      l.session deliver (pure .tick :: List.replicate fuel (nextStimulus l.device)) := by
  simp only [run, session, start, bind_assoc]
  refine bind_congr fun r => ?_
  cases r with
  | error fault => rfl
  | ok _ =>
      simp only [bind_assoc]
      refine bind_congr fun r => ?_
      cases r with
      | error fault => rfl
      | ok _ =>
          simp only [pure_bind, attend]
          refine react_bind_congr ?_ ?_ _
          · exact fun _ => rfl
          · intro l' hl'
            rw [← hl']
            exact work_eq_attend deliver fuel l'

end Link

/-! ## The grammar -/

/-- How a device is called until it answers, with so many further attempts. -/
inductive Dialled (device : Handle) (further : Nat) : Bool → List Deed → Prop
  | made (failures : Nat) : failures ≤ further →
      Dialled device further true
        (List.replicate failures (.connect device false) ++ [.connect device true])
  | failed : Dialled device further false (List.replicate (further + 1) (.connect device false))

/-- How it is made sure that a device is connected. -/
inductive Approach (device : Handle) : Bool → List Deed → Prop
  | stands : Approach device true [.check device true]
  | dialled {ok : Bool} {deeds : List Deed} : Dialled device Link.retries ok deeds →
      Approach device ok (.check device false :: deeds)

/-- How something is asked of a device. -/
inductive Asked (l : Link) (bytes : Bytes) : Bool → List Deed → Prop
  | unreached {deeds : List Deed} : Approach l.device false deeds → Asked l bytes false deeds
  | written {deeds : List Deed} (ok : Bool) : Approach l.device true deeds →
      Asked l bytes ok (deeds ++ [.write l.device l.writeTo bytes ok])

/-- How a link reacts. -/
inductive Reacted (l : Link) : Link.Stimulus → Link.Progress → List Deed → Prop
  | asked {deeds : List Deed} : Asked l l.query.command.toBytes true deeds →
      Reacted l .tick (.running { l with query := l.query.next }) deeds
  | failed (fault : RadioFault) {deeds : List Deed} : Asked l l.query.command.toBytes false deeds →
      Reacted l .tick (.over (.error (.radio fault))) deeds
  | taken (chunk : Bytes) : Reacted l (.notice (.data chunk)) (.running l) [.hand chunk true]
  | refused (chunk : Bytes) :
      Reacted l (.notice (.data chunk)) (.over (.ok ())) [.hand chunk false]
  | broken (fault : RadioFault) :
      Reacted l (.notice (.failed fault)) (.over (.error (.radio fault))) []
  | ended : Reacted l (.notice .ended) (.over (.error .endOfStream)) []

/-- How a link reacts to one thing after another. -/
inductive Course : Link → Link.Progress → List Deed → Prop
  | rests (l : Link) : Course l (.running l) []
  | goesOn {l l' : Link} {s : Link.Stimulus} {p : Link.Progress} {deeds later : List Deed} :
      Reacted l s (.running l') deeds → Course l' p later →
        Course l p (.hear s :: deeds ++ later)
  | stops {l : Link} {s : Link.Stimulus} {result : Except LinkError Unit} {deeds : List Deed} :
      Reacted l s (.over result) deeds → Course l (.over result) (.hear s :: deeds)

/-- How a link is started. -/
inductive Started (l : Link) : Link.Progress → List Deed → Prop
  | unsubscribed (fault : RadioFault) :
      Started l (.over (.error (.radio fault))) [.subscribe l.device l.notifyFrom false]
  | unasked (fault : RadioFault) {deeds : List Deed} :
      Asked l Wire.Command.readDeviceName.toBytes false deeds →
        Started l (.over (.error (.radio fault))) (.subscribe l.device l.notifyFrom true :: deeds)
  | asked {deeds : List Deed} : Asked l Wire.Command.readDeviceName.toBytes true deeds →
      Started l (.running l) (.subscribe l.device l.notifyFrom true :: deeds)

/-- A whole session. -/
inductive Session (l : Link) : Link.Progress → List Deed → Prop
  | fails {result : Except LinkError Unit} {deeds : List Deed} : Started l (.over result) deeds →
      Session l (.over result) deeds
  | goesOn {l' : Link} {p : Link.Progress} {deeds later : List Deed} :
      Started l (.running l') deeds → Course l' p later → Session l p (deeds ++ later)

namespace Link

omit [Radio σ] in
/-- Logging a line is no deed. -/
theorem tells_say (level : Log.Level) (name text : String) :
    Tells (σ := σ) (say level name text) (say level name text) fun _ new => new = [] :=
  Tells.quietly _

/-- Connecting is told as so many calls at most, of which the last may succeed. -/
theorem tells_connect (l : Link) (n : Nat) :
    Tells (σ := σ) (l.connect n) (l.connect n) fun r => Dialled l.device n r.toBool := by
  have hconnect : Tells (σ := σ) (Radio.connect l.device) (Radio.connect l.device)
      fun r new => new = [.connect l.device r.toBool] := .noting _ _
  induction n with
  | zero =>
      refine hconnect.mono fun r new hnew => ?_
      subst hnew
      cases r with
      | ok _ => exact .made 0 (Nat.zero_le 0)
      | error fault => exact .failed
  | succ n ih =>
      refine hconnect.bind (S := fun r r' later => match r with
        | .ok _ => r' = .ok () ∧ later = []
        | .error _ => Dialled l.device n r'.toBool later) (fun r => ?_) ?_
      · cases r with
        | ok _ => exact .pure _ ⟨rfl, rfl⟩
        | error fault => exact (tells_say _ _ _).bind_quiet fun _ => ih
      · intro r r' new later hnew hlater
        subst hnew
        cases r with
        | ok _ =>
            obtain ⟨rfl, rfl⟩ := hlater
            exact .made 0 (Nat.zero_le _)
        | error fault =>
            generalize hok : r'.toBool = ok at hlater
            cases hlater with
            | made failures hfailures => exact .made (failures + 1) (Nat.succ_le_succ hfailures)
            | failed => exact .failed

/-- Making sure that the device is connected is told as an approach. -/
theorem tells_reconnect (l : Link) :
    Tells (σ := σ) l.reconnect l.reconnect fun r => Approach l.device r.toBool := by
  have hcheck : Tells (σ := σ) (Radio.isConnected l.device) (Radio.isConnected l.device)
      fun connected new => new = [.check l.device connected] := .noting _ _
  refine hcheck.bind (S := fun connected r later => Approach l.device r.toBool
    (.check l.device connected :: later)) (fun connected => ?_) ?_
  · cases connected with
    | true => exact .pure _ .stands
    | false => exact (l.tells_connect retries).mono fun r new hnew => .dialled hnew
  · intro connected r new later hnew hlater
    rw [hnew]
    exact hlater

/-- A request is told as an approach and a write. -/
theorem tells_request (l : Link) (command : Wire.Command) :
    Tells (σ := σ) (l.request command) (l.request command)
      fun r => Asked l command.toBytes r.toBool := by
  have hwrite : Tells (σ := σ) (Radio.write l.device l.writeTo command.toBytes)
      (Radio.write l.device l.writeTo command.toBytes)
      fun r new => new = [.write l.device l.writeTo command.toBytes r.toBool] := .noting _ _
  refine l.tells_reconnect.bind (S := fun r r' later => match r with
    | .ok _ => later = [.write l.device l.writeTo command.toBytes r'.toBool]
    | .error _ => r'.toBool = false ∧ later = []) (fun r => ?_) ?_
  · cases r with
    | ok _ => exact hwrite
    | error fault => exact .pure _ ⟨rfl, rfl⟩
  · intro r r' new later hnew hlater
    cases r with
    | ok _ =>
        rw [hlater]
        exact .written _ hnew
    | error fault =>
        obtain ⟨hok, rfl⟩ := hlater
        rw [hok, List.append_nil]
        exact .unreached hnew

/-- The start of a link is one of the grammar. -/
theorem tells_start (l : Link) : Tells (σ := σ) l.start l.start (Started l) := by
  have hsubscribe : Tells (σ := σ) (Radio.subscribe l.device l.notifyFrom)
      (Radio.subscribe l.device l.notifyFrom)
      fun r new => new = [.subscribe l.device l.notifyFrom r.toBool] := .noting _ _
  refine hsubscribe.bind (S := fun r p later =>
    Started l p (.subscribe l.device l.notifyFrom r.toBool :: later)) (fun r => ?_) ?_
  · cases r with
    | error fault => exact .pure _ (.unsubscribed fault)
    | ok _ =>
        refine (l.tells_request .readDeviceName).bind (S := fun r p later => later = [] ∧
          match r with
          | .ok _ => p = .running l
          | .error fault => p = .over (.error (.radio fault))) (fun r => ?_) ?_
        · cases r with
          | ok _ => exact .pure _ ⟨rfl, rfl⟩
          | error fault => exact .pure _ ⟨rfl, rfl⟩
        · rintro r p new later hnew ⟨rfl, hp⟩
          rw [List.append_nil]
          cases r with
          | ok _ =>
              subst hp
              exact .asked hnew
          | error fault =>
              subst hp
              exact .unasked fault hnew
  · rintro r p new later rfl hlater
    exact hlater

/-- Every reaction of a link is one of the grammar. -/
theorem tells_react {deliver : Bytes → StateM σ Bool} (l : Link) (s : Stimulus) :
    Tells (l.react deliver s) (l.react (Watched.handing deliver) s) (Reacted l s) := by
  cases s with
  | tick =>
      refine (l.tells_request l.query.command).bind
        (S := fun r p later => later = [] ∧ match r with
          | .ok _ => p = .running { l with query := l.query.next }
          | .error fault => p = .over (.error (.radio fault))) (fun r => ?_) ?_
      · cases r with
        | ok _ => exact .pure _ ⟨rfl, rfl⟩
        | error fault => exact .pure _ ⟨rfl, rfl⟩
      · rintro r p new later hnew ⟨rfl, hp⟩
        rw [List.append_nil]
        cases r with
        | ok _ =>
            subst hp
            exact .asked hnew
        | error fault =>
            subst hp
            exact .failed fault hnew
  | notice notice =>
      cases notice with
      | data chunk =>
          have hhand : Tells (deliver chunk) (Watched.handing deliver chunk)
              fun taken new => new = [.hand chunk taken] := .noting _ _
          refine hhand.bind (S := fun taken p later => later = [] ∧
            p = if taken then .running l else .over (.ok ())) (fun taken => ?_) ?_
          · cases taken with
            | true => exact .pure _ ⟨rfl, rfl⟩
            | false => exact (tells_say _ _ _).bind_quiet fun _ => .pure _ ⟨rfl, rfl⟩
          · rintro taken p new later rfl ⟨rfl, rfl⟩
            cases taken with
            | true => exact .taken chunk
            | false => exact .refused chunk
      | failed fault => exact (tells_say _ _ _).bind_quiet fun _ => .pure _ (.broken fault)
      | ended => exact .pure _ .ended

/-- What a link does with whatever comes from its sources is one of the grammar. -/
theorem tells_attend {deliver : Bytes → StateM σ Bool} (sources : List (StateM σ Stimulus))
    (l : Link) :
    Tells (l.attend deliver sources)
      (l.attend (Watched.handing deliver) (sources.map Watched.hearing)) (Course l) := by
  induction sources generalizing l with
  | nil => exact .pure _ (.rests l)
  | cons source sources ih =>
      have hhear : Tells source (Watched.hearing source) fun s new => new = [.hear s] := .noting _ _
      refine hhear.bind (S := fun s p later => Course l p (.hear s :: later)) (fun s => ?_) ?_
      · refine (l.tells_react s).bind (S := fun q p later => match q with
          | .running l' => Course l' p later
          | .over result => p = .over result ∧ later = []) (fun q => ?_) ?_
        · rcases q with l' | result
          · exact ih l'
          · exact .pure _ ⟨rfl, rfl⟩
        · intro q p new later hnew hlater
          rcases q with l' | result
          · exact .goesOn hnew hlater
          · obtain ⟨rfl, rfl⟩ := hlater
            rw [List.append_nil]
            exact .stops hnew
      · rintro s p new later rfl hlater
        exact hlater

/-- Every session is one of the grammar. -/
theorem tells_session {deliver : Bytes → StateM σ Bool} (sources : List (StateM σ Stimulus))
    (l : Link) :
    Tells (l.session deliver sources)
      (l.session (Watched.handing deliver) (sources.map Watched.hearing)) (Session l) := by
  refine l.tells_start.bind (S := fun q p later => match q with
    | .running l' => Course l' p later
    | .over result => p = .over result ∧ later = []) (fun q => ?_) ?_
  · rcases q with l' | result
    · exact l'.tells_attend sources
    · exact .pure _ ⟨rfl, rfl⟩
  · intro q p new later hnew hlater
    rcases q with l' | result
    · exact .goesOn hnew hlater
    · obtain ⟨rfl, rfl⟩ := hlater
      rw [List.append_nil]
      exact .fails hnew

end Link

end SensorGateway.Bluetooth
