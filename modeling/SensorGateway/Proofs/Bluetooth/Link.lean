import SensorGateway.Bluetooth.Link
import SensorGateway.Proofs.Bluetooth.Recorded

/-!
# The calls of a link

A link is established by one call to connect and three searches, and the first of these that does not
succeed is the last call (`Link.does_establish`).  A link at work connects, subscribes and writes to
its device, and never gives the connection up.
-/

namespace SensorGateway.Bluetooth.Link

open Station

variable {ρ σ α β : Type}

/-! ## Establishing a link -/

/-- The calls with which a link to a device is established. -/
def opening (device : Handle) : List RadioCall :=
  [.connect device true, .look device true, .look device true, .look device true]

/-- The calls by which it has been tried to establish a link, and what has come of it. -/
inductive Opened : Except LinkError Link → List RadioCall → Prop
  /-- No device has been found. -/
  | unfound (e : LinkError) : Opened (.error e) []
  /-- The device cannot be connected to. -/
  | refused (e : LinkError) (device : Handle) : Opened (.error e) [.connect device false]
  /-- The device is connected, and something that has to be there is not. -/
  | lacking (e : LinkError) (device : Handle) (count : Nat) :
      Opened (.error e)
        (.connect device true :: List.replicate count (.look device true) ++ [.look device false])
  | linked (l : Link) : Opened (.ok l) (opening l.device)

/-- What has come of so many searches at a connected device. -/
inductive Searched (device : Handle) (count : Nat) : Except LinkError Link → List RadioCall → Prop
  | lacking (e : LinkError) (found : Nat) :
      Searched device count (.error e)
        (List.replicate found (.look device true) ++ [.look device false])
  | linked {l : Link} (h : l.device = device) :
      Searched device count (.ok l) (List.replicate count (.look device true))

/-- A search that succeeds comes before all that follows it. -/
theorem Searched.found {device : Handle} {count : Nat} {r : Except LinkError Link}
    {calls : List RadioCall} (h : Searched device count r calls) :
    Searched device (count + 1) r (.look device true :: calls) := by
  cases h with
  | lacking e found => exact .lacking e (found + 1)
  | linked h => exact .linked h

section Establishing

variable {act : Establishing (Station ρ σ) α} {recorded : Establishing (Station (Recorded ρ) σ) α}
  {f : α → Establishing (Station ρ σ) β} {g : α → Establishing (Station (Recorded ρ) σ) β}
  {R : Except LinkError α → List RadioCall → Prop}
  {S : α → Except LinkError β → List RadioCall → Prop}
  {T : Except LinkError β → List RadioCall → Prop}

/-- What follows a thing that may fail: the next one, or nothing and the same error. -/
def Onward (S : α → Except LinkError β → List RadioCall → Prop) :
    Except LinkError α → Except LinkError β → List RadioCall → Prop
  | .ok a, r, calls => S a r calls
  | .error e, r, calls => r = .error e ∧ calls = []

/-- One thing after another, the second only if the first succeeds. -/
theorem does_bind (h : Does act.run recorded.run R) (hnext : ∀ a, Does (f a).run (g a).run (S a))
    (herror : ∀ e added, R (.error e) added → T (.error e) added)
    (hok : ∀ a b added later, R (.ok a) added → S a b later → T b (added ++ later)) :
    Does (act >>= f).run (recorded >>= g).run T := by
  rw [ExceptT.run_bind, ExceptT.run_bind]
  refine Does.bind (S := Onward S) h (fun r => ?_) fun r b added later hadded hlater => ?_
  · cases r with
    | ok a => exact hnext a
    | error e => exact .pure _ ⟨rfl, rfl⟩
  · cases r with
    | ok a => exact hok a b added later hadded hlater
    | error e =>
        obtain ⟨rfl, rfl⟩ := hlater
        rw [List.append_nil]
        exact herror e added hadded

/-- To try an operation of the radio for a link makes the calls of the operation. -/
theorem does_tried {act : Tried (Station ρ σ) α} {recorded : Tried (Station (Recorded ρ) σ) α}
    {R : Except RadioFault α → List RadioCall → Prop} (h : Does act recorded R) :
    Does (tried act).run (tried recorded).run
      fun r added => ∃ outcome, r = outcome.mapError .radio ∧ R outcome added :=
  Does.bind (S := fun outcome r later => r = outcome.mapError .radio ∧ later = []) h
    (fun _ => .pure _ ⟨rfl, rfl⟩) fun outcome r added later hadded hlater => by
      rw [hlater.2, List.append_nil]
      exact ⟨outcome, hlater.1, hadded⟩

/-- To try an operation that makes no calls makes none. -/
theorem quiet_tried {act : Tried (Station ρ σ) α} {recorded : Tried (Station (Recorded ρ) σ) α}
    (h : Quiet act recorded) : Quiet (tried act).run (tried recorded).run :=
  (does_tried h).mono fun _ _ hadded => by
    obtain ⟨_, -, hquiet⟩ := hadded
    exact hquiet

/-- What comes after something quiet is all that is added, if anything comes. -/
theorem does_bind_quiet (h : Quiet act.run recorded.run)
    (hnext : ∀ a, Does (f a).run (g a).run T) (herror : ∀ e, T (.error e) []) :
    Does (act >>= f).run (recorded >>= g).run T := by
  refine does_bind h hnext (fun e added hadded => ?_) fun a r added later hadded hlater => ?_
  · rw [hadded]
    exact herror e
  · rw [hadded]
    exact hlater

/-- Operations that make no calls make none when they follow each other. -/
theorem quiet_bind (h : Quiet act.run recorded.run) (hnext : ∀ a, Quiet (f a).run (g a).run) :
    Quiet (act >>= f).run (recorded >>= g).run :=
  does_bind_quiet h hnext fun _ => rfl

/-- A search that has to find something. -/
theorem does_first {missing : LinkError} {device : Handle} (search : Tried ρ (List Nat)) :
    Does (σ := σ)
      (tried (within radio (fun s radio => { s with radio }) search) >>= first missing).run
      (tried (within radio (fun s radio => { s with radio })
        (Recorded.noting (fun found => .look device (finds found)) search)) >>= first missing).run
      fun r added => added = [.look device r.toBool] := by
  have hlook := does_tried (σ := σ)
    (does_noting (fun found => RadioCall.look device (finds found)) search)
  refine does_bind (S := fun places r later => later = [] ∧ r.toBool = finds (.ok places)) hlook
    (fun places => ?_) (fun e added hadded => ?_) fun places r added later hadded hlater => ?_
  · cases places with
    | nil => exact .pure _ ⟨rfl, rfl⟩
    | cons place places => exact .pure _ ⟨rfl, rfl⟩
  · obtain ⟨outcome, houtcome, hadded⟩ := hadded
    cases outcome with
    | error fault => exact hadded
    | ok places => cases houtcome
  · obtain ⟨outcome, houtcome, hadded⟩ := hadded
    cases outcome with
    | error fault => cases houtcome
    | ok places' =>
        cases houtcome
        rw [hlater.1, hlater.2, hadded, List.append_nil]

/-- A search, and what is done with what it has found. -/
theorem does_find {missing : LinkError} {device : Handle} {count : Nat} (search : Tried ρ (List Nat))
    {f : Nat → Establishing (Station ρ σ) Link}
    {g : Nat → Establishing (Station (Recorded ρ) σ) Link}
    (hnext : ∀ place, Does (f place).run (g place).run (Searched device count)) :
    Does
      (tried (within radio (fun s radio => { s with radio }) search) >>= first missing >>= f).run
      (tried (within radio (fun s radio => { s with radio })
        (Recorded.noting (fun found => .look device (finds found)) search)) >>= first missing
          >>= g).run
      (Searched device (count + 1)) := by
  refine does_bind (does_first search) hnext (fun e added hadded => ?_)
    fun place r added later hadded hlater => ?_
  · rw [hadded]
    exact .lacking e 0
  · rw [hadded]
    exact hlater.found

end Establishing

variable [Radio ρ]

/-- Looking through what has been sighted makes no calls that are recorded. -/
theorem quiet_search (name : String) (sightings : List Sighting) :
    Quiet (ρ := ρ) (σ := σ) (search name sightings).run (search name sightings).run := by
  induction sightings with
  | nil => exact .pure _ rfl
  | cons s rest ih =>
      have hname : Quiet (ρ := ρ) (σ := σ) (Radio.name s.device) (Radio.name s.device) :=
        quiet_within _
      refine quiet_bind (quiet_tried hname) fun found => ?_
      split
      · exact .pure _ rfl
      · exact ih

/-- Neither does the search for a device of a name. -/
theorem quiet_discover (name : String) :
    Quiet (ρ := ρ) (σ := σ) (discover name).run (discover name).run := by
  have hscan : Quiet (ρ := ρ) (σ := σ) (Radio.scan [uartService]) (Radio.scan [uartService]) :=
    quiet_within _
  refine quiet_bind (quiet_tried hscan) fun scan => ?_
  refine quiet_bind (quiet_search name scan.sightings) fun found => ?_
  cases found with
  | some device => exact .pure _ rfl
  | none => exact .pure _ rfl

/-- How a link is established, step by step. -/
theorem establish_eq [Journal σ] [Radio σ] (name : String) :
    (establish name : Establishing σ Link) = do
      tried Radio.ready
      let device ← discover name
      tried (Radio.connect device)
      let service ← tried (Radio.services device uartService) >>= first (.noService name)
      let writeTo ← tried (Radio.characteristics device service uartWrite)
        >>= first (.noWriteCharacteristic name)
      let notifyFrom ← tried (Radio.characteristics device service uartNotify)
        >>= first (.noNotifyCharacteristic name)
      ExceptT.lift (say .info name "connected")
      return { device, name, writeTo, notifyFrom } := by
  simp only [establish, bind_assoc]

/-- The first thing that does not succeed while a link is established is the last that is done. -/
theorem does_establish (name : String) :
    Does (ρ := ρ) (σ := σ) (establish name).run (establish name).run Opened := by
  have hready : Quiet (ρ := ρ) (σ := σ) Radio.ready Radio.ready := quiet_within _
  rw [establish_eq, establish_eq]
  refine does_bind_quiet (quiet_tried hready) (fun _ => ?_) .unfound
  refine does_bind_quiet (quiet_discover name) (fun device => ?_) .unfound
  have hconnect : Does (ρ := ρ) (σ := σ) (Radio.connect device) (Radio.connect device)
      fun r added => added = [.connect device r.toBool] := does_noting _ _
  refine does_bind (does_tried hconnect) (S := fun _ => Searched device 3) (fun _ => ?_)
    (fun e added hadded => ?_) fun _ r added later hadded hlater => ?_
  · refine does_find _ fun service => does_find _ fun writeTo => does_find _ fun notifyFrom => ?_
    rw [ExceptT.run_bind_lift, ExceptT.run_bind_lift]
    exact (quiet_log _).bind_quiet fun _ => .pure _ (.linked rfl)
  · obtain ⟨outcome, houtcome, rfl⟩ := hadded
    cases outcome with
    | ok _ => cases houtcome
    | error fault => exact .refused e device
  · obtain ⟨outcome, houtcome, rfl⟩ := hadded
    cases outcome with
    | error fault => cases houtcome
    | ok _ =>
        cases hlater with
        | lacking e found => exact .lacking e device found
        | linked h =>
            subst h
            exact .linked _

/-! ## A link at work -/

/-- All calls are those of a link to a device at work. -/
def Working (device : Handle) (calls : List RadioCall) : Prop := ∀ c ∈ calls, c.IsWork device

/-- To make no calls is to do nothing but work. -/
theorem working_nil (device : Handle) : Working device [] := List.forall_mem_nil _

omit [Radio ρ] in
/-- An operation of the radio that is recorded as work is work. -/
theorem working_noting {device : Handle} (call : α → RadioCall) (h : ∀ a, (call a).IsWork device)
    (act : StateM ρ α) :
    Does (σ := σ) (within radio (fun s radio => { s with radio }) act)
      (within radio (fun s radio => { s with radio }) (Recorded.noting call act))
      fun _ => Working device :=
  (does_noting call act).mono fun a added hadded => by
    rw [hadded]
    exact List.forall_mem_singleton.mpr (h a)

/-- Connecting is work. -/
theorem working_connect (l : Link) (n : Nat) :
    Does (ρ := ρ) (σ := σ) (l.connect n) (l.connect n) fun _ => Working l.device := by
  have hconnect : Does (ρ := ρ) (σ := σ) (Radio.connect l.device) (Radio.connect l.device)
      fun _ => Working l.device :=
    working_noting (fun r : Except RadioFault Unit => .connect l.device r.toBool) (fun _ => rfl) _
  induction n with
  | zero => exact hconnect
  | succ n ih =>
      refine hconnect.bind_all fun r => ?_
      cases r with
      | ok _ => exact .pure _ (working_nil _)
      | error fault => exact (quiet_log _).bind_quiet fun _ => ih

/-- Making sure that the device is connected is work. -/
theorem working_reconnect (l : Link) :
    Does (ρ := ρ) (σ := σ) l.reconnect l.reconnect fun _ => Working l.device := by
  have hcheck : Does (ρ := ρ) (σ := σ) (Radio.isConnected l.device) (Radio.isConnected l.device)
      fun _ => Working l.device := working_noting (.check l.device) (fun _ => rfl) _
  refine hcheck.bind_all fun connected => ?_
  cases connected with
  | true => exact .pure _ (working_nil _)
  | false => exact l.working_connect retries

/-- A request is work. -/
theorem working_request (l : Link) (command : Wire.Command) :
    Does (ρ := ρ) (σ := σ) (l.request command) (l.request command) fun _ => Working l.device := by
  refine l.working_reconnect.bind_all fun r => ?_
  cases r with
  | error fault => exact .pure _ (working_nil _)
  | ok _ =>
      exact working_noting
        (fun r : Except RadioFault Unit => .write l.device command.toBytes r.toBool)
        (fun _ => rfl) _

/-- A link to a device has worked, and if it goes on it is still to this device. -/
structure Goes (device : Handle) (p : Progress) (calls : List RadioCall) : Prop where
  working : Working device calls
  device : ∀ l, p = .running l → l.device = device

/-- A link that is over has made no further calls. -/
theorem goes_over (device : Handle) (result : Except LinkError Unit) :
    Goes device (.over result) [] :=
  ⟨working_nil _, fun _ h => Progress.noConfusion h⟩

/-- A link that is running is one to the same device. -/
theorem goes_running {l : Link} {device : Handle} (h : l.device = device) :
    Goes device (.running l) [] := by
  refine ⟨working_nil _, fun l' hl' => ?_⟩
  cases hl'
  exact h

section Going

variable {act : StateM (Station ρ σ) α} {recorded : StateM (Station (Recorded ρ) σ) α}
  {f : α → StateM (Station ρ σ) Progress} {g : α → StateM (Station (Recorded ρ) σ) Progress}

omit [Radio ρ] in
/-- After some work, a link goes as it goes on. -/
theorem goes_bind {device : Handle} (h : Does act recorded fun _ => Working device)
    (hnext : ∀ a, Does (f a) (g a) (Goes device)) :
    Does (act >>= f) (recorded >>= g) (Goes device) :=
  h.bind hnext fun _ _ _ _ hadded hlater =>
    ⟨List.forall_mem_append.mpr ⟨hadded, hlater.working⟩, hlater.device⟩

end Going

/-- Starting a link is work, or the link is over. -/
theorem goes_start (l : Link) : Does (ρ := ρ) (σ := σ) l.start l.start (Goes l.device) := by
  have hsubscribe : Does (ρ := ρ) (σ := σ) (Radio.subscribe l.device l.notifyFrom)
      (Radio.subscribe l.device l.notifyFrom) fun _ => Working l.device :=
    working_noting (fun r : Except RadioFault Unit => .subscribe l.device r.toBool) (fun _ => rfl) _
  refine goes_bind hsubscribe fun r => ?_
  cases r with
  | error fault => exact .pure _ (goes_over _ _)
  | ok _ =>
      refine goes_bind (l.working_request _) fun r => ?_
      cases r with
      | error fault => exact .pure _ (goes_over _ _)
      | ok _ => exact .pure _ (goes_running rfl)

/-- So is every reaction, if handing over a chunk makes no calls. -/
theorem goes_react {deliver : Bytes → StateM (Station ρ σ) Bool}
    {deliver' : Bytes → StateM (Station (Recorded ρ) σ) Bool}
    (hdeliver : ∀ chunk, Quiet (deliver chunk) (deliver' chunk)) (l : Link) (s : Stimulus) :
    Does (l.react deliver s) (l.react deliver' s) (Goes l.device) := by
  cases s with
  | tick =>
      refine goes_bind (l.working_request _) fun r => ?_
      cases r with
      | error fault => exact .pure _ (goes_over _ _)
      | ok _ => exact .pure _ (goes_running rfl)
  | notice notice =>
      cases notice with
      | data chunk =>
          refine (hdeliver chunk).bind_quiet fun taken => ?_
          cases taken with
          | true => exact .pure _ (goes_running rfl)
          | false => exact (quiet_log _).bind_quiet fun _ => .pure _ (goes_over _ _)
      | failed fault => exact (quiet_log _).bind_quiet fun _ => .pure _ (goes_over _ _)
      | ended => exact .pure _ (goes_over _ _)

/-- Giving the connection up is one call. -/
theorem does_stop (l : Link) :
    Does (ρ := ρ) (σ := σ) l.stop l.stop
      fun r added => added = [.disconnect l.device r.toBool] := by
  have hdisconnect : Does (ρ := ρ) (σ := σ) (Radio.disconnect l.device) (Radio.disconnect l.device)
      fun r added => added = [.disconnect l.device r.toBool] := does_noting _ _
  refine hdisconnect.bind (S := fun outcome r later => r.toBool = outcome.toBool ∧ later = [])
    (fun outcome => .pure _ ⟨?_, rfl⟩) fun outcome r added later hadded hlater => ?_
  · cases outcome <;> rfl
  · rw [hadded, hlater.1, hlater.2, List.append_nil]

end SensorGateway.Bluetooth.Link
