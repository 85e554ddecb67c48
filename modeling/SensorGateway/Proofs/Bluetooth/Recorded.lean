import SensorGateway.Daemon.Station
import SensorGateway.Proofs.Gateway.Aligned
import SensorGateway.Proofs.Gateway.Resting

/-!
# A radio that keeps a record

What a device has been asked for is gone with the answer.  A *recorded* radio does what the radio in
it does, and writes down every call to a device and how it ended.  A station with a recorded radio
does what it would do without the record (`Station.Does`), so whatever is shown of the record is
shown of the calls that the station makes.
-/

namespace SensorGateway

namespace Bluetooth

/-- A call to a device and how it ended. -/
inductive RadioCall
  | connect (device : Handle) (succeeded : Bool)
  | disconnect (device : Handle) (succeeded : Bool)
  | check (device : Handle) (connected : Bool)
  /-- A service or a characteristic was looked for; a search that fails finds nothing. -/
  | look (device : Handle) (found : Bool)
  | subscribe (device : Handle) (succeeded : Bool)
  | write (device : Handle) (bytes : Bytes) (succeeded : Bool)
  deriving DecidableEq, Repr

/-- A call that a link makes to its device while it works. -/
def RadioCall.IsWork (device : Handle) : RadioCall → Prop
  | connect d _ | check d _ | subscribe d _ | write d _ _ => d = device
  | disconnect _ _ | look _ _ => False

/-- Whether a search has found something. -/
def finds : Except RadioFault (List Nat) → Bool
  | .ok (_ :: _) => true
  | .ok [] | .error _ => false

/-- A radio with a record of the calls to its devices. -/
structure Recorded (ρ : Type) where
  radio : ρ
  calls : List RadioCall := []

namespace Recorded

variable {ρ α : Type}

/-- Lets the radio do something that is not written down. -/
def quietly (act : StateM ρ α) : StateM (Recorded ρ) α :=
  within radio (fun r radio => { r with radio }) act

/-- Lets the radio do something and writes it down. -/
def noting (call : α → RadioCall) (act : StateM ρ α) : StateM (Recorded ρ) α := fun r =>
  let (a, radio) := act.run r.radio
  (a, { radio, calls := r.calls ++ [call a] })

instance [Radio ρ] : Radio (Recorded ρ) where
  ready := quietly Radio.ready
  scan services := quietly (Radio.scan services)
  name device := quietly (Radio.name device)
  connect device := noting (.connect device ·.toBool) (Radio.connect device)
  disconnect device := noting (.disconnect device ·.toBool) (Radio.disconnect device)
  isConnected device := noting (.check device) (Radio.isConnected device)
  services device id := noting (fun found => .look device (finds found)) (Radio.services device id)
  characteristics device service id :=
    noting (fun found => .look device (finds found)) (Radio.characteristics device service id)
  subscribe device characteristic :=
    noting (.subscribe device ·.toBool) (Radio.subscribe device characteristic)
  write device characteristic bytes :=
    noting (.write device bytes ·.toBool) (Radio.write device characteristic bytes)
  notice device := quietly (Radio.notice device)

end Recorded

end Bluetooth

open Bluetooth

namespace Station

variable {ρ σ α β : Type}

/-- Of two operations the second goes on where the first has left the station. -/
theorem run_bind (act : StateM (Station ρ σ) α) (f : α → StateM (Station ρ σ) β)
    (st : Station ρ σ) : (act >>= f).run st = (f (act.run st).1).run (act.run st).2 := rfl

/-- The station without the record. -/
def plain (st : Station (Recorded ρ) σ) : Station ρ σ where
  radio := st.radio.radio
  gateway := st.gateway
  sink := st.sink
  time := st.time
  logs := st.logs

/-- What a station does, given without and with a record: the same, an aligned gateway stays aligned,
and what is added to the record is related to the answer. -/
structure Does (act : StateM (Station ρ σ) α) (recorded : StateM (Station (Recorded ρ) σ) α)
    (R : α → List RadioCall → Prop) : Prop where
  same : ∀ st, act.run st.plain = ((recorded.run st).1, (recorded.run st).2.plain)
  aligned : ∀ st, st.gateway.Aligned → (recorded.run st).2.gateway.Aligned
  calls : ∀ st, ∃ added, (recorded.run st).2.radio.calls = st.radio.calls ++ added ∧
    R (recorded.run st).1 added

/-- Nothing is written down. -/
abbrev Quiet (act : StateM (Station ρ σ) α) (recorded : StateM (Station (Recorded ρ) σ) α) : Prop :=
  Does act recorded fun _ added => added = []

namespace Does

variable {act : StateM (Station ρ σ) α} {recorded : StateM (Station (Recorded ρ) σ) α}
  {f : α → StateM (Station ρ σ) β} {g : α → StateM (Station (Recorded ρ) σ) β}
  {R R' : α → List RadioCall → Prop} {S : α → β → List RadioCall → Prop} {P : RadioCall → Prop}

/-- What is said of the calls can be said more weakly. -/
theorem mono (h : Does act recorded R) (himp : ∀ a added, R a added → R' a added) :
    Does act recorded R' where
  same := h.same
  aligned := h.aligned
  calls st := by
    obtain ⟨added, hadded, hR⟩ := h.calls st
    exact ⟨added, hadded, himp _ _ hR⟩

/-- An operation that only answers makes no calls. -/
theorem pure (a : α) (h : R a []) :
    Does (Pure.pure a : StateM (Station ρ σ) α) (Pure.pure a) R where
  same _ := rfl
  aligned _ haligned := haligned
  calls _ := ⟨[], (List.append_nil _).symm, h⟩

/-- One thing after another: what is added is added in this order. -/
theorem bind {T : β → List RadioCall → Prop} (h : Does act recorded R)
    (hnext : ∀ a, Does (f a) (g a) (S a))
    (himp : ∀ a b added later, R a added → S a b later → T b (added ++ later)) :
    Does (act >>= f) (recorded >>= g) T where
  same st := by
    rw [run_bind, h.same st]
    exact (hnext _).same _
  aligned st haligned := (hnext _).aligned _ (h.aligned st haligned)
  calls st := by
    obtain ⟨added, hadded, hR⟩ := h.calls st
    obtain ⟨later, hlater, hS⟩ := (hnext (recorded.run st).1).calls (recorded.run st).2
    refine ⟨added ++ later, ?_, himp _ _ added later hR hS⟩
    rw [← List.append_assoc, ← hadded]
    exact hlater

/-- What comes after something quiet is all that is added. -/
theorem bind_quiet {T : β → List RadioCall → Prop} (h : Quiet act recorded)
    (hnext : ∀ a, Does (f a) (g a) T) : Does (act >>= f) (recorded >>= g) T :=
  h.bind hnext fun a b added later hadded hlater => by
    rw [hadded, List.nil_append]
    exact hlater

/-- All that is added by one thing and by the other is of a kind. -/
theorem bind_all (h : Does act recorded fun _ added => ∀ c ∈ added, P c)
    (hnext : ∀ a, Does (f a) (g a) fun _ added => ∀ c ∈ added, P c) :
    Does (act >>= f) (recorded >>= g) fun _ added => ∀ c ∈ added, P c :=
  h.bind hnext fun _ _ _ _ hadded hlater => List.forall_mem_append.mpr ⟨hadded, hlater⟩

end Does

/-! ## The operations of a station -/

/-- An operation of the radio that is not recorded adds no calls. -/
theorem quiet_within (act : StateM ρ α) :
    Quiet (σ := σ) (within radio (fun s radio => { s with radio }) act)
      (within radio (fun s radio => { s with radio }) (Recorded.quietly act)) where
  same _ := rfl
  aligned _ haligned := haligned
  calls _ := ⟨[], (List.append_nil _).symm, rfl⟩

/-- One that is recorded adds its call. -/
theorem does_noting (call : α → RadioCall) (act : StateM ρ α) :
    Does (σ := σ) (within radio (fun s radio => { s with radio }) act)
      (within radio (fun s radio => { s with radio }) (Recorded.noting call act))
      fun a added => added = [call a] where
  same _ := rfl
  aligned _ haligned := haligned
  calls _ := ⟨_, rfl, rfl⟩

/-- Writing to the log makes no calls. -/
theorem quiet_log (entries : List Log.Entry) :
    Quiet (ρ := ρ) (σ := σ) (log entries) (log entries) where
  same _ := rfl
  aligned _ haligned := haligned
  calls _ := ⟨[], (List.append_nil _).symm, rfl⟩

/-- An operation of the gateway makes no calls. -/
theorem quiet_onGateway {op : Gateway → Outcome α}
    (h : ∀ g : Gateway, g.Aligned → (op g).gateway.Aligned) :
    Quiet (ρ := ρ) (σ := σ) (onGateway op) (onGateway op) where
  same _ := rfl
  aligned st haligned := h st.gateway haligned
  calls _ := ⟨[], (List.append_nil _).symm, rfl⟩

/-- Handing a chunk to a session makes no calls. -/
theorem quiet_deliver [TopicSink σ] (task : Nat) (chunk : Bytes) :
    Quiet (ρ := ρ) (σ := σ) (deliver task chunk) (deliver task chunk) where
  same _ := rfl
  aligned st haligned := haligned.of_agrees (st.gateway.agrees_send st.sink task chunk st.time)
  calls _ := ⟨[], (List.append_nil _).symm, rfl⟩

end Station

end SensorGateway
