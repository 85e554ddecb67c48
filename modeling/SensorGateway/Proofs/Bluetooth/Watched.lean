import SensorGateway.Bluetooth.Link

/-!
# A link that is watched

A *watched* state does what the state in it does, and writes down what happens on a link: the calls
to the radio, what the link is given to react to, and the chunks that it hands over.  `Tells` says
of an operation that it does the same with a watcher as without one, and what it adds to the deeds.
-/

namespace SensorGateway.Bluetooth

/-- Something that happens on a link. -/
inductive Deed
  /-- The radio is asked whether a device is connected. -/
  | check (device : Handle) (connected : Bool)
  | connect (device : Handle) (succeeded : Bool)
  | subscribe (device : Handle) (characteristic : Nat) (succeeded : Bool)
  | write (device : Handle) (characteristic : Nat) (bytes : Bytes) (succeeded : Bool)
  /-- Any other call to the radio. -/
  | other
  /-- The link is given something to react to. -/
  | hear (s : Link.Stimulus)
  /-- A chunk is handed over, and taken or not. -/
  | hand (chunk : Bytes) (taken : Bool)
  deriving DecidableEq

/-- A state and what has happened in it. -/
structure Watched (σ : Type) where
  state : σ
  deeds : List Deed := []

namespace Watched

variable {σ α : Type}

/-- Does something that is not written down. -/
def quietly (act : StateM σ α) : StateM (Watched σ) α :=
  within state (fun w state => { w with state }) act

/-- Does something and writes it down. -/
def noting (deed : α → Deed) (act : StateM σ α) : StateM (Watched σ) α := fun w =>
  let (a, state) := act.run w.state
  (a, { state, deeds := w.deeds ++ [deed a] })

instance [Radio σ] : Radio (Watched σ) where
  ready := noting (fun _ => .other) Radio.ready
  scan services := noting (fun _ => .other) (Radio.scan services)
  name device := noting (fun _ => .other) (Radio.name device)
  connect device := noting (.connect device ·.toBool) (Radio.connect device)
  disconnect device := noting (fun _ => .other) (Radio.disconnect device)
  isConnected device := noting (.check device) (Radio.isConnected device)
  services device id := noting (fun _ => .other) (Radio.services device id)
  characteristics device service id :=
    noting (fun _ => .other) (Radio.characteristics device service id)
  subscribe device characteristic :=
    noting (.subscribe device characteristic ·.toBool) (Radio.subscribe device characteristic)
  write device characteristic bytes :=
    noting (.write device characteristic bytes ·.toBool) (Radio.write device characteristic bytes)
  notice device := noting (fun _ => .other) (Radio.notice device)

instance [Journal σ] : Journal (Watched σ) where
  note entry := quietly (Journal.note entry)

/-- Handing chunks over under a watcher. -/
def handing (deliver : Bytes → StateM σ Bool) (chunk : Bytes) : StateM (Watched σ) Bool :=
  noting (.hand chunk) (deliver chunk)

/-- Waiting for something to react to under a watcher. -/
def hearing (source : StateM σ Link.Stimulus) : StateM (Watched σ) Link.Stimulus :=
  noting .hear source

end Watched

variable {σ α β : Type}

/-- An operation does the same with a watcher, and the deeds that it adds are related to its
answer. -/
structure Tells (act : StateM σ α) (watched : StateM (Watched σ) α) (R : α → List Deed → Prop) :
    Prop where
  same : ∀ w, act.run w.state = ((watched.run w).1, (watched.run w).2.state)
  deeds : ∀ w, ∃ new, (watched.run w).2.deeds = w.deeds ++ new ∧ R (watched.run w).1 new

namespace Tells

variable {act : StateM σ α} {watched : StateM (Watched σ) α} {f : α → StateM σ β}
  {g : α → StateM (Watched σ) β} {R R' : α → List Deed → Prop} {S : α → β → List Deed → Prop}

/-- What is told of the deeds can be told more weakly. -/
theorem mono (h : Tells act watched R) (himp : ∀ a new, R a new → R' a new) :
    Tells act watched R' where
  same := h.same
  deeds w := by
    obtain ⟨new, hnew, hR⟩ := h.deeds w
    exact ⟨new, hnew, himp _ _ hR⟩

/-- An operation that only answers adds no deeds. -/
theorem pure (a : α) (h : R a []) : Tells (Pure.pure a : StateM σ α) (Pure.pure a) R where
  same _ := rfl
  deeds _ := ⟨[], (List.append_nil _).symm, h⟩

/-- An operation that is watched adds its deed. -/
theorem noting (deed : α → Deed) (act : StateM σ α) :
    Tells act (Watched.noting deed act) fun a new => new = [deed a] where
  same _ := rfl
  deeds _ := ⟨_, rfl, rfl⟩

/-- One that is not watched adds none. -/
theorem quietly (act : StateM σ α) : Tells act (Watched.quietly act) fun _ new => new = [] where
  same _ := rfl
  deeds _ := ⟨[], (List.append_nil _).symm, rfl⟩

/-- One thing after another: what is added is added in this order. -/
theorem bind {T : β → List Deed → Prop} (h : Tells act watched R)
    (hnext : ∀ a, Tells (f a) (g a) (S a))
    (himp : ∀ a b new later, R a new → S a b later → T b (new ++ later)) :
    Tells (act >>= f) (watched >>= g) T where
  same w := by
    have hrun : (act >>= f).run w.state = (f (act.run w.state).1).run (act.run w.state).2 := rfl
    rw [hrun, h.same w]
    exact (hnext _).same _
  deeds w := by
    obtain ⟨new, hnew, hR⟩ := h.deeds w
    obtain ⟨later, hlater, hS⟩ := (hnext (watched.run w).1).deeds (watched.run w).2
    refine ⟨new ++ later, ?_, himp _ _ new later hR hS⟩
    rw [← List.append_assoc, ← hnew]
    exact hlater

/-- What comes after something that adds nothing is all that is added. -/
theorem bind_quiet {T : β → List Deed → Prop} (h : Tells act watched fun _ new => new = [])
    (hnext : ∀ a, Tells (f a) (g a) T) : Tells (act >>= f) (watched >>= g) T :=
  h.bind hnext fun a b new later hnew hlater => by
    rw [hnew, List.nil_append]
    exact hlater

end Tells

end SensorGateway.Bluetooth
