import SensorGateway.Proofs.Gateway.Aligned

/-!
# What a call relies on while it is under way

Between two calls a gateway is aligned.  In the middle of one it is not, but it is *orderly* at all
times: a device has one live task at most, a listed task is live, and a live task of a device with
topics finds it bound.

An access keeps this because of what the call has done before: a task is silenced once it is off the
list, a device is forgotten once its task is silenced, and a task is started where there is none
(`Access.Ready`).  A call that begins with an aligned gateway is ready for each of its accesses when
it comes to it (`proceeds_accesses`), whatever other moves come in between.
-/

namespace SensorGateway

/-- What can be said of the devices at any time. -/
structure Gateway.Orderly (g : Gateway) : Prop where
  alone : ∀ {n m id}, g.LiveFor n id → g.LiveFor m id → n = m
  listed : ∀ {id n}, g.deviceTask? id = some n → g.LiveFor n id
  bound : ∀ {id n device}, g.LiveFor n id → g.config.device? id = some device →
    device.topics ≠ [] → (g.publisher.bindings.find? id).isSome = true

/-- What an access relies on, with what the call will do after it. -/
def Access.Ready (g : Gateway) (rest : List Access) : Access → Prop
  | silence n =>
      (∀ id, g.deviceTask? id ≠ some n) ∧ ∀ id, g.LiveFor n id → .detach id ∈ rest
  | detach id => ∀ n, ¬ g.LiveFor n id
  | start id device _ =>
      rest = [] ∧ g.config.device? id = some device ∧ (∀ n, ¬ g.LiveFor n id) ∧
        (device.topics ≠ [] → (g.publisher.bindings.find? id).isSome = true)
  | enlist id n => g.LiveFor n id
  | unlist _ | unlistAll | abort _ | bind _ _ | find _ _ | findTank _ _ | send _ _ | offer _ _ => True

/-- Made one after another, the accesses find what they rely on. -/
inductive Proceeds : Gateway → List Access → Prop
  | done (g : Gateway) : Proceeds g []
  | access {g : Gateway} {x : Access} {rest : List Access} : x.Ready g rest →
      Proceeds (x.change g) (x.next g ++ rest) → Proceeds g (x :: rest)

variable {g h : Gateway} {id : String} {n : Nat} {device : DeviceConfig} {rest : List Access}

/-! ## Gateways that agree -/

/-- A gateway is orderly if it agrees with one that is. -/
theorem Gateway.Orderly.of_agrees (s : g.Orderly) (a : g.Agrees h) : h.Orderly where
  alone hn hm := s.alone (a.liveFor_iff.mp hn) (a.liveFor_iff.mp hm)
  listed {id n} hn := by
    rw [a.deviceTask?] at hn
    exact a.liveFor_iff.mpr (s.listed hn)
  bound {id n device} hn hdevice htopics := by
    rw [a.bindings]
    rw [a.config] at hdevice
    exact s.bound (a.liveFor_iff.mp hn) hdevice htopics

/-- An access that is ready in a gateway is so in all that agree with it. -/
theorem Access.Ready.of_agrees {x : Access} (hx : x.Ready g rest) (a : g.Agrees h) :
    x.Ready h rest := by
  cases x with
  | silence n =>
      refine ⟨fun id => ?_, fun id hlive => hx.2 id (a.liveFor_iff.mp hlive)⟩
      rw [a.deviceTask?]
      exact hx.1 id
  | detach id => exact fun n hlive => hx n (a.liveFor_iff.mp hlive)
  | start id device =>
      obtain ⟨hrest, hdevice, hnone, hbound⟩ := hx
      refine ⟨hrest, a.config ▸ hdevice, fun n hlive => hnone n (a.liveFor_iff.mp hlive), ?_⟩
      rw [a.bindings]
      exact hbound
  | enlist id n => exact a.liveFor_iff.mpr hx
  | unlist | unlistAll | abort | bind | find | findTank | send | offer => trivial

/-- Accesses that can proceed in a gateway can proceed in all that agree with it. -/
theorem Proceeds.of_agrees {xs : List Access} (hx : Proceeds g xs) (a : g.Agrees h) :
    Proceeds h xs := by
  induction hx generalizing h with
  | done g => exact .done h
  | @access g x rest hready _ ih =>
      refine .access (hready.of_agrees a) ?_
      rw [Access.next_eq a]
      exact ih (x.agrees_change a)

/-! ## Order is kept -/

/-- In an aligned gateway everything is in order. -/
theorem Gateway.Aligned.orderly (s : g.Aligned) : g.Orderly where
  alone {n m id} hn hm := by
    have hlisted := s.listed_iff.mpr hn
    rw [s.listed_iff.mpr hm] at hlisted
    exact (Option.some.inj hlisted).symm
  listed := s.listed_iff.mp
  bound {id n device} hn hdevice htopics := by
    have hlisted := s.listed_iff.mpr hn
    have hbound := s.bound_iff.mpr
      ⟨Gateway.isConnected_iff.mpr ⟨n, hlisted⟩, htopics, device, hdevice, rfl⟩
    rw [← Option.isSome_map, hbound]
    rfl

namespace Gateway

/-- The live tasks after one has been silenced are the others. -/
theorem liveFor_silence {m : Nat} : (g.silence n).LiveFor m id ↔ n ≠ m ∧ g.LiveFor m id :=
  (agrees_abort (g.silence n) n).liveFor_iff.symm.trans liveFor_stop

/-- The live tasks after one has been started are this one and the others. -/
theorem liveFor_start {session : DeviceSession} {m : Nat} :
    (g.start session).LiveFor m id ↔
      (m = g.tasks.length ∧ session.device = id) ∨ g.LiveFor m id := by
  rw [liveFor_iff, badge?_start, liveFor_iff]
  split
  next heq => simp [heq, badge?_eq_none (Nat.le_refl _)]
  next hne => simp [hne]

/-- Binding a device leaves the live tasks alone. -/
theorem liveFor_bind {topics : List String} {other : String} :
    (g.bind id topics).LiveFor n other ↔ g.LiveFor n other := by
  rw [LiveFor, task?, tasks_bind]
  rfl

/-- A device is bound after that if it has topics, and the others are bound if they were. -/
theorem isSome_bindings_bind (g : Gateway) (id : String) (topics : List String) (other : String) :
    ((g.bind id topics).publisher.bindings.find? other).isSome
      = (decide (other = id ∧ topics ≠ []) || (g.publisher.bindings.find? other).isSome) := by
  rw [← Option.isSome_map, topics_bind]
  split <;> simp_all

namespace Orderly

/-- A task that is not on the list may be silenced. -/
theorem silence (s : g.Orderly) (hlisted : ∀ id, g.deviceTask? id ≠ some n) :
    (g.silence n).Orderly where
  alone hn hm := s.alone (liveFor_silence.mp hn).2 (liveFor_silence.mp hm).2
  listed {id m} hm := by
    refine liveFor_silence.mpr ⟨?_, s.listed hm⟩
    rintro rfl
    exact hlisted id hm
  bound hn hdevice htopics := s.bound (liveFor_silence.mp hn).2 hdevice htopics

/-- A device without a live task may be detached. -/
theorem detach (s : g.Orderly) (hnone : ∀ n, ¬ g.LiveFor n id) : (g.detach id).Orderly where
  alone := s.alone
  listed := s.listed
  bound {other n device} hn hdevice htopics := by
    have hother : other ≠ id := by
      rintro rfl
      exact hnone n hn
    rw [bindings_detach, if_neg hother]
    exact s.bound hn hdevice htopics

/-- A device may be bound at any time. -/
theorem bind (s : g.Orderly) (id : String) (topics : List String) : (g.bind id topics).Orderly where
  alone hn hm := s.alone (liveFor_bind.mp hn) (liveFor_bind.mp hm)
  listed {other n} hn := by
    rw [deviceTask?, devices_bind] at hn
    exact liveFor_bind.mpr (s.listed hn)
  bound hn hdevice htopics := by
    rw [config_bind] at hdevice
    rw [isSome_bindings_bind, s.bound (liveFor_bind.mp hn) hdevice htopics, Bool.or_true]

/-- A task may be started for a device that has none, once it is bound. -/
theorem start (s : g.Orderly) (hdevice : g.config.device? id = some device)
    (hnone : ∀ n, ¬ g.LiveFor n id)
    (hbound : device.topics ≠ [] → (g.publisher.bindings.find? id).isSome = true) :
    (g.start (g.newSession device)).Orderly where
  alone {n m other} hn hm := by
    rw [liveFor_start, device_newSession g hdevice] at hn hm
    rcases hn with ⟨rfl, rfl⟩ | hn
    · rcases hm with ⟨rfl, -⟩ | hm
      · rfl
      · exact absurd hm (hnone m)
    · rcases hm with ⟨rfl, rfl⟩ | hm
      · exact absurd hn (hnone n)
      · exact s.alone hn hm
  listed hn := liveFor_start.mpr (Or.inr (s.listed hn))
  bound {other n device'} hn hdevice' htopics := by
    rw [liveFor_start, device_newSession g hdevice] at hn
    rcases hn with ⟨-, rfl⟩ | hn
    · cases hdevice.symm.trans hdevice'
      exact hbound htopics
    · exact s.bound hn hdevice' htopics

/-- A live task may be listed for its device. -/
theorem enlist (s : g.Orderly) (hlive : g.LiveFor n id) : (g.enlist id n).Orderly where
  alone := s.alone
  listed {other m} hm := by
    rw [deviceTask?_enlist] at hm
    split at hm
    next heq =>
      cases hm
      exact heq ▸ hlive
    · exact s.listed hm
  bound := s.bound

/-- An access that finds what it relies on keeps the order. -/
theorem change (s : g.Orderly) {x : Access} (hready : x.Ready g rest) : (x.change g).Orderly := by
  cases x with
  | unlist id =>
      refine ⟨s.alone, fun {other n} hn => ?_, s.bound⟩
      rw [Access.change, deviceTask?_unlist] at hn
      split at hn
      · cases hn
      · exact s.listed hn
  | unlistAll =>
      refine ⟨s.alone, fun hn => ?_, s.bound⟩
      cases hn
  | silence n => exact s.silence hready.1
  | abort n => exact s.of_agrees (agrees_abort g n)
  | detach id => exact s.detach hready
  | bind id topics => exact s.bind id topics
  | start id device chunk =>
      obtain ⟨-, hdevice, hnone, hbound⟩ := hready
      exact s.start hdevice hnone hbound
  | enlist id n => exact s.enlist hready
  | find | findTank => exact s
  | send n chunk => exact s.of_agrees (agrees_push g n chunk)
  | offer n chunk => exact s.of_agrees (agrees_push g n chunk)

end Orderly

end Gateway

/-! ## Calls that find an aligned gateway -/

/-- The task is not listed, and no other task is live for the device, nor it for another. -/
structure Gateway.Leaving (g : Gateway) (id : String) (n : Nat) : Prop where
  unlisted : ∀ other, g.deviceTask? other ≠ some n
  only : ∀ {m other}, g.LiveFor m other → (m = n ↔ other = id)

/-- A call that has taken a device off the list can stop its task and detach it. -/
theorem proceeds_stopping (hleaving : g.Leaving id n)
    (hrest : Proceeds ((g.stop n).detach id) rest) :
    Proceeds g (Access.stopping id n ++ rest) := by
  have hsilence : (Access.silence n).Ready g (.abort n :: .detach id :: rest) := by
    refine ⟨hleaving.unlisted, fun other hlive => ?_⟩
    obtain rfl := (hleaving.only hlive).mp rfl
    exact List.mem_cons_of_mem _ List.mem_cons_self
  have hdetach : (Access.detach id).Ready (g.stop n) rest := by
    intro m hlive
    obtain ⟨hne, hlive⟩ := Gateway.liveFor_stop.mp hlive
    exact hne ((hleaving.only hlive).mpr rfl).symm
  exact .access hsilence (.access trivial (.access hdetach hrest))

/-- In an aligned gateway the task of a device is the only one for it. -/
theorem Gateway.Aligned.only (s : g.Aligned) (hn : g.deviceTask? id = some n) {m : Nat}
    {other : String} (hlive : g.LiveFor m other) : m = n ↔ other = id := by
  have hlisted := s.listed_iff.mpr hlive
  constructor
  · rintro rfl
    exact s.owner_unique hlisted hn
  · rintro rfl
    exact Option.some.inj (hlisted.symm.trans hn)

/-- A call that disconnects a device can proceed, if the rest can from there. -/
theorem proceeds_unlist (s : g.Aligned) (id : String)
    (hrest : Proceeds (g.disconnect id).gateway rest) : Proceeds g (.unlist id :: rest) := by
  refine .access trivial ?_
  unfold Gateway.disconnect at hrest
  cases hn : g.deviceTask? id with
  | none =>
      rw [hn] at hrest
      have hsame : g.unlist id = g := by
        rw [Gateway.unlist, KeyMap.erase_of_find?_eq_none hn]
      simp only [Access.next, hn, Access.change, hsame, Option.elim_none, List.nil_append]
      exact hrest
  | some n =>
      rw [hn] at hrest
      simp only [Access.next, hn, Access.change, Option.elim_some]
      refine proceeds_stopping ⟨fun other hother => ?_, s.only hn⟩ hrest
      rw [Gateway.deviceTask?_unlist] at hother
      split at hother
      · cases hother
      next hne => exact hne (s.owner_unique hother hn)

/-- A call that connects a device can proceed. -/
theorem proceeds_connecting (s : g.Aligned) (id : String) (chunk : Option Bytes) :
    Proceeds g (Access.connecting g.config id chunk) := by
  unfold Access.connecting
  cases hdevice : g.config.device? id with
  | none => exact .done g
  | some device =>
      let stopped := (g.disconnect id).gateway
      let bound := stopped.bind id device.topics
      have hconfig : bound.config.device? id = some device := by
        rw [Gateway.config_bind, Gateway.config_disconnect, hdevice]
      have hnone : ∀ n, ¬ bound.LiveFor n id := by
        intro n hlive
        have hlisted := (s.disconnect id).listed_iff.mpr (Gateway.liveFor_bind.mp hlive)
        rw [Gateway.deviceTask?_disconnect, if_pos rfl] at hlisted
        cases hlisted
      have hbound : device.topics ≠ [] → (bound.publisher.bindings.find? id).isSome = true := by
        intro htopics
        rw [Gateway.isSome_bindings_bind, decide_eq_true ⟨rfl, htopics⟩, Bool.true_or]
      have hstarted : (bound.start (bound.newSession device)).LiveFor bound.tasks.length id :=
        Gateway.liveFor_start.mpr (Or.inl ⟨rfl, bound.device_newSession hconfig⟩)
      refine proceeds_unlist s id (.access trivial ?_)
      refine .access ⟨rfl, hconfig, hnone, hbound⟩ (.access hstarted ?_)
      cases chunk with
      | none => exact .done _
      | some chunk => exact .access trivial (.done _)

/-- A call that has cleared the list can stop all tasks that were on it. -/
theorem proceeds_stoppingAll {entries : List (String × Nat)}
    (hunlisted : ∀ id, g.deviceTask? id = none)
    (honly : ∀ entry ∈ entries, ∀ m other, g.LiveFor m other → (m = entry.2 ↔ other = entry.1)) :
    Proceeds g (entries.flatMap fun entry => Access.stopping entry.1 entry.2) := by
  induction entries generalizing g with
  | nil => exact .done g
  | cons entry entries ih =>
      obtain ⟨hentry, honly⟩ := List.forall_mem_cons.mp honly
      refine proceeds_stopping ⟨fun id hid => ?_, fun hlive => hentry _ _ hlive⟩ (ih hunlisted ?_)
      · rw [hunlisted id] at hid
        cases hid
      · intro later hlater m other hlive
        exact honly later hlater m other (Gateway.liveFor_stop.mp hlive).2

/-- A call that shuts the gateway down can proceed. -/
theorem proceeds_unlistAll (s : g.Aligned) : Proceeds g [.unlistAll] := by
  refine .access trivial ?_
  rw [List.append_nil]
  refine proceeds_stoppingAll (fun id => rfl) fun entry hentry m other hlive => ?_
  exact s.only (KeyMap.find?_of_mem s.sorted hentry) hlive

/-- A call that begins with an aligned gateway finds what it relies on. -/
theorem proceeds_accesses (s : g.Aligned) (c : Call) : Proceeds g (c.accesses g.config) := by
  cases c with
  | connect id => exact proceeds_connecting s id none
  | disconnect id => exact proceeds_unlist s id (.done _)
  | sendChunk id chunk =>
      refine .access trivial ?_
      simp only [Access.next]
      cases g.deviceTask? id with
      | none => exact .done g
      | some n => exact .access trivial (.done _)
  | routeAdvertisement suffix payload =>
      simp only [Call.accesses]
      cases g.config.tankBySuffix? suffix with
      | none => exact .done g
      | some tank =>
          refine .access trivial ?_
          simp only [Access.next]
          cases g.deviceTask? tank.id with
          | some n => exact .access trivial (.done _)
          | none =>
              rw [List.map_nil, List.append_nil]
              exact proceeds_connecting s tank.id (some payload)
  | shutdown => exact proceeds_unlistAll s

end SensorGateway
