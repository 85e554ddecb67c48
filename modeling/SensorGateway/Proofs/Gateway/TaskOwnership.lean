import Mathlib.Data.List.Perm.Basic
import SensorGateway.Proofs.Gateway.Crowd

/-!
# Who can stop a task

A live task has somebody who can stop it: the list, in which it stands under its device, or a call
that has just started it and is about to list it, or one that has taken it off the list and is
about to silence it (`Crowd.kept`).  Every access hands a task on from one of these to another, or
silences it, with one exception.  A call that lists its task under a device which is already there
puts the new task in the place of the old one, which nobody will stop then: it is *displaced*.

So the live tasks are those that are kept and those that have been displaced (`Crowd.Accounted`),
whichever way the calls overlap (`Crowd.Accounted.run`).
-/

namespace SensorGateway

/-! ## Keeping a task -/

namespace Access

variable {g : Gateway}

/-- The task that the access will list or silence. -/
def task? : Access → Option Nat
  | enlist _ n | silence n => some n
  | _ => none

/-- The task in whose place the access lists another. -/
def displaced? (g : Gateway) : Access → Option Nat
  | enlist id _ => g.deviceTask? id
  | _ => none

/-- What a call is about to list is the task that it has just started. -/
theorem enlist_of_mem_next {x : Access} {id : String} {n : Nat} (hmem : enlist id n ∈ x.next g) :
    n = g.tasks.length ∧ ∃ device chunk, x = start id device chunk := by
  cases x with
  | start id' device chunk =>
      obtain ⟨rfl, rfl⟩ : id = id' ∧ n = g.tasks.length := by simpa [next] using hmem
      exact ⟨rfl, device, chunk, rfl⟩
  | unlist id' => cases hn : g.deviceTask? id' <;> simp [next, stopping, hn] at hmem
  | findTank id' chunk =>
      cases hn : g.deviceTask? id' <;> cases hdevice : g.config.device? id' <;>
        simp [next, connecting, hn, hdevice] at hmem
  | unlistAll => simp [next, stopping] at hmem
  | find id' chunk => simp [next] at hmem
  | silence | abort | detach | bind | enlist | send | offer => simp [next] at hmem

/-- At its beginning a call has no task to list or to silence. -/
theorem task?_accesses (config : Config) (c : Call) :
    (c.accesses config).filterMap task? = [] := by
  cases c with
  | connect id =>
      cases hdevice : config.device? id <;> simp [Call.accesses, connecting, hdevice, task?]
  | disconnect | sendChunk | routeAdvertisement | shutdown =>
      simp [Call.accesses, task?]

/-- What a call will silence or list after an access, of what it has found. -/
theorem task?_next (g : Gateway) (x : Access) :
    (x.next g).filterMap task? =
      match x with
      | unlist id => (g.deviceTask? id).toList
      | unlistAll => g.devices.map Prod.snd
      | start _ _ _ => [g.tasks.length]
      | _ => [] := by
  cases x with
  | unlist id => cases hn : g.deviceTask? id <;> simp [next, stopping, hn, task?]
  | unlistAll =>
      simp only [next]
      induction g.devices with
      | nil => rfl
      | cons entry entries ih =>
          rw [List.flatMap_cons, List.filterMap_append, ih]
          rfl
  | start id device chunk => cases chunk <;> rfl
  | find id chunk => cases hn : g.deviceTask? id <;> simp [next, hn, task?]
  | findTank id chunk =>
      cases hn : g.deviceTask? id <;> cases hdevice : g.config.device? id <;>
        simp [next, connecting, hn, hdevice, task?]
  | silence | abort | detach | bind | enlist | send | offer => rfl

/-- Unless a task is silenced or started, the tasks that are to be listed or silenced, those that
are listed and the one that is displaced are the same before and after an access. -/
theorem keeps_change (h : KeyMap.Sorted g.devices) {x : Access} (hsilence : ∀ n, x ≠ silence n)
    (hstart : ∀ id device chunk, x ≠ start id device chunk) :
    (x.task?.toList ++ g.devices.map Prod.snd).Perm
      ((x.next g).filterMap task? ++ ((x.change g).devices.map Prod.snd
        ++ (x.displaced? g).toList)) := by
  rw [task?_next]
  -- most accesses leave the list alone
  have hsame (hdevices : (x.change g).devices = g.devices) :
      (([] : List Nat) ++ g.devices.map Prod.snd).Perm
        ([] ++ ((x.change g).devices.map Prod.snd ++ [])) := by
    rw [hdevices, List.append_nil]
  cases x with
  | unlist id =>
      have hdevices : ((unlist id).change g).devices = g.devices.erase id := rfl
      cases hn : g.deviceTask? id with
      | none =>
          simp only [hn, Option.toList_none]
          refine hsame ?_
          rw [hdevices, KeyMap.erase_of_find?_eq_none hn]
      | some n =>
          simp only [hn, hdevices, displaced?, Option.toList_none, List.append_nil]
          exact (h.perm_erase hn).map Prod.snd
  | unlistAll =>
      have hdevices : (unlistAll.change g).devices = [] := rfl
      simp [hdevices, task?, displaced?]
  | enlist id n =>
      have hdevices : ((enlist id n).change g).devices = g.devices.insert id n := rfl
      have hinsert : (((enlist id n).change g).devices.map Prod.snd).Perm
          (n :: (g.devices.erase id).map Prod.snd) := by
        rw [hdevices]
        exact (h.insert_perm id n).map Prod.snd
      cases hm : g.deviceTask? id with
      | none =>
          rw [KeyMap.erase_of_find?_eq_none hm] at hinsert
          simp only [task?, displaced?, hm, Option.toList_some, Option.toList_none, List.append_nil]
          exact hinsert.symm
      | some m =>
          have herase : (g.devices.map Prod.snd).Perm (m :: (g.devices.erase id).map Prod.snd) :=
            (h.perm_erase hm).map Prod.snd
          simp only [task?, displaced?, hm, Option.toList_some, List.nil_append]
          have hswap : ([n] ++ g.devices.map Prod.snd).Perm
              (m :: n :: (g.devices.erase id).map Prod.snd) := (herase.cons n).trans (.swap m n _)
          exact hswap.trans ((hinsert.symm.cons m).trans (List.perm_append_singleton m _).symm)
  | bind id topics => exact hsame (g.devices_bind id topics)
  | send n chunk => exact hsame (g.agrees_push n chunk).devices
  | offer n chunk => exact hsame (g.agrees_push n chunk).devices
  | silence n => exact absurd rfl (hsilence n)
  | start id device chunk => exact absurd rfl (hstart id device chunk)
  | abort | detach | find | findTank => exact hsame rfl

/-- Every access leaves the list sorted. -/
theorem sorted_change (h : KeyMap.Sorted g.devices) (x : Access) :
    KeyMap.Sorted (x.change g).devices := by
  cases x with
  | unlist id => exact h.erase id
  | unlistAll => exact KeyMap.sorted_nil
  | enlist id n => exact h.insert id n
  | bind id topics =>
      rw [change, Gateway.devices_bind]
      exact h
  | send n chunk =>
      rw [change, (g.agrees_push n chunk).devices]
      exact h
  | offer n chunk =>
      rw [change, (g.agrees_push n chunk).devices]
      exact h
  | silence | abort | detach | start | find | findTank => exact h

/-- A badge changes when its task is silenced or started, and not otherwise. -/
theorem badge?_change {x : Access} (hsilence : ∀ n, x ≠ silence n)
    (hstart : ∀ id device chunk, x ≠ start id device chunk) (n : Nat) :
    (x.change g).badge? n = g.badge? n := by
  cases x with
  | silence k => exact absurd rfl (hsilence k)
  | start id device chunk => exact absurd rfl (hstart id device chunk)
  | abort k => exact (Gateway.agrees_abort g k).badge n
  | send k chunk => exact (g.agrees_push k chunk).badge n
  | offer k chunk => exact (g.agrees_push k chunk).badge n
  | bind id topics =>
      rw [change, Gateway.badge?, Gateway.task?, Gateway.tasks_bind]
      rfl
  | unlist | unlistAll | detach | enlist | find | findTank => rfl

/-- A device is listed by being enlisted only. -/
theorem deviceTask?_change {x : Access} {id : String} {n : Nat}
    (hlisted : (x.change g).deviceTask? id = some n) :
    g.deviceTask? id = some n ∨ x = enlist id n := by
  cases x with
  | unlist other =>
      rw [change, Gateway.deviceTask?_unlist] at hlisted
      split at hlisted
      · cases hlisted
      · exact Or.inl hlisted
  | unlistAll => cases hlisted
  | enlist other k =>
      rw [change, Gateway.deviceTask?_enlist] at hlisted
      split at hlisted
      next heq =>
        cases hlisted
        exact Or.inr (heq ▸ rfl)
      · exact Or.inl hlisted
  | bind other topics =>
      rw [change, Gateway.deviceTask?, Gateway.devices_bind] at hlisted
      exact Or.inl hlisted
  | send k chunk => exact Or.inl ((g.agrees_push k chunk).deviceTask? id ▸ hlisted)
  | offer k chunk => exact Or.inl ((g.agrees_push k chunk).deviceTask? id ▸ hlisted)
  | silence | abort | detach | start | find | findTank => exact Or.inl hlisted

end Access

/-- The task that is displaced in the move. -/
def Moment.displaced? (m : Moment) : Move → Option Nat
  | .access => m.pending.head?.bind (Access.displaced? m.gateway)
  | _ => none

namespace Crowd

variable {c c' : Crowd} {turn : Turn} {turns : List Turn} {lost lost' : List Nat} {n : Nat}

/-- The tasks that somebody can stop: those that are listed, and those that a call will list or
silence. -/
def kept (c : Crowd) : List Nat :=
  c.gateway.devices.map Prod.snd ++ c.calls.flatten.filterMap Access.task?

/-- The tasks that are displaced in turns. -/
def displaced (c : Crowd) (turns : List Turn) : List Nat := c.journal Moment.displaced? turns

/-- A task is displaced in the turn of a call by its next access. -/
theorem note?_displaced_access {k : Nat} {x : Access} {rest : List Access}
    (hk : c.calls[k]? = some (x :: rest)) :
    c.note? Moment.displaced? (.access k) = x.displaced? c.gateway := by
  simp [note?, seen?, moment, Moment.displaced?, List.getD_eq_getElem?_getD, hk]

/-- Only calls displace tasks. -/
theorem note?_displaced_beside (c : Crowd) (move : Move) :
    c.note? Moment.displaced? (.beside move) = none := by
  cases move <;> rfl

/-- With these tasks lost, all live tasks are accounted for. -/
structure Accounted (c : Crowd) (lost : List Nat) : Prop where
  configured : c.Configured
  sorted : KeyMap.Sorted c.gateway.devices
  /-- No task is kept twice, or kept and lost as well. -/
  nodup : (c.kept ++ lost).Nodup
  live_iff : ∀ n, n ∈ c.kept ++ lost ↔ ∃ id, c.gateway.LiveFor n id
  listed : ∀ id n, c.gateway.deviceTask? id = some n → c.gateway.LiveFor n id
  /-- A task that is still to be listed is live for its device. -/
  enlisting : ∀ pending ∈ c.calls, ∀ id n, Access.enlist id n ∈ pending → c.gateway.LiveFor n id

/-- A task that is listed can be stopped by whoever finds it there. -/
theorem mem_kept_of_listed {id : String} (h : c.gateway.deviceTask? id = some n) : n ∈ c.kept :=
  List.mem_append_left _ (List.mem_map_of_mem (f := Prod.snd) (KeyMap.mem_of_find? h))

/-- A task that a call will list or silence can be stopped by that call. -/
theorem mem_kept_of_mem {pending : List Access} {x : Access} (hpending : pending ∈ c.calls)
    (hx : x ∈ pending) (htask : x.task? = some n) : n ∈ c.kept := by
  refine List.mem_append_right _ (List.mem_filterMap.mpr ⟨x, ?_, htask⟩)
  exact List.mem_flatten.mpr ⟨pending, hpending, hx⟩

/-- At the start there are no tasks. -/
theorem accounted_start (config : Config) (capacity : Nat) (suppressRepeats : Bool) :
    (start config capacity suppressRepeats).Accounted [] where
  configured pending hmem := nomatch hmem
  sorted := KeyMap.sorted_nil
  nodup := List.nodup_nil
  live_iff n := by simp [kept, start, Gateway.new, Gateway.LiveFor, Gateway.task?]
  listed id n h := by cases h
  enlisting pending hmem := nomatch hmem

/-- What is kept by one call, which has this left to do, by the list and by the other calls. -/
def share (g : Gateway) (pending : List Access) (others : List (List Access)) : List Nat :=
  pending.filterMap Access.task? ++ (g.devices.map Prod.snd
    ++ others.flatten.filterMap Access.task?)

/-- What is kept is kept by one call, by the list, or by the other calls. -/
theorem kept_perm_share {k : Nat} {pending : List Access} (hk : c.calls[k]? = some pending) :
    c.kept.Perm (share c.gateway pending (c.calls.eraseIdx k)) := by
  obtain ⟨hlt, rfl⟩ := List.getElem?_eq_some_iff.mp hk
  have hcalls : c.calls.flatten.Perm (c.calls[k] ++ (c.calls.eraseIdx k).flatten) :=
    (List.getElem_cons_eraseIdx_perm hlt).symm.flatten
  have hpending := (hcalls.filterMap Access.task?).append_left (c.gateway.devices.map Prod.snd)
  rw [List.filterMap_append] at hpending
  exact hpending.trans (List.perm_append_comm_assoc _ _ _)

/-! ## One access -/

/-- The gateway and the calls after an access of the call with this number, which then has this left
to do. -/
def accessed (c : Crowd) (k : Nat) (x : Access) (rest : List Access) : Crowd where
  gateway := x.change c.gateway
  calls := c.calls.set k (x.next c.gateway ++ rest)

/-- After an access of one call the other calls have left to do what they had. -/
theorem mem_calls_accessed {k : Nat} {x : Access} {rest pending : List Access}
    (hmem : pending ∈ (c.accessed k x rest).calls) :
    pending ∈ c.calls ∨ pending = x.next c.gateway ++ rest :=
  List.mem_or_eq_of_mem_set hmem

section

variable {k : Nat} {x : Access} {rest : List Access} (hk : c.calls[k]? = some (x :: rest))
include hk

/-- What is kept after an access of a call is kept by that call, by the list, or by the others. -/
theorem kept_accessed_perm_share : (c.accessed k x rest).kept.Perm
    (share (x.change c.gateway) (x.next c.gateway ++ rest) (c.calls.eraseIdx k)) := by
  obtain ⟨hlt, -⟩ := List.getElem?_eq_some_iff.mp hk
  have hcall : (c.accessed k x rest).calls[k]? = some (x.next c.gateway ++ rest) := by
    simp [accessed, hlt]
  have hothers : (c.accessed k x rest).calls.eraseIdx k = c.calls.eraseIdx k :=
    List.eraseIdx_set_eq
  have hperm := kept_perm_share hcall
  rw [hothers] at hperm
  exact hperm

/-- A task that a call will list after the access was to be listed before, unless it has just been
started. -/
theorem enlisting_accessed {pending : List Access} (hmem : pending ∈ (c.accessed k x rest).calls)
    {id : String} (henlist : Access.enlist id n ∈ pending) :
    (∃ earlier ∈ c.calls, Access.enlist id n ∈ earlier) ∨
      n = c.gateway.tasks.length ∧ ∃ device chunk, x = .start id device chunk := by
  rcases mem_calls_accessed hmem with hmem | rfl
  · exact Or.inl ⟨pending, hmem, henlist⟩
  · rcases List.mem_append.mp henlist with hnext | hrest
    · exact Or.inr (Access.enlist_of_mem_next hnext)
    · exact Or.inl ⟨_, List.mem_of_getElem? hk, List.mem_cons_of_mem x hrest⟩

variable (h : c.Accounted lost)
include h

/-- What the accounts say, in the shares of the call, the list and the other calls. -/
theorem Accounted.share_nodup :
    (share c.gateway (x :: rest) (c.calls.eraseIdx k) ++ lost).Nodup ∧
      ∀ n, n ∈ share c.gateway (x :: rest) (c.calls.eraseIdx k) ++ lost
        ↔ ∃ id, c.gateway.LiveFor n id := by
  have hperm := (kept_perm_share hk).append_right lost
  refine ⟨hperm.nodup_iff.mp h.nodup, fun n => ?_⟩
  rw [← hperm.mem_iff]
  exact h.live_iff n

variable (hconfigured : (c.accessed k x rest).Configured)
include hconfigured

/-- Nobody else will list or silence a task that is being silenced. -/
theorem Accounted.silence (hx : x = .silence n) : (c.accessed k x rest).Accounted lost := by
  subst hx
  obtain ⟨hnodup, hlive⟩ := h.share_nodup hk
  have hshare : share c.gateway (.silence n :: rest) (c.calls.eraseIdx k)
      = n :: share (c.gateway.silence n) rest (c.calls.eraseIdx k) := rfl
  have hkept : ((c.accessed k (.silence n) rest).kept ++ lost).Perm
      (share (c.gateway.silence n) rest (c.calls.eraseIdx k) ++ lost) :=
    (kept_accessed_perm_share hk).append_right lost
  rw [hshare, List.cons_append, List.nodup_cons, ← hkept.mem_iff, ← hkept.nodup_iff] at hnodup
  have hlater {m : Nat} {id : String} : (c.accessed k (.silence n) rest).gateway.LiveFor m id ↔
      n ≠ m ∧ c.gateway.LiveFor m id := by
    have hbadge : (c.accessed k (.silence n) rest).gateway.badge? m = _ :=
      c.gateway.badge?_silence n m
    rw [Gateway.liveFor_iff, hbadge, Gateway.liveFor_iff]
    split
    next heq => simp [heq]
    next hne => simp [hne]
  have hstill {m : Nat} {id : String} (hm : m ∈ (c.accessed k (.silence n) rest).kept)
      (hearlier : c.gateway.LiveFor m id) :
      (c.accessed k (.silence n) rest).gateway.LiveFor m id := by
    refine hlater.mpr ⟨?_, hearlier⟩
    rintro rfl
    exact hnodup.1 (List.mem_append_left lost hm)
  refine ⟨hconfigured, h.sorted, hnodup.2, fun m => ?_, fun id m hm => ?_,
    fun pending hpending id m hm => ?_⟩
  · have hm := hlive m
    rw [hshare, List.cons_append, List.mem_cons, ← hkept.mem_iff] at hm
    simp only [hlater, exists_and_left, ← hm]
    constructor
    · intro hmem
      refine ⟨?_, Or.inr hmem⟩
      rintro rfl
      exact hnodup.1 hmem
    · rintro ⟨hne, heq | hmem⟩
      · exact absurd heq.symm hne
      · exact hmem
  · exact hstill (mem_kept_of_listed hm) (h.listed id m hm)
  · refine hstill (mem_kept_of_mem hpending hm rfl) ?_
    rcases enlisting_accessed hk hpending hm with ⟨earlier, hearlier, hm⟩ | ⟨-, _, _, hstart⟩
    · exact h.enlisting earlier hearlier id m hm
    · cases hstart

/-- A task that is started is kept by the call that has started it. -/
theorem Accounted.started {id : String} {device : DeviceConfig} {chunk : Option Bytes}
    (hx : x = .start id device chunk) : (c.accessed k x rest).Accounted lost := by
  subst hx
  obtain ⟨hnodup, hlive⟩ := h.share_nodup hk
  let new := c.gateway.tasks.length
  have hdevice : (c.gateway.newSession device).device = id :=
    c.gateway.device_newSession
      (h.configured _ (List.mem_of_getElem? hk) id device chunk List.mem_cons_self)
  have hkept : ((c.accessed k (.start id device chunk) rest).kept ++ lost).Perm
      (new :: (share c.gateway (.start id device chunk :: rest) (c.calls.eraseIdx k) ++ lost)) := by
    refine (kept_accessed_perm_share hk).append_right lost |>.trans (List.Perm.of_eq ?_)
    rw [share, List.filterMap_append, Access.task?_next]
    rfl
  have hlater {m : Nat} {id' : String} :
      (c.accessed k (.start id device chunk) rest).gateway.LiveFor m id' ↔
        if m = new then id = id' else c.gateway.LiveFor m id' := by
    have hbadge : (c.accessed k (.start id device chunk) rest).gateway.badge? m = _ :=
      c.gateway.badge?_start (c.gateway.newSession device) m
    rw [Gateway.liveFor_iff, hbadge, hdevice, Gateway.liveFor_iff]
    split
    · simp
    · rfl
  have hnone {id' : String} : ¬ c.gateway.LiveFor new id' := by
    rw [Gateway.liveFor_iff, Gateway.badge?_eq_none (Nat.le_refl _)]
    exact nofun
  have hstill {m : Nat} {id' : String} (hearlier : c.gateway.LiveFor m id') :
      (c.accessed k (.start id device chunk) rest).gateway.LiveFor m id' := by
    rw [hlater, if_neg ?_]
    · exact hearlier
    · rintro rfl
      exact hnone hearlier
  refine ⟨hconfigured, h.sorted, ?_, fun m => ?_, fun id' m hm => hstill (h.listed id' m hm),
    fun pending hpending id' m hm => ?_⟩
  · refine hkept.nodup_iff.mpr (List.nodup_cons.mpr ⟨fun hmem => ?_, hnodup⟩)
    obtain ⟨id', hmem⟩ := (hlive new).mp hmem
    exact hnone hmem
  · rw [hkept.mem_iff, List.mem_cons, hlive m]
    by_cases hm : m = new
    · simp [hlater, hm]
    · simp [hlater, hm]
  · rcases enlisting_accessed hk hpending hm with ⟨earlier, hearlier, hm⟩ | ⟨rfl, _, _, hstart⟩
    · exact hstill (h.enlisting earlier hearlier id' m hm)
    · cases hstart
      rw [hlater, if_pos rfl]

/-- Every other access hands on what it keeps. -/
theorem Accounted.handed_on (hsilence : ∀ n, x ≠ .silence n)
    (hstart : ∀ id device chunk, x ≠ .start id device chunk) :
    (c.accessed k x rest).Accounted (lost ++ (x.displaced? c.gateway).toList) := by
  obtain ⟨hnodup, hlive⟩ := h.share_nodup hk
  have hkept : ((c.accessed k x rest).kept ++ (lost ++ (x.displaced? c.gateway).toList)).Perm
      (share c.gateway (x :: rest) (c.calls.eraseIdx k) ++ lost) := by
    refine ((kept_accessed_perm_share hk).append_right _).trans ?_
    refine List.perm_iff_count.mpr fun n => ?_
    have hcount := (Access.keeps_change h.sorted hsilence hstart).count_eq n
    have hcons : (x :: rest).filterMap Access.task?
        = x.task?.toList ++ rest.filterMap Access.task? := by
      cases htask : x.task? <;> simp [htask]
    simp only [share, hcons, List.filterMap_append, List.count_append] at hcount ⊢
    omega
  have hlater {m : Nat} {id : String} :
      (c.accessed k x rest).gateway.LiveFor m id ↔ c.gateway.LiveFor m id := by
    have hbadge : (c.accessed k x rest).gateway.badge? m = c.gateway.badge? m :=
      Access.badge?_change hsilence hstart m
    rw [Gateway.liveFor_iff, hbadge, Gateway.liveFor_iff]
  refine ⟨hconfigured, ?_, hkept.nodup_iff.mpr hnodup, fun m => ?_, fun id m hm => ?_,
    fun pending hpending id m hm => ?_⟩
  · exact Access.sorted_change h.sorted x
  · simp only [hkept.mem_iff, hlive, hlater]
  · rw [hlater]
    rcases Access.deviceTask?_change hm with hm | rfl
    · exact h.listed id m hm
    · exact h.enlisting _ (List.mem_of_getElem? hk) id m List.mem_cons_self
  · rw [hlater]
    rcases enlisting_accessed hk hpending hm with ⟨earlier, hearlier, hm⟩ | ⟨-, _, _, rfl⟩
    · exact h.enlisting earlier hearlier id m hm
    · exact absurd rfl (hstart _ _ _)

end

/-! ## Every turn -/

/-- A further call keeps no tasks. -/
theorem Accounted.call (h : c.Accounted lost) (call : Call)
    (hconfigured : Configured { c with calls := c.calls ++ [call.accesses c.gateway.config] }) :
    Accounted { c with calls := c.calls ++ [call.accesses c.gateway.config] } lost := by
  have hkept : kept { c with calls := c.calls ++ [call.accesses c.gateway.config] } = c.kept := by
    simp [kept, Access.task?_accesses]
  refine ⟨hconfigured, h.sorted, hkept ▸ h.nodup, fun n => ?_, h.listed,
    fun pending hpending id n hn => ?_⟩
  · rw [hkept]
    exact h.live_iff n
  · rcases List.mem_append.mp hpending with hpending | hnew
    · exact h.enlisting pending hpending id n hn
    · -- a call begins by listing nothing
      have hmem : n ∈ (call.accesses c.gateway.config).filterMap Access.task? :=
        List.mem_filterMap.mpr ⟨_, List.mem_singleton.mp hnew ▸ hn, rfl⟩
      rw [Access.task?_accesses] at hmem
      cases hmem

/-- The same tasks are accounted for in gateways that agree. -/
theorem Accounted.agrees (h : c.Accounted lost) (hagrees : c.gateway.Agrees c'.gateway)
    (hcalls : c'.calls = c.calls) (hconfigured : c'.Configured) : c'.Accounted lost := by
  have hkept : c'.kept = c.kept := by rw [kept, kept, hagrees.devices, hcalls]
  refine ⟨hconfigured, hagrees.devices ▸ h.sorted, hkept ▸ h.nodup, fun n => ?_, fun id n hn => ?_,
    fun pending hpending id n hn => ?_⟩
  · simp only [hkept, hagrees.liveFor_iff]
    exact h.live_iff n
  · rw [hagrees.deviceTask?] at hn
    exact hagrees.liveFor_iff.mpr (h.listed id n hn)
  · rw [hcalls] at hpending
    exact hagrees.liveFor_iff.mpr (h.enlisting pending hpending id n hn)

/-- In every turn live tasks stay accounted for, if those are added that are displaced in it. -/
theorem Accounted.step (h : c.Accounted lost) (hstep : c.step? turn = some c') :
    c'.Accounted (lost ++ (c.note? Moment.displaced? turn).toList) := by
  have hconfigured := h.configured.step hstep
  rcases step_cases hstep with
    ⟨call, rfl, rfl⟩ | ⟨k, x, rest, rfl, hk, -, rfl⟩ | ⟨move, rfl, hagrees, hcalls⟩
  · rw [note?, seen?, Option.bind_none, Option.toList_none, List.append_nil]
    exact h.call call hconfigured
  · rw [note?_displaced_access hk]
    cases x with
    | silence n =>
        have hnone : (Access.silence n).displaced? c.gateway = none := rfl
        rw [hnone, Option.toList_none, List.append_nil]
        exact h.silence hk hconfigured rfl
    | start id device chunk =>
        have hnone : (Access.start id device chunk).displaced? c.gateway = none := rfl
        rw [hnone, Option.toList_none, List.append_nil]
        exact h.started hk hconfigured rfl
    | _ => exact h.handed_on hk hconfigured (by simp) (by simp)
  · rw [note?_displaced_beside, Option.toList_none, List.append_nil]
    exact h.agrees hagrees hcalls hconfigured

/-- In every run live tasks are accounted for by those that are kept and those that were displaced.
-/
theorem Accounted.run (h : c.Accounted lost) (hrun : c.run? turns = some c') :
    c'.Accounted (lost ++ c.displaced turns) := by
  induction turns generalizing c lost with
  | nil =>
      cases hrun
      rw [displaced, journal, List.append_nil]
      exact h
  | cons turn turns ih =>
      obtain ⟨c₁, hstep, hrun⟩ := Option.bind_eq_some_iff.mp hrun
      have hrest := ih (h.step hstep) hrun
      rw [List.append_assoc] at hrest
      rw [displaced, journal_cons hstep]
      exact hrest

/-- When every call has returned, the list alone keeps tasks. -/
theorem kept_of_isIdle (hidle : c.isIdle = true) : c.kept = c.gateway.devices.map Prod.snd := by
  have hnone : c.calls.flatten = [] := by
    refine List.flatten_eq_nil_iff.mpr fun pending hpending => ?_
    exact List.isEmpty_iff.mp (List.all_eq_true.mp hidle pending hpending)
  rw [kept, hnone, List.filterMap_nil, List.append_nil]

/-- The list has exactly the live tasks if none has been lost. -/
theorem Accounted.listed_iff_nothing_lost (h : c.Accounted lost) (hidle : c.isIdle = true) :
    (∀ id n, c.gateway.LiveFor n id ↔ c.gateway.deviceTask? id = some n) ↔ lost = [] := by
  have hkept := kept_of_isIdle hidle
  constructor
  · intro hlisted
    refine List.eq_nil_iff_forall_not_mem.mpr fun n hn => ?_
    obtain ⟨id, hlive⟩ := (h.live_iff n).mp (List.mem_append_right _ hn)
    have hmem := mem_kept_of_listed ((hlisted id n).mp hlive)
    exact (List.nodup_append.mp h.nodup).2.2 n hmem n hn rfl
  · rintro rfl id n
    refine ⟨fun hlive => ?_, h.listed id n⟩
    have hmem := (h.live_iff n).mpr ⟨id, hlive⟩
    rw [List.append_nil, hkept] at hmem
    obtain ⟨⟨other, n⟩, hentry, rfl⟩ := List.mem_map.mp hmem
    have hfound : c.gateway.deviceTask? other = some n := KeyMap.find?_of_mem h.sorted hentry
    have hother := h.listed other n hfound
    rw [Gateway.liveFor_iff] at hlive hother
    cases hlive.symm.trans hother
    exact hfound

end Crowd

end SensorGateway
