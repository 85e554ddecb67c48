import SensorGateway.Proofs.Gateway.TaskOwnership

/-!
# Calls that connect one device

When all calls have returned the list has all live tasks if, and only if, none was displaced
(`Crowd.live_iff_listed`).  A call by itself displaces nothing: it has taken its device off the list
before it lists a task for it (`Access.Single`).  So it takes two calls that connect one device at
the same time (`Crowd.displaced_of_not_crossed`), and two such calls are enough
(`Crowd.two_live_after_overlapping_connects`).
-/

namespace SensorGateway

/-! ## Calls that do not cross -/

namespace Access

variable {g : Gateway} {pending : List Access}

/-- The access starts or lists a task for the device. -/
def lists (id : String) : Access → Bool
  | start other _ _ | enlist other _ => other == id
  | _ => false

/-- The access belongs to a call that connects the device, or will if the device has no task. -/
def connects (id : String) : Access → Bool
  | start other _ _ | enlist other _ | findTank other _ => other == id
  | _ => false

/-- What a call that connects a device has left to do: it lists one task, and from when it has taken
the device off the list until then the device is not listed. -/
structure Single (g : Gateway) (pending : List Access) : Prop where
  one : ∀ id, pending.countP (connects id) ≤ 1
  front : ∀ id, unlist id ∉ pending.tail
  clear : ∀ id, pending.any (lists id) = true → unlist id ∉ pending → g.deviceTask? id = none

/-- To start or to list a task for a device is to connect it. -/
theorem connects_of_lists {id : String} {x : Access} (h : x.lists id = true) :
    x.connects id = true := by
  cases x <;> simp_all [lists, connects]

/-- A call that has nothing left to do connects nothing. -/
theorem single_nil (g : Gateway) : Single g [] := ⟨by simp, by simp, by simp⟩

/-- A call that has one thing left to do, and not to list a task, lists none. -/
theorem single_singleton (g : Gateway) {x : Access} (h : ∀ id, x.lists id = false) :
    Single g [x] where
  one id := List.countP_le_length
  front id := by simp
  clear id hlists := by simp [h] at hlists

/-- A call that connects a device lists one task for it, after taking it off the list. -/
theorem single_connecting (g : Gateway) (id : String) (chunk : Option Bytes) :
    Single g (connecting g.config id chunk) := by
  unfold connecting
  cases g.config.device? id with
  | none => exact single_nil g
  | some device =>
      refine ⟨fun other => ?_, by simp, fun other hlists hunlisted => ?_⟩
      · cases hother : id == other <;> simp [connects, hother]
      · have hother : id = other := by simpa [lists] using hlists
        simp [hother] at hunlisted

/-- Every call begins with one task to list at most. -/
theorem single_accesses (g : Gateway) (c : Call) : Single g (c.accesses g.config) := by
  cases c with
  | connect id => exact single_connecting g id none
  | disconnect | sendChunk | shutdown => exact single_singleton g fun _ => rfl
  | routeAdvertisement suffix payload =>
      dsimp only [Call.accesses]
      cases g.config.tankBySuffix? suffix with
      | none => exact single_nil g
      | some tank => exact single_singleton g fun _ => rfl

variable {x : Access} {rest : List Access}

/-- Where a device is taken off the list, this comes first. -/
theorem unlist_not_mem_tail_next (g : Gateway) (x : Access) (id : String) :
    unlist id ∉ (x.next g).tail := by
  cases x with
  | unlist other => cases hn : g.deviceTask? other <;> simp [next, stopping, hn]
  | findTank other chunk =>
      cases hn : g.deviceTask? other <;> cases hdevice : g.config.device? other <;>
        simp [next, connecting, hn, hdevice]
  | unlistAll =>
      intro hmem
      have hmem := List.mem_of_mem_tail hmem
      simp [next, stopping] at hmem
  | start other device chunk => simp [next]
  | find other chunk => cases hn : g.deviceTask? other <;> simp [next, hn]
  | silence | abort | detach | bind | enlist | send | offer => simp [next]

/-- What comes after an access connects a device only if the access does. -/
theorem countP_connects_next (g : Gateway) (x : Access) (id : String) :
    (x.next g).countP (connects id) ≤ [x].countP (connects id) := by
  cases x with
  | unlist other => cases hn : g.deviceTask? other <;> simp [next, stopping, hn, connects]
  | findTank other chunk =>
      cases hn : g.deviceTask? other with
      | some n => simp [next, hn, connects]
      | none =>
          cases hdevice : g.config.device? other <;>
            simp [next, connecting, hn, hdevice, connects, List.countP_cons]
  | unlistAll =>
      have hnone : (unlistAll.next g).countP (connects id) = 0 := by
        refine List.countP_eq_zero.mpr fun y hy => ?_
        obtain ⟨entry, -, hy⟩ := List.mem_flatMap.mp hy
        obtain rfl | rfl | rfl : y = silence entry.2 ∨ y = abort entry.2 ∨ y = detach entry.1 := by
          simpa [stopping] using hy
        all_goals simp [connects]
      rw [hnone]
      exact Nat.zero_le _
  | start other device chunk => cases chunk <;> simp [next, connects, List.countP_cons]
  | find other chunk => cases hn : g.deviceTask? other <;> simp [next, hn, connects]
  | silence | abort | detach | bind | enlist | send | offer => simp [next]

/-- What a call does next lists a device only if it was to be listed, or is taken off first. -/
theorem lists_next {id : String} (h : (x.next g).any (lists id) = true) :
    x.lists id = true ∨ unlist id ∈ x.next g := by
  cases x with
  | unlist other => cases hn : g.deviceTask? other <;> simp [next, stopping, hn, lists] at h
  | findTank other chunk =>
      cases hn : g.deviceTask? other <;> cases hdevice : g.config.device? other <;>
        simp [next, connecting, hn, hdevice, lists] at h ⊢
      exact h.symm
  | unlistAll => simp [next, stopping, lists] at h
  | start other device chunk =>
      left
      cases chunk <;> simpa [next, lists] using h
  | find other chunk => cases hn : g.deviceTask? other <;> simp [next, hn, lists] at h
  | silence | abort | detach | bind | enlist | send | offer => simp [next] at h

/-- After its own access a call still has but one task to list, of a device that is not listed. -/
theorem Single.next (h : Single g (x :: rest)) : Single (x.change g) (x.next g ++ rest) where
  one id := by
    have hone := h.one id
    have hnext := countP_connects_next g x id
    rw [List.countP_append]
    rw [← List.singleton_append, List.countP_append] at hone
    omega
  front id hmem := by
    have hrest : unlist id ∉ rest := h.front id
    cases hnext : x.next g with
    | nil =>
        rw [hnext] at hmem
        exact hrest (List.mem_of_mem_tail hmem)
    | cons y ys =>
        rw [hnext] at hmem
        have htail := unlist_not_mem_tail_next g x id
        rw [hnext] at htail
        rcases List.mem_append.mp hmem with hmem | hmem
        · exact htail hmem
        · exact hrest hmem
  clear id hlists hunlisted := by
    rw [List.any_append, Bool.or_eq_true] at hlists
    rw [List.mem_append, not_or] at hunlisted
    have hpending : (x :: rest).any (lists id) = true := by
      rw [List.any_cons, Bool.or_eq_true]
      refine hlists.imp_left fun hnext => ?_
      exact (lists_next hnext).resolve_right hunlisted.1
    refine Option.eq_none_iff_forall_ne_some.mpr fun n hn => ?_
    rcases deviceTask?_change hn with hlisted | rfl
    · by_cases hx : x = unlist id
      · subst hx
        rw [change, Gateway.deviceTask?_unlist, if_pos rfl] at hn
        cases hn
      · have hnot : unlist id ∉ x :: rest := by
          rw [List.mem_cons, not_or]
          exact ⟨Ne.symm hx, hunlisted.2⟩
        rw [h.clear id hpending hnot] at hlisted
        cases hlisted
    · -- nothing else that the call has to do lists the device
      have hrest : rest.any (lists id) = true := by simpa [next] using hlists
      obtain ⟨y, hy, hlists⟩ := List.any_eq_true.mp hrest
      have hone := h.one id
      have hmore : 0 < rest.countP (connects id) :=
        List.countP_pos_iff.mpr ⟨y, hy, connects_of_lists hlists⟩
      rw [List.countP_cons_of_pos (by simp [connects])] at hone
      omega

/-- What a call has left to do is single in all gateways that agree. -/
theorem Single.agrees {h : Gateway} {pending : List Access} (hsingle : Single g pending)
    (hagrees : g.Agrees h) : Single h pending where
  one := hsingle.one
  front := hsingle.front
  clear id hlists hunlisted := (hagrees.deviceTask? id).trans (hsingle.clear id hlists hunlisted)

/-- An access of a call that does not connect the same device changes nothing for another call. -/
theorem Single.beside {pending : List Access} (h : Single g pending)
    (hother : ∀ id, pending.any (lists id) = true → x.connects id = false) :
    Single (x.change g) pending where
  one := h.one
  front := h.front
  clear id hlists hunlisted := by
    refine Option.eq_none_iff_forall_ne_some.mpr fun n hn => ?_
    rcases deviceTask?_change hn with hlisted | rfl
    · rw [h.clear id hlists hunlisted] at hlisted
      cases hlisted
    · have hconnects := hother id hlists
      simp [connects] at hconnects

end Access

namespace Crowd

variable {c c' : Crowd} {turn : Turn} {turns : List Turn}

/-- Two calls are about to connect the same device. -/
def Crossed (c : Crowd) : Prop :=
  ∃ (id : String) (j k : Nat) (first second : List Access), j ≠ k ∧
    c.calls[j]? = some first ∧ c.calls[k]? = some second ∧
    first.any (Access.connects id) = true ∧ second.any (Access.connects id) = true

/-- Each call by itself would find its device taken off the list when it lists it. -/
def Parted (c : Crowd) : Prop := ∀ pending ∈ c.calls, Access.Single c.gateway pending

/-- As long as no two calls are about to connect the same device, each finds its device taken off
the list. -/
theorem Parted.step (h : c.Parted) (hcrossed : ¬ c.Crossed) (hstep : c.step? turn = some c') :
    c'.Parted := by
  intro pending hmem
  rcases step_cases hstep with
    ⟨call, rfl, rfl⟩ | ⟨k, x, rest, rfl, hk, -, rfl⟩ | ⟨move, rfl, hagrees, hcalls⟩
  · rcases List.mem_append.mp hmem with hmem | hnew
    · exact h pending hmem
    · rw [List.mem_singleton.mp hnew]
      exact Access.single_accesses c.gateway call
  · obtain ⟨j, hj⟩ := List.mem_iff_getElem?.mp hmem
    rw [List.getElem?_set] at hj
    split at hj
    next heq =>
      subst heq
      split at hj
      · cases hj
        exact (h _ (List.mem_of_getElem? hk)).next
      · cases hj
    next hne =>
      refine (h pending (List.mem_of_getElem? hj)).beside fun id hlists => ?_
      refine Bool.eq_false_iff.mpr fun hconnects => hcrossed ?_
      obtain ⟨y, hy, hlists⟩ := List.any_eq_true.mp hlists
      refine ⟨id, k, j, _, pending, hne, hk, hj, ?_, ?_⟩
      · rw [List.any_cons, hconnects, Bool.true_or]
      · exact List.any_eq_true.mpr ⟨y, hy, Access.connects_of_lists hlists⟩
  · rw [hcalls] at hmem
    exact (h pending hmem).agrees hagrees

/-- A call that finds the device taken off the list displaces nothing. -/
theorem Parted.displaced (h : c.Parted) (hstep : c.step? turn = some c') :
    c.note? Moment.displaced? turn = none := by
  rcases step_cases hstep with ⟨call, rfl, -⟩ | ⟨k, x, rest, rfl, hk, -, -⟩ | ⟨move, rfl, -, -⟩
  · rfl
  · rw [note?_displaced_access hk]
    cases x with
    | enlist id n =>
        have hsingle := h _ (List.mem_of_getElem? hk)
        refine hsingle.clear id (by simp [Access.lists]) fun hmem => ?_
        exact hsingle.front id (List.mem_of_ne_of_mem (by simp) hmem)
    | _ => rfl
  · exact note?_displaced_beside c move

/-- As long as no two calls connect one device at the same time, no task is displaced. -/
theorem displaced_of_not_crossed (h : c.Parted) (hrun : c.run? turns = some c')
    (hcrossed : ∀ before after c₁, turns = before ++ after → c.run? before = some c₁ →
      ¬ c₁.Crossed) : c.displaced turns = [] := by
  induction turns generalizing c with
  | nil => rfl
  | cons turn turns ih =>
      obtain ⟨c₁, hstep, hrun⟩ := Option.bind_eq_some_iff.mp hrun
      have hparted := h.step (hcrossed [] (turn :: turns) c rfl rfl) hstep
      rw [displaced, journal_cons hstep, h.displaced hstep]
      refine ih hparted hrun fun before after c₂ hturns hbefore => ?_
      refine hcrossed (turn :: before) after c₂ (by rw [hturns, List.cons_append]) ?_
      rw [run?, hstep]
      exact hbefore

/-! ## Who is left when all calls have returned -/

/-- **When all calls have returned**, however they have overlapped, the list has for every device
its live task and no device has another, if and only if no call has put its task in the place of one
that was listed.  That does not happen as long as no two calls connect one device at the same
time. -/
theorem live_iff_listed (config : Config) (capacity : Nat) (suppressRepeats : Bool)
    (turns : List Turn) (c : Crowd)
    (hrun : (start config capacity suppressRepeats).run? turns = some c)
    (hidle : c.isIdle = true) :
    ((∀ id n, c.gateway.LiveFor n id ↔ c.gateway.deviceTask? id = some n) ↔
        (start config capacity suppressRepeats).displaced turns = []) ∧
      ((∀ before after c₁, turns = before ++ after →
          (start config capacity suppressRepeats).run? before = some c₁ → ¬ c₁.Crossed) →
        (start config capacity suppressRepeats).displaced turns = []) := by
  have haccounted := (accounted_start config capacity suppressRepeats).run hrun
  rw [List.nil_append] at haccounted
  have hparted : (start config capacity suppressRepeats).Parted := fun pending hmem => nomatch hmem
  exact ⟨haccounted.listed_iff_nothing_lost hidle, displaced_of_not_crossed hparted hrun⟩

/-- A battery that is connected, and then connected again. -/
theorem live_iff_listed_reconnected :
    let config : Config :=
      { batteries := [{ id := "a", bleName := "", lowSocThreshold := none, topics := ["topic"]
                        pollIntervalMs := 1000 }] }
    let turns : List Turn :=
      .call (.connect "a") :: List.replicate 4 (.access 0)
        ++ .call (.connect "a") :: List.replicate 7 (.access 1)
    ∃ c, (start config 1 true).run? turns = some c ∧ c.isIdle = true ∧
      c.gateway.deviceTask? "a" = some 1 ∧
      ∀ id n, c.gateway.LiveFor n id ↔ c.gateway.deviceTask? id = some n := by
  intro config turns
  have hrun : ((start config 1 true).run? turns).any (fun c =>
      c.isIdle && decide (c.gateway.deviceTask? "a" = some 1)) = true := by decide +kernel
  obtain ⟨c, hreached, hseen⟩ := (Option.any_eq_true _ _).mp hrun
  obtain ⟨hidle, hlisted⟩ := Bool.and_eq_true_iff.mp hseen
  have hnone : (start config 1 true).displaced turns = [] := by decide +kernel
  exact ⟨c, hreached, hidle, of_decide_eq_true hlisted,
    (live_iff_listed config 1 true turns c hreached hidle).1.mpr hnone⟩

/-- Two calls connect a battery at the same time: neither finds a task to stop, both start one.
When they have returned, two tasks are live for the battery.  One of them is listed, and is stopped
when the gateway is shut down; the other stays live. -/
theorem two_live_after_overlapping_connects :
    let config : Config :=
      { batteries := [{ id := "a", bleName := "", lowSocThreshold := none, topics := ["topic"]
                        pollIntervalMs := 1000 }] }
    let connects : List Turn :=
      [.call (.connect "a"), .call (.connect "a"), .access 0, .access 1, .access 0, .access 1,
        .access 0, .access 1, .access 0, .access 1]
    let shutdown : List Turn := .call .shutdown :: List.replicate 4 (.access 2)
    ∃ c c', (start config 1 true).run? connects = some c ∧ c.isIdle = true ∧
      c.gateway.LiveFor 0 "a" ∧ c.gateway.LiveFor 1 "a" ∧ c.gateway.deviceTask? "a" = some 1 ∧
      c.run? shutdown = some c' ∧ c'.isIdle = true ∧ c'.gateway.deviceTask? "a" = none ∧
      c'.gateway.LiveFor 0 "a" ∧ ¬ c'.gateway.LiveFor 1 "a" := by
  intro config connects shutdown
  have hrun : ((start config 1 true).run? connects).any (fun c => c.isIdle &&
      decide (c.gateway.badge? 0 = some (true, "a") ∧ c.gateway.badge? 1 = some (true, "a") ∧
        c.gateway.deviceTask? "a" = some 1) && (c.run? shutdown).any fun c' => c'.isIdle &&
          decide (c'.gateway.deviceTask? "a" = none ∧ c'.gateway.badge? 0 = some (true, "a") ∧
            c'.gateway.badge? 1 ≠ some (true, "a"))) = true := by
    decide +kernel
  obtain ⟨c, hreached, hseen⟩ := (Option.any_eq_true _ _).mp hrun
  obtain ⟨hseen, hlater⟩ := Bool.and_eq_true_iff.mp hseen
  obtain ⟨hidle, hseen⟩ := Bool.and_eq_true_iff.mp hseen
  obtain ⟨hfirst, hsecond, hlisted⟩ := of_decide_eq_true hseen
  obtain ⟨c', hreached', hlater⟩ := (Option.any_eq_true _ _).mp hlater
  obtain ⟨hidle', hlater⟩ := Bool.and_eq_true_iff.mp hlater
  obtain ⟨hunlisted, hstill, hstopped⟩ := of_decide_eq_true hlater
  exact ⟨c, c', hreached, hidle, Gateway.liveFor_iff.mpr hfirst, Gateway.liveFor_iff.mpr hsecond,
    hlisted, hreached', hidle', hunlisted, Gateway.liveFor_iff.mpr hstill,
    mt Gateway.liveFor_iff.mp hstopped⟩

end Crowd

end SensorGateway
