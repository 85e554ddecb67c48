import SensorGateway.Bus.Publisher
import SensorGateway.Proofs.KeyMap

/-!
# What a publisher knows of the devices

A publisher's bindings and last payloads are changed by its owner: by binding, by detaching, and,
for the last payload of a device that is bound, by publishing.  Everything that goes on in the
queue, on its way in as well as on its way to the sink, leaves them alone.
-/

namespace SensorGateway.Publisher

/-- Two publishers know the same of the devices, and will number the next binding alike. -/
structure KnowsSame (p q : Publisher) : Prop where
  bindings : q.bindings = p.bindings
  lastKnown : q.lastKnown = p.lastKnown
  nextGeneration : q.nextGeneration = p.nextGeneration

/-- A publisher knows the same as itself. -/
theorem KnowsSame.refl (p : Publisher) : KnowsSame p p := ⟨rfl, rfl, rfl⟩

/-- A payload is known of bound devices only. -/
def KnowsBoundOnly (p : Publisher) : Prop :=
  ∀ id, (p.lastKnown.find? id).isSome → (p.bindings.find? id).isSome

/-- What is known of bound devices only stays so while bindings and last payloads do. -/
theorem KnowsSame.boundOnly {p q : Publisher} (h : KnowsSame p q) (hp : p.KnowsBoundOnly) :
    q.KnowsBoundOnly := by
  intro id hknown
  rw [h.lastKnown] at hknown
  rw [h.bindings]
  exact hp id hknown

/-! ## The queue -/

/-- What one publisher knows as another does, and that as a third, it knows as the third does. -/
theorem KnowsSame.trans {p q r : Publisher} (h : KnowsSame p q) (h' : KnowsSame q r) :
    KnowsSame p r :=
  ⟨h'.bindings.trans h.bindings, h'.lastKnown.trans h.lastKnown,
    h'.nextGeneration.trans h.nextGeneration⟩

/-- To try to queue an envelope changes nothing of what is known. -/
theorem knowsSame_trySend (p : Publisher) (e : Envelope) :
    KnowsSame p (p.trySend e).publisher := by
  unfold trySend
  split <;> exact ⟨rfl, rfl, rfl⟩

/-- Nor does it to try this for one topic after another. -/
theorem knowsSame_enqueue (p : Publisher) (envelope : String → Envelope) (topics : List String) :
    KnowsSame p (p.enqueue envelope topics).publisher := by
  induction topics generalizing p with
  | nil => exact .refl p
  | cons topic topics ih =>
      have hsend := p.knowsSame_trySend (envelope topic)
      unfold enqueue
      dsimp only
      split
      · exact hsend
      · exact hsend.trans (ih _)
      · exact hsend.trans (ih _)

/-- That a device is warned about is no knowledge of the device. -/
theorem knowsSame_noteUnbound (p : Publisher) (device : String) :
    KnowsSame p (p.noteUnbound device) := ⟨rfl, rfl, rfl⟩

/-- Whatever the sink answers, the publisher knows the same of the devices. -/
theorem knowsSame_settleOffer {σ : Type} (p : Publisher) (e : Envelope) (o : Offered σ) :
    KnowsSame p (p.settleOffer e o).publisher := by
  unfold settleOffer
  cases o.reception <;> exact ⟨rfl, rfl, rfl⟩

/-- A step of the dispatcher looks at the bindings and leaves them. -/
theorem knowsSame_step {σ : Type} [TopicSink σ] {p : Publisher} {sink : σ} {d : Dispatched σ}
    (h : p.step sink = some d) : KnowsSame p d.publisher := by
  unfold step at h
  split at h
  · cases h
  · dsimp only at h
    split at h
    · cases h
    · cases h
      exact knowsSame_settleOffer p _ _
  · split at h
    · cases h
    next e rest _ =>
      dsimp only at h
      split at h
      · cases h
        have hoffer :=
          knowsSame_settleOffer { p with queue := rest } e (TopicSink.offer sink e.delivery)
        exact ⟨hoffer.bindings, hoffer.lastKnown, hoffer.nextGeneration⟩
      · cases h
        exact ⟨rfl, rfl, rfl⟩

/-- The dispatcher may make as many steps as it likes. -/
theorem knowsSame_stepMany {σ : Type} [TopicSink σ] (p : Publisher) (sink : σ) (n : Nat) :
    KnowsSame p (p.stepMany sink n).publisher := by
  induction n generalizing p sink with
  | zero => exact .refl p
  | succ n ih =>
      unfold stepMany
      split
      · exact .refl p
      next d hstep => exact (knowsSame_step hstep).trans (ih d.publisher d.sink)

/-! ## Publishing, binding, detaching -/

/-- Publishing makes no binding and takes none away. -/
theorem bindings_publish (p : Publisher) (device : String) (record : Record) (now : Instant) :
    (p.publish device record now).publisher.bindings = p.bindings := by
  unfold publish
  split
  · exact (p.knowsSame_noteUnbound device).bindings
  · exact (knowsSame_enqueue { p with lastKnown := _ } _ _).bindings

/-- Publishing draws no number. -/
theorem nextGeneration_publish (p : Publisher) (device : String) (record : Record) (now : Instant) :
    (p.publish device record now).publisher.nextGeneration = p.nextGeneration := by
  unfold publish
  split
  · exact (p.knowsSame_noteUnbound device).nextGeneration
  · exact (knowsSame_enqueue { p with lastKnown := _ } _ _).nextGeneration

/-- The last payload of a bound device is the one that was published last. -/
theorem lastKnown_publish (p : Publisher) (device : String) (record : Record) (now : Instant) :
    (p.publish device record now).publisher.lastKnown =
      if (p.bindings.find? device).isSome then
        p.lastKnown.insert device (record.payload device now)
      else p.lastKnown := by
  unfold publish
  split
  next hnone =>
    rw [hnone]
    exact (p.knowsSame_noteUnbound device).lastKnown
  next b hb =>
    rw [(knowsSame_enqueue { p with lastKnown := _ } _ _).lastKnown, hb]
    rfl

/-- What a bound device publishes is its last payload. -/
theorem lastKnown_publish_self {p : Publisher} {device : String}
    (hbound : (p.bindings.find? device).isSome = true) (record : Record) (now : Instant) :
    (p.publish device record now).publisher.lastKnown.find? device
      = some (record.payload device now) := by
  rw [lastKnown_publish, if_pos hbound, KeyMap.find?_insert_self]

/-- The last payloads of the other devices are as before. -/
theorem lastKnown_publish_of_ne (p : Publisher) {device other : String} (h : other ≠ device)
    (record : Record) (now : Instant) :
    (p.publish device record now).publisher.lastKnown.find? other = p.lastKnown.find? other := by
  rw [lastKnown_publish]
  split
  · exact KeyMap.find?_insert_of_ne _ _ h
  · rfl

/-- Publishing keeps a payload only if the device is bound. -/
theorem boundOnly_publish {p : Publisher} (h : p.KnowsBoundOnly) (device : String) (record : Record)
    (now : Instant) : (p.publish device record now).publisher.KnowsBoundOnly := by
  unfold publish
  split
  · exact (p.knowsSame_noteUnbound device).boundOnly h
  next b hb =>
    refine (knowsSame_enqueue { p with lastKnown := _ } _ _).boundOnly fun id hknown => ?_
    by_cases hid : id = device
    · subst hid
      exact Option.isSome_of_mem hb
    · exact h id (by simpa only [KeyMap.find?_insert_of_ne _ _ hid] using hknown)

/-- Binding a device takes no binding away. -/
theorem boundOnly_bind {p : Publisher} (h : p.KnowsBoundOnly) (device : String)
    (topics : List String) : (p.bind device topics).KnowsBoundOnly := by
  intro id hknown
  by_cases hid : id = device
  · subst hid
    simp [bind]
  · simpa only [bind, KeyMap.find?_insert_of_ne _ _ hid] using h id hknown

/-- Detaching a device forgets its payload together with its binding. -/
theorem boundOnly_detach {p : Publisher} (h : p.KnowsBoundOnly) (device : String) :
    (p.detach device).KnowsBoundOnly := by
  intro id hknown
  by_cases hid : id = device
  · subst hid
    simp [detach] at hknown
  · simp only [detach, KeyMap.find?_erase_of_ne _ hid] at hknown ⊢
    exact h id hknown

end SensorGateway.Publisher
