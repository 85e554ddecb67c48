import Mathlib.Data.List.Basic
import SensorGateway.Proofs.Bluetooth.Grammar

/-!
# What the deeds of a link tell

What is asked for, what is received and what is handed over can be read off the deeds, and so can
the end of a session (`Closing`).  Each property here is one that two stretches of deeds have
together if both have it: so it is enough to show it of one reaction.
-/

namespace SensorGateway.Bluetooth

namespace Deed

/-- What is asked of a device. -/
def written? : Deed → Option Bytes
  | write _ _ bytes _ => some bytes
  | _ => none

/-- The chunk that is handed over. -/
def handed? : Deed → Option Bytes
  | hand chunk _ => some chunk
  | _ => none

/-- The chunk that is received. -/
def received? : Deed → Option Bytes
  | hear (.notice (.data chunk)) => some chunk
  | _ => none

def isTick : Deed → Bool
  | hear .tick => true
  | _ => false

/-- Whether a session ends with this. -/
def isLast : Deed → Bool
  | subscribe _ _ succeeded | write _ _ _ succeeded => !succeeded
  | hand _ taken => !taken
  | hear (.notice (.failed _)) | hear (.notice .ended) => true
  | hear .tick | hear (.notice (.data _)) | check _ _ | connect _ _ | other => false

/-- Whether this is a link's own. -/
def IsOf (l : Link) : Deed → Prop
  | check device _ | connect device _ => device = l.device
  | subscribe device characteristic _ => device = l.device ∧ characteristic = l.notifyFrom
  | write device characteristic _ _ => device = l.device ∧ characteristic = l.writeTo
  | hear _ | hand _ _ => True
  | other => False

end Deed

/-- The deeds with which a session ends, and its result. -/
inductive Closing (l : Link) : Except LinkError Unit → List Deed → Prop
  | refused (chunk : Bytes) : Closing l (.ok ()) [.hand chunk false]
  | unwritten (fault : RadioFault) (bytes : Bytes) :
      Closing l (.error (.radio fault)) [.write l.device l.writeTo bytes false]
  | unreached (fault : RadioFault) :
      Closing l (.error (.radio fault)) (List.replicate 3 (.connect l.device false))
  | unsubscribed (fault : RadioFault) :
      Closing l (.error (.radio fault)) [.subscribe l.device l.notifyFrom false]
  | broken (fault : RadioFault) :
      Closing l (.error (.radio fault)) [.hear (.notice (.failed fault))]
  | ended : Closing l (.error .endOfStream) [.hear (.notice .ended)]

/-- Nothing has happened with which a session ends. -/
def Open (l : Link) (deeds : List Deed) : Prop :=
  ∀ result closing, Closing l result closing → ¬ closing <:+: deeds

/-- The last thing that has happened is one with which a session ends. -/
def Closed (l : Link) (result : Except LinkError Unit) (deeds : List Deed) : Prop :=
  Open l deeds.dropLast ∧ ∃ before closing, deeds = before ++ closing ∧ Closing l result closing

variable {l : Link} {xs ys deeds : List Deed} {result : Except LinkError Unit}

/-- A single last deed, or three failures to connect. -/
theorem Closing.cases_last {closing : List Deed} (h : Closing l result closing) :
    (∃ d, closing = [d] ∧ d.isLast = true) ∨
      closing = List.replicate 3 (.connect l.device false) := by
  cases h with
  | unreached fault => exact Or.inr rfl
  | refused | unwritten | unsubscribed | broken | ended => exact Or.inl ⟨_, rfl, rfl⟩

/-- Deeds of which none ends a session leave it open, if there are not three failures to connect. -/
theorem open_of_count (hlast : ∀ d ∈ deeds, d.isLast = false)
    (hcount : deeds.count (.connect l.device false) < 3) : Open l deeds := by
  intro result closing hclosing hinfix
  rcases hclosing.cases_last with ⟨d, rfl, hd⟩ | rfl
  · have hmem : d ∈ deeds := hinfix.subset (List.mem_singleton_self d)
    cases hd.symm.trans (hlast d hmem)
  · have hle := hinfix.sublist.count_le (.connect l.device false)
    rw [List.count_replicate_self] at hle
    omega

/-- Three failures to connect would have to follow each other in one of the two. -/
theorem Open.append (hxs : Open l xs) (hys : Open l ys)
    (hlast : ∀ d ∈ xs.getLast?, d ≠ .connect l.device false) : Open l (xs ++ ys) := by
  intro result closing hclosing hinfix
  rcases List.infix_append_iff.mp hinfix with hinfix | hinfix | ⟨front, back, rfl, hfront, hback⟩
  · exact hxs result closing hclosing hinfix
  · exact hys result closing hclosing hinfix
  · rcases List.eq_nil_or_concat front with rfl | ⟨front, d, rfl⟩
    · exact hys result _ hclosing hback.isInfix
    · rcases hclosing.cases_last with ⟨d', hd', -⟩ | hreplicate
      · have hnil : back = [] := by
          rcases List.append_eq_singleton_iff.mp hd' with ⟨h, -⟩ | ⟨-, h⟩
          · simp at h
          · exact h
        subst hnil
        rw [List.append_nil] at hclosing
        exact hxs result _ hclosing hfront.isInfix
      · obtain ⟨earlier, rfl⟩ := hfront
        have hd : d ∈ List.replicate 3 (Deed.connect l.device false) := by
          rw [← hreplicate]
          simp
        exact hlast d (by simp) (List.eq_of_mem_replicate hd)

/-- A session ends with something, -/
theorem Closing.ne_nil {closing : List Deed} (h : Closing l result closing) : closing ≠ [] := by
  cases h <;> exact List.cons_ne_nil _ _

/-- so there are deeds when it has ended. -/
theorem Closed.ne_nil (h : Closed l result deeds) : deeds ≠ [] := by
  obtain ⟨-, before, closing, rfl, hclosing⟩ := h
  exact List.append_ne_nil_of_right_ne_nil _ hclosing.ne_nil

/-- A session may end after deeds that leave it open. -/
theorem Closed.prepend (hxs : Open l xs) (hlast : ∀ d ∈ xs.getLast?, d ≠ .connect l.device false)
    (hys : Closed l result ys) : Closed l result (xs ++ ys) := by
  have hne := hys.ne_nil
  obtain ⟨hopen, before, closing, rfl, hclosing⟩ := hys
  refine ⟨?_, xs ++ before, closing, (List.append_assoc _ _ _).symm, hclosing⟩
  rw [List.dropLast_append_of_ne_nil hne]
  exact hxs.append hopen hlast

/-- A session may end at once. -/
theorem Closing.closed (h : Closing l result deeds) : Closed l result deeds := by
  refine ⟨?_, [], deeds, rfl, h⟩
  rcases h.cases_last with ⟨d, rfl, -⟩ | rfl
  · exact open_of_count nofun (Nat.zero_lt_succ 2)
  · refine open_of_count (fun d hd => ?_) ?_
    · rw [List.eq_of_mem_replicate ((List.dropLast_sublist _).subset hd)]
      rfl
    · rw [List.dropLast_replicate, List.count_replicate_self]
      omega

/-- Nothing comes after the end. -/
theorem Closed.eq_nil_of_closing {result' : Except LinkError Unit}
    {before closing after : List Deed} (h : Closed l result (before ++ closing ++ after))
    (hclosing : Closing l result' closing) :
    after = [] := by
  rcases List.eq_nil_or_concat after with rfl | ⟨after, d, rfl⟩
  · rfl
  · refine absurd ?_ (h.1 result' closing hclosing)
    rw [List.concat_eq_append, ← List.append_assoc, List.dropLast_concat]
    exact ⟨before, after, rfl⟩

/-! ## What is always true of the deeds of a link -/

/-- What is written is asked of a device that has just been reached. -/
def Led (l : Link) (deeds : List Deed) : Prop :=
  ∀ before after device characteristic bytes ok,
    deeds = before ++ .write device characteristic bytes ok :: after →
      ∃ approach, approach <:+ before ∧ Approach l.device true approach

/-- What is written in two stretches of deeds is led up to if it is in each of them. -/
theorem Led.append (hxs : Led l xs) (hys : Led l ys) : Led l (xs ++ ys) := by
  intro before after device characteristic bytes ok heq
  rcases List.append_eq_append_iff.mp heq with ⟨middle, rfl, hmiddle⟩ | ⟨middle, rfl, hmiddle⟩
  · obtain ⟨approach, hsuffix, happroach⟩ := hys _ _ _ _ _ _ hmiddle
    exact ⟨approach, hsuffix.trans (List.suffix_append xs middle), happroach⟩
  · cases middle with
    | nil =>
        obtain ⟨approach, hsuffix, happroach⟩ := hys [] after _ _ _ _ hmiddle.symm
        exact ⟨approach, hsuffix.trans List.nil_suffix, happroach⟩
    | cons d middle =>
        obtain ⟨rfl, -⟩ := List.cons_eq_cons.mp hmiddle
        exact hxs before middle _ _ _ _ rfl

/-- Deeds that write nothing have nothing to lead up to. -/
theorem led_of_not_written (h : ∀ d ∈ deeds, d.written? = none) : Led l deeds := by
  intro before after device characteristic bytes ok heq
  have hwrite : Deed.write device characteristic bytes ok ∈ deeds := by
    rw [heq]
    exact List.mem_append_right before List.mem_cons_self
  cases h _ hwrite

/-- What follows when a device has been reached is led up to. -/
theorem led_concat (h : ∀ d ∈ deeds, d.written? = none) (happroach : Approach l.device true deeds)
    (d : Deed) : Led l (deeds ++ [d]) := by
  intro before after device characteristic bytes ok heq
  rcases List.append_eq_append_iff.mp heq with ⟨middle, rfl, hmiddle⟩ | ⟨middle, rfl, hmiddle⟩
  · have hnil : middle = [] := by
      rcases List.singleton_eq_append_iff.mp hmiddle with ⟨h, -⟩ | ⟨-, h⟩
      · exact h
      · cases h
    rw [hnil, List.append_nil]
    exact ⟨deeds, List.suffix_rfl, happroach⟩
  · cases middle with
    | nil =>
        rw [List.append_nil] at happroach
        exact ⟨before, List.suffix_rfl, happroach⟩
    | cons d' middle =>
        obtain ⟨rfl, -⟩ := List.cons_eq_cons.mp hmiddle
        cases h _ (List.mem_append_right before List.mem_cons_self)

/-- What is common to all that a link does. -/
structure Sound (l : Link) (deeds : List Deed) : Prop where
  led : Led l deeds
  own : ∀ d ∈ deeds, d.IsOf l
  handed : deeds.filterMap Deed.handed? = deeds.filterMap Deed.received?

/-- Two stretches of deeds are sound together if each of them is. -/
theorem Sound.append (hxs : Sound l xs) (hys : Sound l ys) : Sound l (xs ++ ys) where
  led := hxs.led.append hys.led
  own d hd := (List.mem_append.mp hd).elim (hxs.own d) (hys.own d)
  handed := by rw [List.filterMap_append, List.filterMap_append, hxs.handed, hys.handed]

/-- What has been done if the session has not ended. -/
structure Ongoing (l : Link) (deeds : List Deed) : Prop where
  unended : Open l deeds
  /-- So that whatever comes, three failures to connect are not made up of what comes and this. -/
  last : ∀ d ∈ deeds.getLast?, d ≠ .connect l.device false

/-- A session that is open after two stretches of deeds each is open after both. -/
theorem Ongoing.append (hxs : Ongoing l xs) (hys : Ongoing l ys) : Ongoing l (xs ++ ys) where
  unended := hxs.unended.append hys.unended hxs.last
  last := by
    intro d hd
    rw [List.getLast?_append] at hd
    rcases Option.or_eq_some_iff.mp hd with h | ⟨-, h⟩
    · exact hys.last d h
    · exact hxs.last d h

/-- A session that is open ends with deeds that end it. -/
theorem Ongoing.closed (hxs : Ongoing l xs) (hys : Closed l result ys) :
    Closed l result (xs ++ ys) :=
  hys.prepend hxs.unended hxs.last

/-- After one deed that ends nothing the session is open. -/
theorem ongoing_single {d : Deed} (hlast : d.isLast = false) (hne : d ≠ .connect l.device false) :
    Ongoing l [d] where
  unended := by
    refine open_of_count (fun d' hd' => ?_) ?_
    · rw [List.mem_singleton.mp hd']
      exact hlast
    · rw [List.count_singleton]
      split <;> omega
  last := by
    intro d' hd'
    cases hd'
    exact hne

/-- A single deed of the link's own that writes nothing is sound, unless it only receives a chunk or
only hands one over. -/
theorem sound_single {d : Deed} (hown : d.IsOf l) (hwritten : d.written? = none)
    (hhanded : d.handed? = d.received?) : Sound l [d] where
  led := led_of_not_written fun d' hd' => by rwa [List.mem_singleton.mp hd']
  own d' hd' := by rwa [List.mem_singleton.mp hd']
  handed := List.filterMap_congr fun d' hd' => by rwa [List.mem_singleton.mp hd']

/-- What is received is handed over as it is. -/
theorem sound_handing (chunk : Bytes) (taken : Bool) :
    Sound l [.hear (.notice (.data chunk)), .hand chunk taken] where
  led := led_of_not_written fun d hd => by
    rcases List.mem_pair.mp hd with rfl | rfl <;> rfl
  own d hd := by rcases List.mem_pair.mp hd with rfl | rfl <;> trivial
  handed := rfl

end SensorGateway.Bluetooth
