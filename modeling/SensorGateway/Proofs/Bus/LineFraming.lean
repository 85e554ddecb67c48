import Mathlib.Data.List.Induction
import Mathlib.Data.List.Nodup
import SensorGateway.Bus.LineSink
import SensorGateway.Proofs.Json.OneLine

/-!
# Lines on their connections

A reader at the other end of a connection finds lines by their line feeds.  That works as long as
nothing follows a line that has been cut off.  `Network.Ledger` is what a network does with the
bytes, whatever it answers.  By one step for each delivery, what goes out falls into stretches, one
for each connection, and each of them ends with the first failure (`LineSink.Framed`).  Hence the
bytes on a connection (`LineSink.lines_framed`).
-/

namespace SensorGateway

/-! ## What goes out -/

/-- What is done on a network. -/
inductive Transfer
  | opened (c : Connection)
  /-- All of the bytes have gone out. -/
  | wrote (c : Connection) (bytes : Bytes)
  /-- Of the bytes that were to go out, this part has. -/
  | broke (c : Connection) (bytes part : Bytes)
  deriving DecidableEq

namespace Transfer

def connection : Transfer → Connection
  | opened c | wrote c _ | broke c _ _ => c

/-- The bytes that have gone out. -/
def sent : Transfer → Bytes
  | opened _ => []
  | wrote _ bytes => bytes
  | broke _ _ part => part

/-- The bytes that were to go out, if any. -/
def attempt? : Transfer → Option Bytes
  | opened _ => none
  | wrote _ bytes | broke _ bytes _ => some bytes

def isBroken : Transfer → Bool
  | broke _ _ _ => true
  | opened _ | wrote _ _ => false

/-- The bytes that have gone out over a connection. -/
def sentOver (c : Connection) (transfers : List Transfer) : Bytes :=
  (transfers.filter fun x => x.connection == c).flatMap sent

variable {c : Connection} {xs ys : List Transfer}

/-- What is sent over a connection later comes behind what was sent over it before. -/
theorem sentOver_append : sentOver c (xs ++ ys) = sentOver c xs ++ sentOver c ys := by
  rw [sentOver, List.filter_append, List.flatMap_append]
  rfl

/-- Nothing is sent over a connection by what happens on others. -/
theorem sentOver_eq_nil (h : ∀ x ∈ xs, x.connection ≠ c) : sentOver c xs = [] := by
  have hnone : (xs.filter fun x => x.connection == c) = [] :=
    List.filter_eq_nil_iff.mpr fun x hx heq => h x hx (beq_iff_eq.mp heq)
  rw [sentOver, hnone, List.flatMap_nil]

/-- If all of it happens on one connection, everything sent is sent over it. -/
theorem sentOver_of_forall (h : ∀ x ∈ xs, x.connection = c) : sentOver c xs = xs.flatMap sent := by
  have hall : (xs.filter fun x => x.connection == c) = xs :=
    List.filter_eq_self.mpr fun x hx => beq_iff_eq.mpr (h x hx)
  rw [sentOver, hall]

end Transfer

/-- What a network has done.  A connection is opened under a number that has not been used; a write
that fails has sent less than it should. -/
structure Network.Ledger (ν : Type) [Network ν] where
  transfers : ν → List Transfer
  refused : ∀ {n n' : ν} {address : String} {fault : IoFault},
    Network.connect n address = (.error fault, n') → transfers n' = transfers n
  opened : ∀ {n n' : ν} {address : String} {c : Connection},
    Network.connect n address = (.ok c, n') →
      transfers n' = transfers n ++ [.opened c] ∧ ∀ x ∈ transfers n, x.connection ≠ c
  setUp : ∀ {n n' : ν} {c : Connection} {outcome : Except IoFault Unit},
    Network.setNoDelay n c = (outcome, n') → transfers n' = transfers n
  wrote : ∀ {n n' : ν} {c : Connection} {bytes : Bytes},
    Network.write n c bytes = (.ok (), n') → transfers n' = transfers n ++ [.wrote c bytes]
  broke : ∀ {n n' : ν} {c : Connection} {bytes : Bytes} {fault : IoFault},
    Network.write n c bytes = (.error fault, n') →
      ∃ part, part <+: bytes ∧ part.length < bytes.length ∧
        transfers n' = transfers n ++ [.broke c bytes part]

namespace LineSink

variable {ν : Type} [Network ν]

/-- Publishes deliveries one after another; which of them have succeeded. -/
def publishAll (s : LineSink ν) : List Delivery → List (Delivery × Bool) × LineSink ν
  | [] => ([], s)
  | d :: ds =>
      let (outcome, s', _) := s.publish d
      let (calls, last) := s'.publishAll ds
      ((d, outcome.toBool) :: calls, last)

/-- A further delivery is published with the sink that the earlier ones have left. -/
theorem publishAll_concat (s : LineSink ν) (ds : List Delivery) (d : Delivery) :
    s.publishAll (ds ++ [d]) =
      let (calls, s') := s.publishAll ds
      let (outcome, last, _) := s'.publish d
      (calls ++ [(d, outcome.toBool)], last) := by
  induction ds generalizing s with
  | nil => rfl
  | cons first ds ih => simp only [List.cons_append, publishAll, ih]

/-- There is one call for each delivery, in their order. -/
theorem deliveries_publishAll (s : LineSink ν) (ds : List Delivery) :
    (s.publishAll ds).1.map Prod.fst = ds := by
  induction ds generalizing s with
  | nil => rfl
  | cons d ds ih => exact congrArg (d :: ·) (ih (s.publish d).2.1)

/-! ## One delivery -/

/-- A part of a line is less than the line. -/
def Cut (part : Bytes) (d : Delivery) : Prop :=
  part <+: line d ∧ part.length < (line d).length

/-- What may come of a delivery: whether it succeeds, what is done on the network, and which
connection is open before and after. -/
inductive Step (past : List Transfer) (d : Delivery) :
    Option Connection → Bool → List Transfer → Option Connection → Prop
  | sent (c : Connection) : Step past d (some c) true [.wrote c (line d)] (some c)
  | lost (c : Connection) {part : Bytes} : Cut part d →
      Step past d (some c) false [.broke c (line d) part] none
  | refused : Step past d none false [] none
  | unused {c : Connection} : (∀ x ∈ past, x.connection ≠ c) →
      Step past d none false [.opened c] none
  | opened {c : Connection} : (∀ x ∈ past, x.connection ≠ c) →
      Step past d none true [.opened c, .wrote c (line d)] (some c)
  | spoilt {c : Connection} {part : Bytes} : (∀ x ∈ past, x.connection ≠ c) → Cut part d →
      Step past d none false [.opened c, .broke c (line d) part] none

variable (ledger : Network.Ledger ν)

/-- A write sends the whole line and keeps the connection, or it sends a part of it and gives the
connection up. -/
theorem write_cases (s : LineSink ν) (c : Connection) (d : Delivery) :
    (∃ s', s.write c (line d) = (.ok (), s') ∧ s'.connection = some c ∧
        ledger.transfers s'.network = ledger.transfers s.network ++ [.wrote c (line d)]) ∨
      ∃ e part s', s.write c (line d) = (.error e, s') ∧ s'.connection = none ∧ Cut part d ∧
        ledger.transfers s'.network = ledger.transfers s.network ++ [.broke c (line d) part] := by
  unfold write
  cases hwrite : Network.write s.network c (line d) with
  | mk outcome network =>
      cases outcome with
      | ok _ => exact Or.inl ⟨_, rfl, rfl, ledger.wrote hwrite⟩
      | error fault =>
          obtain ⟨part, hpart, hless, htransfers⟩ := ledger.broke hwrite
          exact Or.inr ⟨.io fault, part, _, rfl, rfl, ⟨hpart, hless⟩, htransfers⟩

/-- A connection is opened and of use, opened and of no use, or not opened. -/
theorem connect_cases (s : LineSink ν) :
    (∃ c s', s.connect = (.ok c, s') ∧ (∀ x ∈ ledger.transfers s.network, x.connection ≠ c) ∧
        ledger.transfers s'.network = ledger.transfers s.network ++ [.opened c]) ∨
      ∃ e s', s.connect = (.error e, s') ∧ s'.connection = s.connection ∧
        ((∃ c, (∀ x ∈ ledger.transfers s.network, x.connection ≠ c) ∧
            ledger.transfers s'.network = ledger.transfers s.network ++ [.opened c]) ∨
          ledger.transfers s'.network = ledger.transfers s.network) := by
  unfold connect
  cases hconnect : Network.connect s.network s.address with
  | mk outcome network =>
      cases outcome with
      | error fault => exact Or.inr ⟨.io fault, _, rfl, rfl, Or.inr (ledger.refused hconnect)⟩
      | ok c =>
          obtain ⟨htransfers, hfresh⟩ := ledger.opened hconnect
          cases hsetUp : Network.setNoDelay network c with
          | mk outcome network' =>
              have hopened := (ledger.setUp hsetUp).trans htransfers
              cases outcome with
              | ok _ =>
                  simp only [hsetUp]
                  exact Or.inl ⟨c, _, rfl, hfresh, hopened⟩
              | error fault =>
                  simp only [hsetUp]
                  exact Or.inr ⟨.io fault, _, rfl, rfl, Or.inl ⟨c, hfresh, hopened⟩⟩

section Step

variable {past new : List Transfer} {d : Delivery} {before after : Option Connection} {ok : Bool}

/-- A delivery succeeds if its whole line has gone out. -/
theorem Step.ok_iff (h : Step past d before ok new after) :
    ok = true ↔ ∃ c, .wrote c (line d) ∈ new := by
  cases h with
  | sent c => exact ⟨fun _ => ⟨c, List.mem_singleton_self _⟩, fun _ => rfl⟩
  | @opened c =>
      have hwrote : .wrote c (line d) ∈ [Transfer.opened c, .wrote c (line d)] :=
        List.mem_cons_of_mem _ (List.mem_singleton_self _)
      exact ⟨fun _ => ⟨c, hwrote⟩, fun _ => rfl⟩
  | lost | refused | unused | spoilt => simp

/-- Its line is all that is tried to be sent, and once at most. -/
theorem Step.attempts (h : Step past d before ok new after) :
    new.filterMap Transfer.attempt? <+: [line d] := by
  cases h with
  | sent | lost | opened | spoilt => exact List.prefix_rfl
  | refused | unused => exact List.nil_prefix

/-- A connection is opened if none is open, and none is open after a failure. -/
theorem Step.reopens (h : Step past d before ok new after) :
    (ok = false → after = none) ∧
      (before = none → ∀ x ∈ new.head?, ∃ c, x = .opened c ∧ ∀ y ∈ past, y.connection ≠ c) := by
  cases h with
  | sent | lost => simp
  | refused => simp
  | unused hfresh | opened hfresh | spoilt hfresh => simpa using hfresh

end Step

/-- What comes of a delivery. -/
def Comes (s : LineSink ν) (d : Delivery) (ok : Bool) (s' : LineSink ν) : Prop :=
  ∃ new, ledger.transfers s'.network = ledger.transfers s.network ++ new ∧
    Step (ledger.transfers s.network) d s.connection ok new s'.connection

variable {ledger} {s s' : LineSink ν} {d : Delivery}

/-- What comes of a delivery is told by what the sink and the network were before and are after it.
-/
theorem Comes.of_publish {outcome : Except Error Unit} {logs : List Log.Entry}
    {before after : Option Connection} {new : List Transfer}
    (hpublish : s.publish d = (outcome, s', logs))
    (htransfers : ledger.transfers s'.network = ledger.transfers s.network ++ new)
    (hbefore : s.connection = before) (hafter : s'.connection = after)
    (hstep : Step (ledger.transfers s.network) d before outcome.toBool new after) :
    Comes ledger s d (s.publish d).1.toBool (s.publish d).2.1 := by
  rw [hpublish]
  exact ⟨new, htransfers, hbefore ▸ hafter ▸ hstep⟩

/-- Over an open connection the line is written, and nothing else is done. -/
theorem publish_of_open {c : Connection} {outcome : Except Error Unit}
    (hopen : s.connection = some c) (hwrite : s.write c (line d) = (outcome, s')) :
    s.publish d = (outcome, s', []) := by
  simp only [publish, hopen, hwrite]

/-- Without a connection one is opened first. -/
theorem publish_of_connect {c : Connection} {s₁ : LineSink ν} {outcome : Except Error Unit}
    (hclosed : s.connection = none) (hconnect : s.connect = (.ok c, s₁))
    (hwrite : s₁.write c (line d) = (outcome, s')) :
    s.publish d = (outcome, s', [s₁.opened]) := by
  simp only [publish, hclosed, hconnect, hwrite]

/-- If none can be opened, nothing is written. -/
theorem publish_of_refused {e : Error} (hclosed : s.connection = none)
    (hconnect : s.connect = (.error e, s')) : s.publish d = (.error e, s', []) := by
  simp only [publish, hclosed, hconnect]

/-- There is nothing else that may come of a delivery. -/
theorem comes_publish (ledger : Network.Ledger ν) (s : LineSink ν) (d : Delivery) :
    Comes ledger s d (s.publish d).1.toBool (s.publish d).2.1 := by
  cases hconnection : s.connection with
  | some c =>
      rcases write_cases ledger s c d with
        ⟨s', hwrite, hopen, htransfers⟩ | ⟨e, part, s', hwrite, hclosed, hcut, htransfers⟩
      · have hpublish := publish_of_open hconnection hwrite
        exact .of_publish hpublish htransfers hconnection hopen (.sent c)
      · have hpublish := publish_of_open hconnection hwrite
        exact .of_publish hpublish htransfers hconnection hclosed (.lost c hcut)
  | none =>
      rcases connect_cases ledger s with
        ⟨c, s₁, hconnect, hfresh, hopened⟩ | ⟨e, s', hconnect, hsame, htransfers⟩
      · rcases write_cases ledger s₁ c d with
          ⟨s', hwrite, hopen, htransfers⟩ | ⟨e, part, s', hwrite, hclosed, hcut, htransfers⟩
        · have hpublish := publish_of_connect hconnection hconnect hwrite
          rw [hopened, List.append_assoc] at htransfers
          exact .of_publish hpublish htransfers hconnection hopen (.opened hfresh)
        · have hpublish := publish_of_connect hconnection hconnect hwrite
          rw [hopened, List.append_assoc] at htransfers
          exact .of_publish hpublish htransfers hconnection hclosed (.spoilt hfresh hcut)
      · have hpublish := publish_of_refused (d := d) hconnection hconnect
        have hclosed := hsame.trans hconnection
        rcases htransfers with ⟨c, hfresh, hopened⟩ | hnothing
        · exact .of_publish hpublish hopened hconnection hclosed (.unused hfresh)
        · have hnone := hnothing.trans (List.append_nil _).symm
          exact .of_publish hpublish hnone hconnection hclosed .refused

end LineSink

/-! ## Stretches -/

open LineSink in
/-- Some deliveries, of which the last has failed and the others have gone out before it. -/
inductive Stretch
  /-- No connection was to be had. -/
  | refused (d : Delivery)
  /-- The connection was of no use. -/
  | unused (c : Connection) (d : Delivery)
  /-- All but the last one have gone out over the connection, and part of that. -/
  | broken (c : Connection) (sent : List Delivery) (d : Delivery) (part : Bytes) (cut : Cut part d)

namespace LineSink

/-- What is done to send deliveries over a new connection. -/
def opening (c : Connection) (sent : List Delivery) : List Transfer :=
  .opened c :: sent.map fun d => .wrote c (line d)

end LineSink

namespace Stretch

/-- The connection that is opened for the stretch. -/
def connection? : Stretch → Option Connection
  | refused _ => none
  | unused c _ | broken c _ _ _ _ => some c

/-- The deliveries, and which of them have succeeded. -/
def calls : Stretch → List (Delivery × Bool)
  | refused d | unused _ d => [(d, false)]
  | broken _ sent d _ _ => sent.map (·, true) ++ [(d, false)]

/-- What is done on the network. -/
def transfers : Stretch → List Transfer
  | refused _ => []
  | unused c _ => [.opened c]
  | broken c sent d part _ => LineSink.opening c sent ++ [.broke c (LineSink.line d) part]

/-- The deliveries that have gone out. -/
def sent : Stretch → List Delivery
  | refused _ | unused _ _ => []
  | broken _ sent _ _ _ => sent

/-- What has gone out of the delivery that failed. -/
def part : Stretch → Bytes
  | refused _ | unused _ _ => []
  | broken _ _ _ part _ => part

/-- The calls of a stretch succeed but for the last one, whose line is cut off. -/
theorem calls_eq (σ : Stretch) :
    ∃ d, σ.calls = σ.sent.map (·, true) ++ [(d, false)] ∧
      (σ.part = [] ∨ LineSink.Cut σ.part d) := by
  cases σ with
  | refused d | unused c d => exact ⟨d, rfl, Or.inl rfl⟩
  | broken c sent d part cut => exact ⟨d, rfl, Or.inr cut⟩

end Stretch

namespace LineSink

variable {c : Connection} {sent : List Delivery}

/-- What happens on a connection that is opened happens on that connection. -/
theorem connection_of_mem_opening : ∀ x ∈ opening c sent, x.connection = c := by
  intro x hx
  rcases List.mem_cons.mp hx with rfl | hx
  · rfl
  · obtain ⟨d, -, rfl⟩ := List.mem_map.mp hx
    rfl

/-- What happens on an open connection happens on that connection. -/
theorem connection_of_mem_open {c? : Option Connection} {x : Transfer}
    (hx : x ∈ c?.toList.flatMap fun c => opening c sent) : c? = some x.connection := by
  obtain ⟨c, hc, hx⟩ := List.mem_flatMap.mp hx
  rw [connection_of_mem_opening x hx]
  exact Option.mem_toList.mp hc

/-- A connection is not broken while lines are written to it. -/
theorem isBroken_of_mem_opening : ∀ x ∈ opening c sent, x.isBroken = false := by
  intro x hx
  rcases List.mem_cons.mp hx with rfl | hx
  · rfl
  · obtain ⟨d, -, rfl⟩ := List.mem_map.mp hx
    rfl

/-- Over a connection go the lines of the deliveries written to it. -/
theorem sent_opening : (opening c sent).flatMap Transfer.sent = sent.flatMap line := by
  rw [opening, List.flatMap_cons, List.flatMap_map]
  rfl

end LineSink

namespace Stretch

/-- What happens in a stretch happens on its connection. -/
theorem connection_of_mem_transfers {σ : Stretch} :
    ∀ x ∈ σ.transfers, σ.connection? = some x.connection := by
  intro x hx
  cases σ with
  | refused d => cases hx
  | unused c d =>
      obtain rfl := List.mem_singleton.mp hx
      rfl
  | broken c sent d part cut =>
      rcases List.mem_append.mp hx with hx | hx
      · exact congrArg some (LineSink.connection_of_mem_opening x hx).symm
      · obtain rfl := List.mem_singleton.mp hx
        rfl

/-- The connection of a stretch is opened in it. -/
theorem opened_mem_transfers {σ : Stretch} {c : Connection} (hc : σ.connection? = some c) :
    .opened c ∈ σ.transfers := by
  cases σ with
  | refused d => cases hc
  | unused c' d =>
      obtain rfl := Option.some.inj hc
      exact List.mem_singleton_self _
  | broken c' sent d part cut =>
      obtain rfl := Option.some.inj hc
      exact List.mem_append_left _ List.mem_cons_self

/-- Over the connection of a stretch go the lines of its deliveries, and a part of the last one. -/
theorem sentOver_transfers {σ : Stretch} {c : Connection} (hc : σ.connection? = some c) :
    Transfer.sentOver c σ.transfers = σ.sent.flatMap LineSink.line ++ σ.part := by
  have hown : ∀ x ∈ σ.transfers, x.connection = c := by
    intro x hx
    exact Option.some.inj ((connection_of_mem_transfers x hx).symm.trans hc)
  rw [Transfer.sentOver_of_forall hown]
  cases σ with
  | refused d | unused c d => rfl
  | broken c sent d part cut =>
      rw [transfers, List.flatMap_append, LineSink.sent_opening, List.flatMap_singleton]
      rfl

/-- Over another connection nothing is sent. -/
theorem sentOver_flatMap_eq_nil {σs : List Stretch} {c : Connection}
    (hc : c ∉ σs.filterMap connection?) : Transfer.sentOver c (σs.flatMap transfers) = [] := by
  refine Transfer.sentOver_eq_nil fun x hx heq => hc ?_
  obtain ⟨σ, hσ, hx⟩ := List.mem_flatMap.mp hx
  exact List.mem_filterMap.mpr ⟨σ, hσ, heq ▸ connection_of_mem_transfers x hx⟩

/-- Nothing comes after a broken line of a stretch. -/
theorem pairwise_transfers (σ : Stretch) :
    σ.transfers.Pairwise fun x y => x.isBroken = true → y.connection ≠ x.connection := by
  cases σ with
  | refused d => exact List.Pairwise.nil
  | unused c d => exact List.pairwise_singleton _ _
  | broken c sent d part cut =>
      refine List.pairwise_append.mpr ⟨?_, List.pairwise_singleton _ _, fun x hx y _ hbroken => ?_⟩
      · refine List.pairwise_of_forall_mem_list fun x hx y _ hbroken => ?_
        cases (LineSink.isBroken_of_mem_opening x hx).symm.trans hbroken
      · cases (LineSink.isBroken_of_mem_opening x hx).symm.trans hbroken

end Stretch

namespace LineSink

variable {ν : Type}

/-- The connections that have been opened, the one that is open last. -/
def connections (s : LineSink ν) (ended : List Stretch) : List Connection :=
  ended.filterMap Stretch.connection? ++ s.connection.toList

/-- What happens belongs to a stretch that has ended, or to the connection that is open. -/
theorem mem_connections {s : LineSink ν} {ended : List Stretch} {current : List Delivery}
    {x : Transfer} (hx : x ∈ ended.flatMap Stretch.transfers ++
      s.connection.toList.flatMap fun c => opening c current) :
    x.connection ∈ s.connections ended := by
  rcases List.mem_append.mp hx with hx | hx
  · obtain ⟨σ, hσ, hx⟩ := List.mem_flatMap.mp hx
    have hc := Stretch.connection_of_mem_transfers x hx
    exact List.mem_append_left _ (List.mem_filterMap.mpr ⟨σ, hσ, hc⟩)
  · exact List.mem_append_right _ (Option.mem_toList.mpr (connection_of_mem_open hx))

variable [Network ν] (ledger : Network.Ledger ν)

/-- The deliveries fall into stretches that have ended and those that have gone out over the
connection that is open. -/
structure Framed (past : List Transfer) (s : LineSink ν) (calls : List (Delivery × Bool))
    (ended : List Stretch) (current : List Delivery) : Prop where
  calls : calls = ended.flatMap Stretch.calls ++ current.map (·, true)
  transfers : ledger.transfers s.network = past ++ (ended.flatMap Stretch.transfers ++
    s.connection.toList.flatMap fun c => opening c current)
  /-- A connection stays open only after a success. -/
  idle : s.connection = none ↔ current = []
  /-- No two stretches have a connection in common. -/
  distinct : (s.connections ended).Nodup
  fresh : ∀ c ∈ s.connections ended, ∀ x ∈ past, x.connection ≠ c

variable {ledger} {past : List Transfer} {s s' : LineSink ν} {calls : List (Delivery × Bool)}
  {ended : List Stretch} {current : List Delivery} {d : Delivery} {ok : Bool}

/-- A connection that is used for nothing yet is none of those that have been opened. -/
theorem Framed.distinct_new (h : Framed ledger past s calls ended current)
    (hclosed : s.connection = none) {c : Connection}
    (hunused : ∀ x ∈ ledger.transfers s.network, x.connection ≠ c) :
    (ended.filterMap Stretch.connection? ++ [c]).Nodup ∧ ∀ x ∈ past, x.connection ≠ c := by
  have hdistinct := h.distinct
  rw [connections, hclosed, Option.toList_none, List.append_nil] at hdistinct
  rw [h.transfers] at hunused
  refine ⟨?_, fun x hx => hunused x (List.mem_append_left _ hx)⟩
  refine List.concat_eq_append ▸ hdistinct.concat fun hc => ?_
  obtain ⟨σ, hσ, hc⟩ := List.mem_filterMap.mp hc
  have hopened : .opened c ∈ ended.flatMap Stretch.transfers :=
    List.mem_flatMap.mpr ⟨σ, hσ, Stretch.opened_mem_transfers hc⟩
  exact hunused (.opened c) (List.mem_append_right _ (List.mem_append_left _ hopened)) rfl

/-- A failure ends the stretch of the connection that was open, or makes one of its own. -/
theorem Framed.fails (h : Framed ledger past s calls ended current) (σ : Stretch)
    {new : List Transfer}
    (htransfers : ledger.transfers s'.network = ledger.transfers s.network ++ new)
    (hclosed : s'.connection = none) (hcalls : σ.calls = current.map (·, true) ++ [(d, false)])
    (hnew : σ.transfers = (s.connection.toList.flatMap fun c => opening c current) ++ new)
    (hdistinct : (ended.filterMap Stretch.connection? ++ σ.connection?.toList).Nodup)
    (hfresh : ∀ c ∈ σ.connection?, ∀ x ∈ past, x.connection ≠ c) :
    Framed ledger past s' (calls ++ [(d, false)]) (ended ++ [σ]) [] := by
  have hconnections : s'.connections (ended ++ [σ]) =
      ended.filterMap Stretch.connection? ++ σ.connection?.toList := by
    rw [connections, hclosed, List.filterMap_append, Option.toList_none, List.append_nil,
      List.filterMap_cons, List.filterMap_nil]
    cases σ.connection? <;> rfl
  refine ⟨?_, ?_, ⟨fun _ => rfl, fun _ => hclosed⟩, hconnections ▸ hdistinct, ?_⟩
  · rw [h.calls, List.flatMap_append, List.flatMap_singleton, hcalls, List.map_nil, List.append_nil,
      List.append_assoc]
  · rw [htransfers, h.transfers, hclosed, List.flatMap_append, List.flatMap_singleton, hnew]
    simp only [List.append_assoc, Option.toList_none, List.flatMap_nil, List.append_nil]
  · rw [hconnections]
    intro c hc
    rcases List.mem_append.mp hc with hc | hc
    · exact h.fresh c (List.mem_append_left _ hc)
    · exact hfresh c (Option.mem_toList.mp hc)

/-- A success over the connection that is open goes on with its stretch. -/
theorem Framed.goesOn (h : Framed ledger past s calls ended current) {c : Connection}
    (hbefore : s.connection = some c) (hafter : s'.connection = some c)
    (htransfers : ledger.transfers s'.network =
      ledger.transfers s.network ++ [.wrote c (line d)]) :
    Framed ledger past s' (calls ++ [(d, true)]) ended (current ++ [d]) := by
  have hconnections : s'.connections ended = s.connections ended := by
    rw [connections, connections, hafter, hbefore]
  refine ⟨?_, ?_, ?_, hconnections ▸ h.distinct, hconnections ▸ h.fresh⟩
  · rw [h.calls, List.map_append, List.append_assoc]
    rfl
  · rw [htransfers, h.transfers, hbefore, hafter]
    simp [opening]
  · simp [hafter]

/-- A success over a new connection begins the stretch of this connection. -/
theorem Framed.begins (h : Framed ledger past s calls ended []) {c : Connection}
    (hbefore : s.connection = none) (hafter : s'.connection = some c)
    (hunused : ∀ x ∈ ledger.transfers s.network, x.connection ≠ c)
    (htransfers : ledger.transfers s'.network =
      ledger.transfers s.network ++ [.opened c, .wrote c (line d)]) :
    Framed ledger past s' (calls ++ [(d, true)]) ended [d] := by
  obtain ⟨hdistinct, hpast⟩ := h.distinct_new hbefore hunused
  have hconnections : s'.connections ended = ended.filterMap Stretch.connection? ++ [c] := by
    rw [connections, hafter, Option.toList_some]
  refine ⟨?_, ?_, ?_, hconnections ▸ hdistinct, ?_⟩
  · rw [h.calls, List.map_nil, List.append_nil]
    rfl
  · rw [htransfers, h.transfers, hbefore, hafter, List.append_assoc, List.append_assoc]
    rfl
  · simp [hafter]
  · rw [hconnections]
    intro c' hc'
    rcases List.mem_append.mp hc' with hc' | hc'
    · exact h.fresh c' (List.mem_append_left _ hc')
    · obtain rfl := List.mem_singleton.mp hc'
      exact hpast

/-- A delivery goes on with the stretch of the connection that is open, ends it, or begins one. -/
theorem Framed.step (h : Framed ledger past s calls ended current)
    (hcomes : Comes ledger s d ok s') :
    ∃ ended' current', Framed ledger past s' (calls ++ [(d, ok)]) ended' current' := by
  obtain ⟨new, htransfers, hstep⟩ := hcomes
  generalize hbefore : s.connection = before at hstep
  generalize hafter : s'.connection = after at hstep
  cases hstep with
  | sent c => exact ⟨ended, current ++ [d], h.goesOn hbefore hafter htransfers⟩
  | @opened c hunused =>
      obtain rfl := h.idle.mp hbefore
      exact ⟨ended, [d], h.begins hbefore hafter hunused htransfers⟩
  | @lost c part hcut =>
      have hdistinct := h.distinct
      have hc : c ∈ s.connections ended := by simp [connections, hbefore]
      rw [connections, hbefore] at hdistinct
      refine ⟨_, _, h.fails (.broken c current d part hcut) htransfers hafter rfl ?_ hdistinct ?_⟩
      · rw [hbefore]
        simp [Stretch.transfers]
      · rintro _ ⟨⟩
        exact h.fresh c hc
  | refused =>
      obtain rfl := h.idle.mp hbefore
      have hdistinct := h.distinct
      rw [connections, hbefore] at hdistinct
      refine ⟨_, _, h.fails (.refused d) htransfers hafter rfl ?_ hdistinct nofun⟩
      rw [hbefore]
      rfl
  | @unused c hunused =>
      obtain rfl := h.idle.mp hbefore
      obtain ⟨hdistinct, hpast⟩ := h.distinct_new hbefore hunused
      refine ⟨_, _, h.fails (.unused c d) htransfers hafter rfl ?_ hdistinct ?_⟩
      · rw [hbefore]
        rfl
      · rintro _ ⟨⟩
        exact hpast
  | @spoilt c part hunused hcut =>
      obtain rfl := h.idle.mp hbefore
      obtain ⟨hdistinct, hpast⟩ := h.distinct_new hbefore hunused
      refine ⟨_, _, h.fails (.broken c [] d part hcut) htransfers hafter rfl ?_ hdistinct ?_⟩
      · rw [hbefore]
        rfl
      · rintro _ ⟨⟩
        exact hpast

/-- What a sink publishes is cut into stretches, each with a connection of its own. -/
theorem framed_publishAll (ledger : Network.Ledger ν) (s : LineSink ν)
    (hclosed : s.connection = none) (ds : List Delivery) :
    ∃ ended current, Framed ledger (ledger.transfers s.network) (s.publishAll ds).2
      (s.publishAll ds).1 ended current := by
  induction ds using List.reverseRecOn with
  | nil =>
      refine ⟨[], [], rfl, ?_, ⟨fun _ => rfl, fun _ => hclosed⟩, ?_, ?_⟩
      · simp [publishAll, hclosed]
      · simp [connections, publishAll, hclosed]
      · simp [connections, publishAll, hclosed]
  | append_singleton ds d ih =>
      obtain ⟨ended, current, h⟩ := ih
      rw [publishAll_concat]
      exact h.step (comes_publish ledger _ d)

/-- What there is of lines on a connection: those of deliveries in a row that have succeeded, and
part of the next one, which has failed, or nothing. -/
def Lined (calls : List (Delivery × Bool)) (bytes : Bytes) : Prop :=
  ∃ (before : List (Delivery × Bool)) (sent : List Delivery) (after : List (Delivery × Bool))
      (part : Bytes), calls = before ++ sent.map (·, true) ++ after ∧
    bytes = sent.flatMap line ++ part ∧
      (part = [] ∨ ∃ d rest, after = (d, false) :: rest ∧ Cut part d)

/-- Nothing has gone out over a connection before it was opened. -/
theorem Framed.sentOver_eq (h : Framed ledger past s calls ended current) {c : Connection}
    (hc : c ∈ s.connections ended) :
    Transfer.sentOver c (ledger.transfers s.network) =
      Transfer.sentOver c (ended.flatMap Stretch.transfers) ++
        Transfer.sentOver c (s.connection.toList.flatMap fun c => opening c current) := by
  have hpast : Transfer.sentOver c past = [] := Transfer.sentOver_eq_nil (h.fresh c hc)
  rw [h.transfers, Transfer.sentOver_append, hpast, List.nil_append, Transfer.sentOver_append]

/-- The lines on a connection of a stretch that has ended. -/
theorem Framed.lined_of_ended (h : Framed ledger past s calls ended current) {σ : Stretch}
    {c : Connection} (hσ : σ ∈ ended) (hc : σ.connection? = some c) :
    Lined calls (Transfer.sentOver c (ledger.transfers s.network)) := by
  have hmem : c ∈ s.connections ended :=
    List.mem_append_left _ (List.mem_filterMap.mpr ⟨σ, hσ, hc⟩)
  have hsent := h.sentOver_eq hmem
  have hdistinct := h.distinct
  obtain ⟨earlier, later, rfl⟩ := List.append_of_mem hσ
  -- The stretches before and after it, and the open one, have other connections.
  rw [connections, List.filterMap_append, List.filterMap_cons_some hc, List.append_assoc,
    List.cons_append, List.nodup_middle, List.nodup_cons, List.mem_append, List.mem_append, not_or,
    not_or] at hdistinct
  obtain ⟨⟨hearlier, hlater, hopen⟩, -⟩ := hdistinct
  have hnone :
      Transfer.sentOver c (s.connection.toList.flatMap fun c => opening c current) = [] := by
    refine Transfer.sentOver_eq_nil fun x hx heq => hopen ?_
    exact Option.mem_toList.mpr (heq ▸ connection_of_mem_open hx)
  obtain ⟨d, hcalls, hpart⟩ := σ.calls_eq
  rw [hsent, h.calls]
  refine ⟨earlier.flatMap Stretch.calls, σ.sent,
    (d, false) :: (later.flatMap Stretch.calls ++ current.map (·, true)), σ.part, ?_, ?_, ?_⟩
  · rw [List.flatMap_append, List.flatMap_cons, hcalls]
    simp only [List.append_assoc, List.cons_append, List.nil_append]
  · rw [List.flatMap_append, List.flatMap_cons, Transfer.sentOver_append, Transfer.sentOver_append,
      Stretch.sentOver_flatMap_eq_nil hearlier, Stretch.sentOver_flatMap_eq_nil hlater,
      Stretch.sentOver_transfers hc, hnone, List.nil_append, List.append_nil, List.append_nil]
  · exact hpart.imp_right fun hcut => ⟨d, _, rfl, hcut⟩

/-- The lines on the connection that is open. -/
theorem Framed.lined_of_open (h : Framed ledger past s calls ended current) {c : Connection}
    (hopen : s.connection = some c) :
    Lined calls (Transfer.sentOver c (ledger.transfers s.network)) := by
  have hmem : c ∈ s.connections ended := by simp [connections, hopen]
  have hdistinct := h.distinct
  rw [connections, hopen] at hdistinct
  have hended : c ∉ ended.filterMap Stretch.connection? := fun hc =>
    (List.nodup_append.mp hdistinct).2.2 c hc c (List.mem_singleton_self c) rfl
  rw [h.sentOver_eq hmem, h.calls]
  refine ⟨ended.flatMap Stretch.calls, current, [], [], ?_, ?_, Or.inl rfl⟩
  · rw [List.append_nil]
  · rw [Stretch.sentOver_flatMap_eq_nil hended, hopen, Option.toList_some, List.flatMap_singleton,
      Transfer.sentOver_of_forall connection_of_mem_opening, sent_opening, List.nil_append,
      List.append_nil]

/-- What goes over a connection are lines of deliveries, whose calls succeed, and perhaps the part
of one whose call fails. -/
theorem Framed.lined (h : Framed ledger past s calls ended current) {c : Connection}
    (hc : c ∈ s.connections ended) :
    Lined calls (Transfer.sentOver c (ledger.transfers s.network)) := by
  rcases List.mem_append.mp hc with hc | hc
  · obtain ⟨σ, hσ, hσc⟩ := List.mem_filterMap.mp hc
    exact h.lined_of_ended hσ hσc
  · exact h.lined_of_open (Option.mem_toList.mp hc)

/-- Nothing follows a line that has been cut off. -/
theorem Framed.pairwise (h : Framed ledger past s calls ended current) :
    (ended.flatMap Stretch.transfers ++
      s.connection.toList.flatMap fun c => opening c current).Pairwise
        fun x y => x.isBroken = true → y.connection ≠ x.connection := by
  obtain ⟨hended, -, hapart⟩ := List.nodup_append.mp h.distinct
  refine List.pairwise_append.mpr ⟨?_, ?_, fun x hx y hy _ heq => ?_⟩
  · refine List.pairwise_flatMap.mpr ⟨fun σ _ => σ.pairwise_transfers, ?_⟩
    -- Connections that follow one another are different.
    have hdistinct := List.pairwise_filterMap.mp hended
    refine hdistinct.imp fun {σ τ} hdistinct x hx y hy _ heq => ?_
    exact hdistinct _ (Stretch.connection_of_mem_transfers x hx) _
      (Stretch.connection_of_mem_transfers y hy) heq.symm
  · refine List.pairwise_of_forall_mem_list fun x hx y _ hbroken => ?_
    obtain ⟨c, -, hx⟩ := List.mem_flatMap.mp hx
    cases (isBroken_of_mem_opening x hx).symm.trans hbroken
  · obtain ⟨σ, hσ, hx⟩ := List.mem_flatMap.mp hx
    have hmem : x.connection ∈ ended.filterMap Stretch.connection? :=
      List.mem_filterMap.mpr ⟨σ, hσ, Stretch.connection_of_mem_transfers x hx⟩
    exact hapart _ hmem _ (Option.mem_toList.mpr (connection_of_mem_open hy)) heq.symm

/-! ## One line for one delivery -/

/-- A line ends with a newline, and has none inside. -/
theorem line_eq (d : Delivery) :
    line d = d.text.toUTF8.toList ++ [10] ∧ (10 : UInt8) ∉ d.text.toUTF8.toList := by
  have honeLine : OneLine d.text := d.text_eq ▸ Json.oneLine_text _
  refine ⟨?_, honeLine.linefeed_notMem_toUTF8⟩
  rw [line, toList_toUTF8, toList_toUTF8, String.toList_append, List.flatMap_append]
  rfl

/-- **Lines stay whole.**  Whatever the network answers, the bytes on each connection are the lines
of deliveries in a row that succeeded, and then perhaps part of one that failed, after which the
connection is not used again.  A delivery succeeds if its whole line has gone out, which is tried
once at most.  After a failure a new connection is opened, or none.  A line is the JSON text of a
delivery, with a line feed at its end and nowhere else. -/
theorem lines_framed (ledger : Network.Ledger ν) (address : String) (network : ν)
    (ds : List Delivery) :
    let calls := ((new address network).publishAll ds).1
    let sink := ((new address network).publishAll ds).2
    calls.map Prod.fst = ds ∧
      (∃ transfers, ledger.transfers sink.network = ledger.transfers network ++ transfers ∧
        (∀ x ∈ transfers,
          Lined calls (Transfer.sentOver x.connection (ledger.transfers sink.network))) ∧
        transfers.Pairwise fun x y => x.isBroken = true → y.connection ≠ x.connection) ∧
      (∀ (s : LineSink ν) (d : Delivery), ∃ transfers,
        ledger.transfers (s.publish d).2.1.network = ledger.transfers s.network ++ transfers ∧
          ((s.publish d).1.toBool = true ↔ ∃ c, .wrote c (line d) ∈ transfers) ∧
          transfers.filterMap Transfer.attempt? <+: [line d] ∧
          ((s.publish d).1.toBool = false → (s.publish d).2.1.connection = none) ∧
          (s.connection = none → ∀ x ∈ transfers.head?,
            ∃ c, x = .opened c ∧ ∀ y ∈ ledger.transfers s.network, y.connection ≠ c)) ∧
      ∀ d : Delivery, line d = d.text.toUTF8.toList ++ [10] ∧ (10 : UInt8) ∉ d.text.toUTF8.toList ∧
        d.text = (Json.object [("topic", .string d.topic), ("payload", d.payload)]).text := by
  intro calls sink
  obtain ⟨ended, current, h⟩ := framed_publishAll ledger (new address network) rfl ds
  refine ⟨deliveries_publishAll _ ds, ⟨_, h.transfers, fun x hx => ?_, h.pairwise⟩, fun s d => ?_,
    fun d => ?_⟩
  · exact h.lined (mem_connections hx)
  · obtain ⟨transfers, htransfers, hstep⟩ := comes_publish ledger s d
    obtain ⟨hclosed, hopened⟩ := hstep.reopens
    exact ⟨transfers, htransfers, hstep.ok_iff, hstep.attempts, hclosed, hopened⟩
  · obtain ⟨hline, hlinefeed⟩ := line_eq d
    exact ⟨hline, hlinefeed, d.text_eq⟩

end LineSink

/-! ## A network to try things out with -/

/-- A network that fails when it is told to, and remembers what it has done. -/
structure Rehearsal where
  /-- For each thing that is asked of it, where it fails: after so many bytes, if bytes are to be
  written; nothing if it succeeds. -/
  failures : List (Option Nat)
  transfers : List Transfer := []

namespace Rehearsal

/-- Where it fails next. -/
def failure? (n : Rehearsal) : Option Nat := n.failures.head?.join

/-- The network after it has done something. -/
def next (n : Rehearsal) (transfers : List Transfer) : Rehearsal where
  failures := n.failures.tail
  transfers := n.transfers ++ transfers

/-- A connection of which nothing is known. -/
def unused (transfers : List Transfer) : Connection :=
  transfers.foldr (fun x c => max (x.connection + 1) c) 0

/-- A number that has not been used is greater than all that have. -/
theorem lt_unused {transfers : List Transfer} :
    ∀ x ∈ transfers, x.connection < unused transfers := by
  induction transfers with
  | nil => exact nofun
  | cons y transfers ih =>
      intro x hx
      rcases List.mem_cons.mp hx with rfl | hx
      · exact Nat.le_max_left _ _
      · exact Nat.lt_of_lt_of_le (ih x hx) (Nat.le_max_right _ _)

instance : Network Rehearsal where
  connect n _ :=
    match n.failure? with
    | some _ => (.error .unreachable, n.next [])
    | none => (.ok (unused n.transfers), n.next [.opened (unused n.transfers)])
  setNoDelay n _ :=
    match n.failure? with
    | some _ => (.error .brokenPipe, n.next [])
    | none => (.ok (), n.next [])
  write n c bytes :=
    match n.failure? with
    | some k =>
        if k < bytes.length then (.error .brokenPipe, n.next [.broke c bytes (bytes.take k)])
        else (.ok (), n.next [.wrote c bytes])
    | none => (.ok (), n.next [.wrote c bytes])

def ledger : Network.Ledger Rehearsal where
  transfers := Rehearsal.transfers
  refused {n n' address fault} h := by
    unfold Network.connect instNetwork at h
    dsimp only at h
    split at h
    · cases h
      exact List.append_nil _
    · cases h
  opened {n n' address c} h := by
    unfold Network.connect instNetwork at h
    dsimp only at h
    split at h
    · cases h
    · cases h
      exact ⟨rfl, fun x hx => Nat.ne_of_lt (lt_unused x hx)⟩
  setUp {n n' c outcome} h := by
    unfold Network.setNoDelay instNetwork at h
    dsimp only at h
    split at h <;> cases h <;> exact List.append_nil _
  wrote {n n' c bytes} h := by
    unfold Network.write instNetwork at h
    dsimp only at h
    split at h
    · split at h
      · cases h
      · cases h
        rfl
    · cases h
      rfl
  broke {n n' c bytes fault} h := by
    unfold Network.write instNetwork at h
    dsimp only at h
    split at h
    next k _ =>
      split at h
      next hk =>
        cases h
        refine ⟨bytes.take k, List.take_prefix _ _, ?_, rfl⟩
        exact Nat.lt_of_le_of_lt (List.length_take_le _ _) hk
      · cases h
    · cases h

end Rehearsal

namespace LineSink

/-- The second of four lines is cut off, and there is no connection for the third. -/
theorem lines_framed_cut_off :
    let delivery (n : Int) : Delivery := { topic := "bms", payload := .integer n }
    let network : Rehearsal := { failures := [none, none, none, some 9, some 0] }
    let published :=
      (new "bus" network).publishAll [delivery 1, delivery 2, delivery 3, delivery 4]
    let transfers := published.2.network.transfers
    published.1.map Prod.snd = [true, false, false, true] ∧
      Transfer.sentOver 0 transfers = line (delivery 1) ++ (line (delivery 2)).take 9 ∧
      Transfer.sentOver 1 transfers = line (delivery 4) ∧
      Lined published.1 (Transfer.sentOver 0 transfers) ∧
      transfers.Pairwise fun x y => x.isBroken = true → y.connection ≠ x.connection := by
  intro delivery network published transfers
  obtain ⟨-, ⟨new, hnew, hlined, hpairwise⟩, -⟩ := lines_framed Rehearsal.ledger "bus" network
    [delivery 1, delivery 2, delivery 3, delivery 4]
  have hsame : transfers = new := hnew
  have hopened : .opened 0 ∈ transfers := by decide +kernel
  refine ⟨?_, ?_, ?_, ?_, hsame ▸ hpairwise⟩
  · decide +kernel
  · decide +kernel
  · decide +kernel
  · exact hlined (.opened 0) (hsame ▸ hopened)

end LineSink

end SensorGateway
