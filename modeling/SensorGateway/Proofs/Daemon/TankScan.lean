import SensorGateway.Bluetooth.Scripted
import SensorGateway.Bus.Sinks
import SensorGateway.Daemon.TankScan
import SensorGateway.Proofs.Config.Validation
import SensorGateway.Proofs.Gateway.Settling
import SensorGateway.Proofs.Tank.Broadcast

/-!
# Each broadcast reaches its tank

An advertisement belongs to a tank if it is the sensors' manufacturer's, is long enough to have an
address and has the tank's (`TankConfig.Broadcasts`).  Then its data are put into the queue of the
tank's task, which is started if there is none, and into no other (`Gateway.Hands`); and an
advertisement that belongs to no tank changes nothing.

For this a gateway must have been made with an accepted configuration, and the task that is listed
for a device must go on (`Gateway.Serves`).  Both hold however the calls of a gateway overlap, and
hearing advertisements keeps them.  So a scan hears all that is sighted, one after another
(`Station.HearsAll`).
-/

namespace SensorGateway

open Bluetooth

/-- The advertisement is one of the tank's sensor, with these data. -/
structure TankConfig.Broadcasts (t : TankConfig) (s : Bluetooth.Sighting) (data : Bytes) : Prop where
  sent : s.manufacturer = some { company := sensorCompany, payload := data }
  long : 8 ≤ data.length
  addressed : ∃ m : MacSuffix, (data.drop 5).take 3 = [m.first, m.second, m.third] ∧
    MacSuffix.normalize? t.macSuffix = some m.text

/-- To be a tank's broadcast is to have an address that is read from its suffix, too. -/
theorem TankConfig.broadcasts_iff {t : TankConfig} {s : Bluetooth.Sighting} {data : Bytes} :
    t.Broadcasts s data ↔ ∃ m, s.manufacturer = some { company := sensorCompany, payload := data } ∧
      TankReading.peekMacSuffix? data = some m ∧ MacSuffix.parse? t.macSuffix = some m := by
  constructor
  · rintro ⟨hsent, -, m, hbytes, hsuffix⟩
    exact ⟨m, hsent, TankReading.peekMacSuffix?_eq_some.mpr hbytes,
      MacSuffix.normalize?_eq_some_text.mp hsuffix⟩
  · rintro ⟨m, hsent, hpeek, hparse⟩
    exact ⟨hsent, TankReading.length_of_peekMacSuffix? hpeek, m,
      TankReading.peekMacSuffix?_eq_some.mp hpeek, MacSuffix.normalize?_eq_some_text.mpr hparse⟩

namespace Gateway

/-- The outcome of handing data to the tank's task, which has this number and was so before. -/
structure Hands (g : Gateway) (t : TankConfig) (data : Bytes) (n : Nat) (before : Task)
    (o : Outcome Bool) : Prop where
  /-- It is the task that the tank had, or a new one if it had none. -/
  origin : (g.deviceTask? t.id = some n ∧ g.task? n = some before) ∨
    (g.deviceTask? t.id = none ∧ n = g.tasks.length ∧ before = .new (g.newSession (.tank t)))
  own : before.session.device = t.id
  goes : before.live = true ∧ before.phase ≠ .ended
  listed : o.gateway.deviceTask? t.id = some n
  queued : o.gateway.task? n = some (before.offered data)
  taken : o.value = !before.isFull
  otherTasks : ∀ m ≠ n, o.gateway.task? m = g.task? m
  otherDevices : ∀ id ≠ t.id, o.gateway.deviceTask? id = g.deviceTask? id

variable {g : Gateway} {config : Config} {t : TankConfig} {data : Bytes} {n : Nat}

/-! ## Handing data to a tank -/

/-- The data are handed to the tank that is found by their address. -/
theorem Serves.hands (s : g.Serves config) {suffix : String}
    (hfound : config.tankBySuffix? suffix = some t) (hdevice : config.device? t.id = some (.tank t))
    (data : Bytes) :
    (∃ n before, g.Hands t data n before (g.routeAdvertisement suffix data)) ∧
      (g.routeAdvertisement suffix data).gateway.Serves config := by
  rw [← s.config] at hfound hdevice
  cases hn : g.deviceTask? t.id with
  | some n =>
      obtain ⟨before, hbefore, hown, hlive, hphase⟩ := s.exists_task hn
      obtain ⟨htaken, hqueued, hothers⟩ := push_of_not_ended hbefore hphase data
      have hagrees := g.agrees_push n data
      rw [routeAdvertisement_of_listed hfound hn]
      exact
        ⟨⟨n, before,
          { origin := .inl ⟨hn, hbefore⟩
            own := hown
            goes := ⟨hlive, hphase⟩
            listed := (hagrees.deviceTask? t.id).trans hn
            queued := hqueued
            taken := htaken
            otherTasks := hothers
            otherDevices := fun id _ => hagrees.deviceTask? id }⟩,
          s.of_agrees hagrees (s.going.push n data)⟩
  | none =>
      let installed := g.install t.id (.tank t)
      have hbefore : installed.task? g.tasks.length = some (.new (g.newSession (.tank t))) :=
        (g.task?_install _ _ _).trans (if_pos rfl)
      obtain ⟨htaken, hqueued, hothers⟩ := push_of_not_ended hbefore Phase.noConfusion data
      have hagrees := installed.agrees_push g.tasks.length data
      have hserves : installed.Serves config := s.install hdevice
      rw [routeAdvertisement_of_unlisted hfound hdevice hn]
      exact
        ⟨⟨g.tasks.length, .new (g.newSession (.tank t)),
          { origin := .inr ⟨hn, rfl, rfl⟩
            own := rfl
            goes := ⟨rfl, Phase.noConfusion⟩
            listed := (hagrees.deviceTask? t.id).trans
              ((g.deviceTask?_install _ _ _).trans (if_pos rfl))
            queued := hqueued
            taken := htaken
            otherTasks := fun m hm =>
              (hothers m hm).trans ((g.task?_install _ _ _).trans (if_neg hm))
            otherDevices := fun id hid => (hagrees.deviceTask? id).trans
              ((g.deviceTask?_install _ _ _).trans (if_neg hid)) }⟩,
          hserves.of_agrees hagrees (hserves.going.push _ data)⟩

/-! ## Hearing an advertisement -/

/-- To hear a broadcast is to route its data by the address in them. -/
theorem hear_of_broadcast {s : Bluetooth.Sighting} {m : MacSuffix}
    (hsent : s.manufacturer = some { company := sensorCompany, payload := data })
    (hpeek : TankReading.peekMacSuffix? data = some m) :
    g.hear s = g.routeAdvertisement m.text data := by
  simp [hear, hsent, ManufacturerData.tankAddress?, hpeek]

/-- An advertisement is a broadcast with an address, or it is left alone. -/
theorem hear_cases (g : Gateway) (s : Bluetooth.Sighting) :
    (∃ data m, s.manufacturer = some { company := sensorCompany, payload := data } ∧
        TankReading.peekMacSuffix? data = some m) ∨
      g.hear s = { value := false, gateway := g, logs := [] } := by
  cases hsent : s.manufacturer with
  | none => exact Or.inr (by simp [hear, hsent])
  | some sent =>
      obtain ⟨company, data⟩ := sent
      by_cases hcompany : company = sensorCompany
      · subst hcompany
        cases hpeek : TankReading.peekMacSuffix? data with
        | none => exact Or.inr (by simp [hear, hsent, ManufacturerData.tankAddress?, hpeek])
        | some m => exact Or.inl ⟨data, m, rfl, hpeek⟩
      · exact Or.inr (by simp [hear, hsent, ManufacturerData.tankAddress?, hcompany])

/-- What is heard goes to the tank whose broadcast it is, or nowhere. -/
theorem Serves.hear (h : g.Serves config) (valid : config.validate = .ok ())
    (s : Bluetooth.Sighting) :
    (∀ t ∈ config.tanks, ∀ data, t.Broadcasts s data →
        ∃ n before, g.Hands t data n before (g.hear s)) ∧
      ((∀ t ∈ config.tanks, ∀ data, ¬ t.Broadcasts s data) →
        g.hear s = { value := false, gateway := g, logs := [] }) ∧
      (g.hear s).gateway.Serves config := by
  have hhands {t : TankConfig} {data : Bytes} (ht : t ∈ config.tanks) (hs : t.Broadcasts s data) :
      (∃ n before, g.Hands t data n before (g.hear s)) ∧ (g.hear s).gateway.Serves config := by
    obtain ⟨m, hsent, hpeek, hparse⟩ := TankConfig.broadcasts_iff.mp hs
    rw [hear_of_broadcast hsent hpeek]
    exact h.hands ((Config.tankBySuffix?_text_eq_some valid).mpr ⟨ht, hparse⟩)
      (Config.device?_tank valid ht) data
  have hleft (hnone : ∀ t ∈ config.tanks, ∀ data, ¬ t.Broadcasts s data) :
      g.hear s = { value := false, gateway := g, logs := [] } := by
    rcases g.hear_cases s with ⟨data, m, hsent, hpeek⟩ | hleft
    · have hunknown : config.tankBySuffix? m.text = none := by
        refine Option.eq_none_iff_forall_ne_some.mpr fun t hfound => ?_
        obtain ⟨ht, hparse⟩ := (Config.tankBySuffix?_text_eq_some valid).mp hfound
        exact hnone t ht data (TankConfig.broadcasts_iff.mpr ⟨m, hsent, hpeek, hparse⟩)
      rw [hear_of_broadcast hsent hpeek]
      simp only [routeAdvertisement, h.config, hunknown]
    · exact hleft
  refine ⟨fun t ht data hs => (hhands ht hs).1, hleft, ?_⟩
  by_cases hany : ∃ t ∈ config.tanks, ∃ data, t.Broadcasts s data
  · obtain ⟨t, ht, data, hs⟩ := hany
    exact (hhands ht hs).2
  · have hnone : ∀ t ∈ config.tanks, ∀ data, ¬ t.Broadcasts s data :=
      fun t ht data hs => hany ⟨t, ht, data, hs⟩
    rw [hleft hnone]
    exact h

end Gateway

/-! ## Hearing one advertisement after another -/

namespace Station

variable {ρ σ : Type} [TopicSink σ] {config : Config}

/-- An advertisement is heard: its data are handed to the tank whose broadcast it is, or it is left
alone, and then the tasks run. -/
structure Hears (config : Config) (st : Station ρ σ) (s : Bluetooth.Sighting) (st' : Station ρ σ) :
    Prop where
  hands : ∀ t ∈ config.tanks, ∀ data, t.Broadcasts s data →
    ∃ n before, st.gateway.Hands t data n before (st.gateway.hear s)
  leaves : (∀ t ∈ config.tanks, ∀ data, ¬ t.Broadcasts s data) →
    st.gateway.hear s = { value := false, gateway := st.gateway, logs := [] }
  rests : st' = (settle.run ((onGateway (·.hear s)).run st).2).2

/-- Advertisements are heard one after another, and nothing else is done. -/
inductive HearsAll (config : Config) :
    Station ρ σ → List Bluetooth.Sighting → Station ρ σ → Prop
  | nil (st : Station ρ σ) : HearsAll config st [] st
  | cons {st st' st'' : Station ρ σ} {s : Bluetooth.Sighting} {rest : List Bluetooth.Sighting} :
      Hears config st s st' → HearsAll config st' rest st'' → HearsAll config st (s :: rest) st''

/-- Each advertisement is heard in its turn, after those before it. -/
theorem HearsAll.split {st st' : Station ρ σ} {before after : List Bluetooth.Sighting}
    {s : Bluetooth.Sighting} (h : HearsAll config st (before ++ s :: after) st') :
    ∃ here there, HearsAll config st before here ∧ Hears config here s there ∧
      HearsAll config there after st' := by
  induction before generalizing st with
  | nil =>
      cases h with
      | cons hs hafter => exact ⟨st, _, .nil st, hs, hafter⟩
  | cons s₀ before ih =>
      cases h with
      | cons hs₀ hrest =>
          obtain ⟨here, there, hbefore, hs, hafter⟩ := ih hrest
          exact ⟨here, there, .cons hs₀ hbefore, hs, hafter⟩

/-- A station whose gateway serves hears all advertisements, whatever they are. -/
theorem hearsAll_hearAll (valid : config.validate = .ok ()) (st : Station ρ σ)
    (h : st.gateway.Serves config) (sightings : List Bluetooth.Sighting) :
    HearsAll config st sightings ((hearAll sightings).run st).2 := by
  induction sightings generalizing st with
  | nil => exact .nil st
  | cons s sightings ih =>
      obtain ⟨hhands, hleaves, hserves⟩ := h.hear valid s
      exact .cons ⟨hhands, hleaves, rfl⟩ (ih _ (hserves.settle st.sink st.time))

/-- When the radio can be used and has scanned, the station hears what has been sighted, and says
whether the scan has ended. -/
theorem run_scanTanks [Radio ρ] {st : Station ρ σ} {radio radio' : ρ} {scan : Bluetooth.Scan}
    (hready : Radio.ready.run st.radio = (.ok (), radio))
    (hscan : (Radio.scan []).run radio = (.ok scan, radio')) :
    scanTanks.run st =
      (if scan.ended then some .endOfScan else none,
        ((hearAll scan.sightings).run { st with radio := radio' }).2) := by
  have hready' : (Radio.ready : Tried (Station ρ σ) Unit) st = (.ok (), { st with radio }) := by
    change within _ _ _ st = _
    rw [within, hready]
  have hscan' : (Radio.scan [] : Tried (Station ρ σ) Bluetooth.Scan) { st with radio } =
      (.ok scan, { st with radio := radio' }) := by
    change within _ _ _ _ = _
    rw [within, hscan]
  simp only [scanTanks, StateT.run, bind, StateT.bind, hready', hscan']
  rfl

end Station

/-- **Each broadcast reaches its tank, and nothing else.**  Two entries of an accepted configuration
never claim the same broadcast.  A scan, whatever has been asked of the gateway before it, hears one
advertisement after another: each is handed to the tank whose broadcast it is, and if there is none,
nothing changes (`Station.Hears`).  And a reading that a session tells of the data has the address
that the configuration gives the tank. -/
theorem Station.broadcast_reaches_its_tank {config : Config} (valid : config.validate = .ok ()) :
    (∀ {i j : Nat} {t t' : TankConfig} {s : Bluetooth.Sighting} {data data' : Bytes},
        config.tanks[i]? = some t → config.tanks[j]? = some t' →
        t.Broadcasts s data → t'.Broadcasts s data' → i = j) ∧
      (∀ {capacity : Nat} {suppressRepeats : Bool} {turns : List Turn} {c : Crowd},
        (Crowd.start config capacity suppressRepeats).run? turns = some c →
        ∀ {ρ σ : Type} [TopicSink σ] (st : Station ρ σ), st.gateway = c.gateway →
          (∀ sightings, HearsAll config st sightings ((hearAll sightings).run st).2) ∧
          ∀ [Radio ρ] {radio radio' : ρ} {scan : Bluetooth.Scan},
            Radio.ready.run st.radio = (.ok (), radio) →
            (Radio.scan []).run radio = (.ok scan, radio') →
              HearsAll config { st with radio := radio' } scan.sightings (scanTanks.run st).2) ∧
      ∀ {t : TankConfig} {s : Bluetooth.Sighting} {data : Bytes}, t.Broadcasts s data →
        ∀ (session : DeviceSession) (now : Instant), ∀ e ∈ (session.handle data now).events,
        ∀ reading, e.happening.tankReading? = some reading →
          MacSuffix.normalize? t.macSuffix = some reading.macSuffix.text := by
  refine ⟨fun hi hj hs hs' => ?_, fun hrun ρ σ _ st hst => ?_,
    fun hs session now e he reading hreading => ?_⟩
  · obtain ⟨m, hsent, hpeek, hparse⟩ := TankConfig.broadcasts_iff.mp hs
    obtain ⟨m', hsent', hpeek', hparse'⟩ := TankConfig.broadcasts_iff.mp hs'
    cases hsent.symm.trans hsent'
    cases hpeek.symm.trans hpeek'
    exact Config.suffix_unique valid hi hj (hparse.trans hparse'.symm)
  · have hserves : st.gateway.Serves config := hst ▸ Gateway.serves_crowd hrun
    refine ⟨hearsAll_hearAll valid st hserves, fun {_ radio radio' scan} hready hscan => ?_⟩
    rw [run_scanTanks hready hscan]
    exact hearsAll_hearAll valid { st with radio := radio' } hserves scan.sightings
  · obtain ⟨m, -, hpeek, hparse⟩ := TankConfig.broadcasts_iff.mp hs
    have htold := session.peekMacSuffix?_of_told he hreading
    cases hpeek.symm.trans htold
    exact MacSuffix.normalize?_eq_some_text.mpr hparse

/-- A tank whose address is written with hyphens, in lower case and between blanks, has two sensors.
The broadcast of the first starts its session, and that of the second goes to the same one. -/
theorem Station.broadcast_reaches_its_tank_spelled_otherwise :
    let tank : TankConfig :=
      { id := "tank", macSuffix := " 0f-37-a5 ", medium := some .propane, heightOffsetIn := 0
        topics := [] }
    let config : Config := { tanks := [tank] }
    let data : Bytes := [0x03, 0x40, 0x28, 0xE8, 0xC3, 0x0F, 0x37, 0xA5, 0x10, 0x20]
    let sent : ManufacturerData := ⟨sensorCompany, data⟩
    let radio : ScriptedRadio :=
      { devices :=
          [{ address := "0A:00:00:0F:37:A5", name := "left", manufacturer := some sent },
            { address := "0B:00:00:0F:37:A5", name := "right", manufacturer := some sent }] }
    let st : Station ScriptedRadio RecordingSink :=
      { radio, gateway := .new config (.new 1 true), sink := {}, time := ⟨0, 0⟩ }
    config.validate = .ok () ∧ st.gateway.deviceTask? "tank" = none ∧
      ∃ s s' there before before', tank.Broadcasts s data ∧ tank.Broadcasts s' data ∧
        st.gateway.Hands tank data 0 before (st.gateway.hear s) ∧
        Hears config st s there ∧
        there.gateway.Hands tank data 0 before' (there.gateway.hear s') ∧
        Hears config there s' (scanTanks.run st).2 := by
  intro tank config data sent radio st
  have valid : config.validate = .ok () := by decide +kernel
  have hbroadcast (n : Handle) : tank.Broadcasts ⟨n, some sent⟩ data :=
    ⟨rfl, by decide, ⟨0x0F, 0x37, 0xA5⟩, rfl, by decide +kernel⟩
  have hrun : (Crowd.start config 1 true).run? [] = some (Crowd.start config 1 true) := rfl
  have hscan : (Radio.scan []).run radio
      = (.ok { sightings := [⟨0, some sent⟩, ⟨1, some sent⟩], ended := false }, radio) := rfl
  obtain ⟨-, hreaches, -⟩ := broadcast_reaches_its_tank valid
  have hheard : HearsAll config st ([⟨0, some sent⟩] ++ [⟨1, some sent⟩]) (scanTanks.run st).2 :=
    (hreaches hrun st rfl).2 rfl hscan
  obtain ⟨there, last, hbefore, hs', hafter⟩ := hheard.split
  cases hafter
  cases hbefore with
  | cons hs hnil =>
      cases hnil
      have hnone : st.gateway.deviceTask? "tank" = none := rfl
      have hlisted : there.gateway.deviceTask? "tank" = some 0 := by
        rw [hs.rests]
        decide +kernel
      obtain ⟨n, before, hfirst⟩ := hs.hands tank List.mem_cons_self data (hbroadcast 0)
      obtain ⟨n', before', hsecond⟩ := hs'.hands tank List.mem_cons_self data (hbroadcast 1)
      refine ⟨valid, hnone, _, _, there, before, before', hbroadcast 0, hbroadcast 1, ?_, hs, ?_, hs'⟩
      · rcases hfirst.origin with ⟨hold, -⟩ | ⟨-, rfl, -⟩
        · cases hnone.symm.trans hold
        · exact hfirst
      · rcases hsecond.origin with ⟨hold, -⟩ | ⟨hnew, -⟩
        · cases hlisted.symm.trans hold
          exact hsecond
        · cases hlisted.symm.trans hnew

end SensorGateway
