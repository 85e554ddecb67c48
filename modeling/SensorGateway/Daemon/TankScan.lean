import SensorGateway.Daemon.Station

/-!
# Listening to tank sensors

A tank sensor is never connected to.  It broadcasts its readings in its manufacturer's data, which
the station takes from the advertisements that it hears and hands to the tank with that address.
-/

namespace SensorGateway

open Bluetooth

/-- The tank address in the data of the sensors' manufacturer. -/
def Bluetooth.ManufacturerData.tankAddress? (data : ManufacturerData) : Option MacSuffix :=
  if data.company = sensorCompany then TankReading.peekMacSuffix? data.payload else none

/-- Hands an advertisement to its tank, and says whether it was taken. -/
def Gateway.hear (g : Gateway) (s : Sighting) : Outcome Bool :=
  let broadcast := do
    let data ← s.manufacturer
    let address ← data.tankAddress?
    return (address, data.payload)
  match broadcast with
  | some (address, payload) => g.routeAdvertisement address.text payload
  | none => { value := false, gateway := g, logs := [] }

namespace Station

variable {ρ σ : Type} [TopicSink σ]

/-- Hears one advertisement after another. -/
def hearAll : List Sighting → StateM (Station ρ σ) Unit
  | [] => return ()
  | s :: rest => do
      let _ ← onGateway (·.hear s)
      settle
      hearAll rest

variable [Radio ρ]

/-- Listens until the scan ends, and says why; nothing when it goes on in silence. -/
def scanTanks : StateM (Station ρ σ) (Option LinkError) := do
  match ← Radio.ready with
  | .error fault => return some (.radio fault)
  | .ok () =>
      match ← Radio.scan [] with
      | .error fault => return some (.radio fault)
      | .ok scan =>
          hearAll scan.sightings
          return if scan.ended then some .endOfScan else none

end Station

end SensorGateway
