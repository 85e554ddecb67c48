import SensorGateway.Bytes
import SensorGateway.Log.Entry

/-!
# Radios

What a gateway needs of a Bluetooth adapter, as operations on the state of whatever has one.  How an
operation ends is up to the radio, so a statement about all radios is one about all ways in which
the devices and the air between can behave.

A scan is told as a whole: the devices that were sighted, in order, and whether the scan then ended
or went on in silence.
-/

namespace SensorGateway.Bluetooth

/-- The identifier of a service or a characteristic. -/
structure Uuid where
  /-- The digits in lower case. -/
  text : String
  deriving DecidableEq, Repr

namespace Uuid

/-- The identifier written by a text, in which case does not matter. -/
def ofText (text : String) : Uuid where
  text := String.ofList (text.toList.map Char.toLower)

end Uuid

/-- A device, by a number of the radio's own. -/
abbrev Handle := Nat

/-- What a manufacturer adds to the advertisements of a device. -/
structure ManufacturerData where
  company : UInt16
  payload : Bytes
  deriving DecidableEq, Repr

/-- An advertisement that has been heard. -/
structure Sighting where
  device : Handle
  manufacturer : Option ManufacturerData
  deriving DecidableEq, Repr

/-- What a scan has brought. -/
structure Scan where
  sightings : List Sighting
  /-- Whether it came to an end after that. -/
  ended : Bool
  deriving DecidableEq, Repr

/-- An operation of the radio has failed, for a reason of its own. -/
structure RadioFault where
  text : String
  deriving DecidableEq, Repr

/-- What comes from a device that notifies. -/
inductive Notice
  | data (chunk : Bytes)
  | failed (fault : RadioFault)
  /-- Nothing will come any more. -/
  | ended
  deriving DecidableEq, Repr

/-- What may fail at a radio. -/
abbrev Tried (ρ α : Type) := StateM ρ (Except RadioFault α)

/-- States with a radio in them. -/
class Radio (ρ : Type) where
  /-- Waits until the radio can be used. -/
  ready : Tried ρ Unit
  /-- Looks for devices that advertise one of the services, or for all if none is given. -/
  scan : List Uuid → Tried ρ Scan
  /-- The name of a device. -/
  name : Handle → Tried ρ String
  connect : Handle → Tried ρ Unit
  disconnect : Handle → Tried ρ Unit
  /-- Whether a device is connected. -/
  isConnected : Handle → StateM ρ Bool
  /-- The services of a device that have an identifier, by number. -/
  services : Handle → Uuid → Tried ρ (List Nat)
  /-- The characteristics of a service that have an identifier, by number. -/
  characteristics : Handle → Nat → Uuid → Tried ρ (List Nat)
  /-- Asks for notifications of a characteristic. -/
  subscribe : Handle → Nat → Tried ρ Unit
  /-- Writes to a characteristic. -/
  write : Handle → Nat → Bytes → Tried ρ Unit
  /-- What has come from a device, if anything has. -/
  notice : Handle → StateM ρ (Option Notice)

/-- States with a log in them. -/
class Journal (σ : Type) where
  /-- Adds a line. -/
  note : Log.Entry → StateM σ Unit

/-! ## Radios within larger states -/

/-- An operation on a part of a state. -/
def within {σ ρ α : Type} (part : σ → ρ) (put : σ → ρ → σ) (act : StateM ρ α) : StateM σ α :=
  fun s =>
    let (a, r) := act.run (part s)
    (a, put s r)

/-- A state has the radio that a part of it has. -/
@[reducible] def Radio.ofPart {σ ρ : Type} [Radio ρ] (part : σ → ρ) (put : σ → ρ → σ) :
    Radio σ where
  ready := within part put Radio.ready
  scan services := within part put (Radio.scan services)
  name device := within part put (Radio.name device)
  connect device := within part put (Radio.connect device)
  disconnect device := within part put (Radio.disconnect device)
  isConnected device := within part put (Radio.isConnected device)
  services device id := within part put (Radio.services device id)
  characteristics device service id := within part put (Radio.characteristics device service id)
  subscribe device characteristic := within part put (Radio.subscribe device characteristic)
  write device characteristic bytes := within part put (Radio.write device characteristic bytes)
  notice device := within part put (Radio.notice device)

end SensorGateway.Bluetooth
