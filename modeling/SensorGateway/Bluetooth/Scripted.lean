import SensorGateway.Bluetooth.Radio

/-!
# Devices that follow a script

To try a gateway out where there is no radio, the devices around it follow a script, which says what
they advertise and offer, which calls fail, what they answer to what is written, and when they lose
the connection or stop altogether.

A device that has stopped takes no part in anything any more: calls seem to succeed and leave no
mark, and only giving the connection up is still noted.
-/

namespace SensorGateway.Bluetooth

/-- What a device can be called for. -/
inductive CallKind
  | connect
  | disconnect
  | startNotify
  | write
  deriving DecidableEq, Repr

/-- A call that a device has received. -/
inductive Call
  | connect
  | disconnect
  | startNotify
  | write (bytes : Bytes)
  deriving DecidableEq, Repr

/-- What a call is for. -/
def Call.kind : Call → CallKind
  | connect => .connect
  | disconnect => .disconnect
  | startNotify => .startNotify
  | write _ => .write

/-- The text of all failures. -/
def scriptedFault : RadioFault := ⟨"<bluetooth>"⟩

/-- A device and what has become of it. -/
structure ScriptedDevice where
  address : String
  name : String
  /-- The services in its advertisements. -/
  advertises : List Uuid := []
  manufacturer : Option ManufacturerData := none
  /-- Its services with their characteristics. -/
  services : List (Uuid × List Uuid) := []
  /-- Whether it is in range before anybody looks for it. -/
  known : Bool := false
  connected : Bool := false
  /-- The calls that fail, by their number among the calls of their kind, from 1. -/
  fails : List (CallKind × List Nat) := []
  /-- Whether a connection never counts as one. -/
  neverStays : Bool := false
  /-- The number of the write with which the connection is lost. -/
  dropAfter : Option Nat := none
  /-- The number of the write after which the device stops. -/
  stopAfter : Option Nat := none
  /-- What is notified in answer to what is written. -/
  replies : List (Bytes × List Bytes) := []
  /-- The calls received so far. -/
  calls : List Call := []
  /-- The notifications that are on their way. -/
  pending : List Bytes := []
  stopped : Bool := false

namespace ScriptedDevice

/-- How many calls of a kind there have been. -/
def count (d : ScriptedDevice) (kind : CallKind) : Nat :=
  (d.calls.filter (·.kind == kind)).length

/-- Notes a call. -/
def note (d : ScriptedDevice) (call : Call) : ScriptedDevice :=
  { d with calls := d.calls ++ [call] }

/-- Whether the last call of a kind is one that fails. -/
def isFailing (d : ScriptedDevice) (kind : CallKind) : Bool :=
  d.fails.any fun entry => entry.1 == kind && entry.2.contains (d.count kind)

/-- What a call changes when it succeeds. -/
def obey (d : ScriptedDevice) : Call → ScriptedDevice
  | .connect => { d with connected := !d.neverStays }
  | .disconnect => { d with connected := false }
  | .startNotify => d
  | .write bytes =>
      let written := d.count .write
      { d with
        connected := d.connected && d.dropAfter != some written
        stopped := d.stopAfter == some written
        pending := d.pending ++ (d.replies.lookup bytes).getD [] }

/-- Receives a call. -/
def receive (d : ScriptedDevice) (call : Call) : Except RadioFault Unit × ScriptedDevice :=
  if d.stopped && call.kind != .disconnect then (.ok (), d)
  else
    let d := d.note call
    if d.isFailing call.kind then (.error scriptedFault, d) else (.ok (), d.obey call)

/-- Takes what comes next. -/
def takeNotice (d : ScriptedDevice) : Option Notice × ScriptedDevice :=
  match d.pending with
  | chunk :: rest => (some (.data chunk), { d with pending := rest })
  | [] => (if d.stopped then some .ended else none, d)

/-- Whether a scan reports the device. -/
def isReported (d : ScriptedDevice) (wanted : List Uuid) : Bool :=
  !d.connected && (wanted.isEmpty || d.advertises.any wanted.contains)

end ScriptedDevice

/-- A radio among devices that follow a script. -/
structure ScriptedRadio where
  devices : List ScriptedDevice
  /-- Whether the radio can be used. -/
  powered : Bool := true
  /-- Whether scans can be started. -/
  scans : Bool := true
  /-- Whether a scan ends when every device has been reported. -/
  endsScan : Bool := false

namespace ScriptedRadio

/-- The devices that a scan reports: first those that were in range already. -/
def sightings (r : ScriptedRadio) (wanted : List Uuid) : List Sighting :=
  let numbered := r.devices.zipIdx
  let ordered := numbered.filter (·.1.known) ++ numbered.filter (!·.1.known)
  (ordered.filter (·.1.isReported wanted)).map fun (d, n) =>
    { device := n, manufacturer := d.manufacturer }

/-- A device by its number. -/
def device? (r : ScriptedRadio) (n : Handle) : Option ScriptedDevice := r.devices[n]?

/-- Puts a device in the place of its former self. -/
def put (r : ScriptedRadio) (n : Handle) (d : ScriptedDevice) : ScriptedRadio :=
  { r with devices := r.devices.set n d }

/-- Passes a call on to a device. -/
def call (n : Handle) (c : Call) : Tried ScriptedRadio Unit := fun r =>
  match r.device? n with
  | none => (.error scriptedFault, r)
  | some d =>
      let (outcome, d) := d.receive c
      (outcome, r.put n d)

/-- What can be learnt of a device without calling it. -/
def ask {α : Type} (n : Handle) (f : ScriptedDevice → α) : Tried ScriptedRadio α := fun r =>
  match r.device? n with
  | none => (.error scriptedFault, r)
  | some d => (.ok (f d), r)

/-- The places in a list at which an identifier stands. -/
def places (id : Uuid) (ids : List Uuid) : List Nat :=
  (ids.zipIdx.filter (·.1 == id)).map (·.2)

instance : Radio ScriptedRadio where
  ready r := (if r.powered then .ok () else .error scriptedFault, r)
  scan wanted r :=
    if r.scans then (.ok { sightings := r.sightings wanted, ended := r.endsScan }, r)
    else (.error scriptedFault, r)
  name n := ask n (·.name)
  connect n := call n .connect
  disconnect n := call n .disconnect
  isConnected n r := ((r.device? n).elim false (·.connected), r)
  services n id := ask n fun d => places id (d.services.map (·.1))
  characteristics n service id :=
    ask n fun d => places id ((d.services[service]?).elim [] (·.2))
  subscribe n _ := call n .startNotify
  write n _ bytes := call n (.write bytes)
  notice n r :=
    match r.device? n with
    | none => (none, r)
    | some d =>
        let (notice, d) := d.takeNotice
        (notice, r.put n d)

/-- All calls received, device by device in the order of their addresses. -/
def calls (r : ScriptedRadio) : List (String × Call) :=
  (r.devices.mergeSort fun a b => a.address ≤ b.address).flatMap fun d =>
    d.calls.map fun c => (d.address, c)

/-- A number of reactions after which a link to any of the devices has come to its end, if it comes
to one: no write has a number greater than all those in the script and also fails or is the last,
and each brings no more notifications than there are in the script. -/
def patience (r : ScriptedRadio) : Nat :=
  let writes := r.devices.foldl (fun n d =>
    n + d.stopAfter.getD 0 + (d.fails.flatMap (·.2)).foldl (· + ·) 0) 8
  let replies := r.devices.foldl (fun n d =>
    n + (d.replies.map (·.2.length)).foldl (· + ·) 0) 1
  writes * (replies + 1)

end ScriptedRadio

/-! ## A link by itself -/

/-- A scripted radio with a session that only keeps what it is handed. -/
structure Bench where
  radio : ScriptedRadio
  /-- Whether the session takes anything. -/
  listening : Bool := true
  received : List Bytes := []
  logs : List Log.Entry := []

namespace Bench

instance : Radio Bench := Radio.ofPart radio fun b radio => { b with radio }

instance : Journal Bench where
  note entry := modify fun b => { b with logs := b.logs ++ [entry] }

/-- Hands a chunk to the session. -/
def deliver (chunk : Bytes) : StateM Bench Bool := fun b =>
  if b.listening then (true, { b with received := b.received ++ [chunk] }) else (false, b)

end Bench

end SensorGateway.Bluetooth
