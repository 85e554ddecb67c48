import SensorGateway.Bus.Delivery

/-!
# Deliveries as lines over a network connection

Each delivery is one line of JSON.  The connection is opened when it is first needed.  After a write
that fails nothing more is written to that connection, since part of a line may have gone out; the
next delivery opens a new one.
-/

namespace SensorGateway

/-- An open connection, by number. -/
abbrev Connection := Nat

/-- A network that connections can be opened in.  How much of a failed write has gone out is the
network's affair. -/
class Network (ν : Type) where
  /-- Opens a connection to an address. -/
  connect : ν → String → Except IoFault Connection × ν
  /-- Asks for bytes to go out over a connection as soon as they are written. -/
  setNoDelay : ν → Connection → Except IoFault Unit × ν
  /-- Writes all of the bytes, or fails. -/
  write : ν → Connection → Bytes → Except IoFault Unit × ν

/-- A sink that writes lines to an address. -/
structure LineSink (ν : Type) where
  address : String
  connection : Option Connection
  network : ν

namespace LineSink

variable {ν : Type} [Network ν]

/-- A sink that has not been used. -/
def new (address : String) (network : ν) : LineSink ν where
  address
  connection := none
  network

/-- The bytes of a delivery: its text and a line feed. -/
def line (d : Delivery) : Bytes := (d.text ++ "\n").toUTF8.toList

/-- What the sink says when it has opened a connection. -/
def opened (s : LineSink ν) : Log.Entry where
  level := .info
  source := .publisher
  message := "Publisher: connected to " ++ s.address

/-- Writes a line to an open connection, which is given up when that fails. -/
def write (s : LineSink ν) (connection : Connection) (bytes : Bytes) :
    Except Error Unit × LineSink ν :=
  match Network.write s.network connection bytes with
  | (.ok (), network) => (.ok (), { s with connection := some connection, network })
  | (.error fault, network) => (.error (.io fault), { s with connection := none, network })

/-- Opens a connection and sets it up.  It is of no use if that fails. -/
def connect (s : LineSink ν) : Except Error Connection × LineSink ν :=
  match Network.connect s.network s.address with
  | (.error fault, network) => (.error (.io fault), { s with network })
  | (.ok connection, network) =>
      match Network.setNoDelay network connection with
      | (.error fault, network) => (.error (.io fault), { s with network })
      | (.ok (), network) => (.ok connection, { s with network })

/-- Writes a delivery, over a new connection if none is open. -/
def publish (s : LineSink ν) (d : Delivery) : Except Error Unit × LineSink ν × List Log.Entry :=
  match s.connection with
  | some connection =>
      let (outcome, s) := s.write connection (line d)
      (outcome, s, [])
  | none =>
      match s.connect with
      | (.error e, s) => (.error e, s, [])
      | (.ok connection, s) =>
          let (outcome, s') := s.write connection (line d)
          (outcome, s', [s.opened])

end LineSink

instance {ν : Type} [Network ν] : TopicSink (LineSink ν) where
  offer s d :=
    match s.publish d with
    | (.ok (), sink, logs) => { sink, reception := .accepted, logs }
    | (.error e, sink, logs) => { sink, reception := .failed e, logs }

/-! ## A host without a network -/

/-- A socket number: digits, perhaps behind a plus sign, that make a number of 16 bits. -/
def socketNumber? (text : List Char) : Option UInt16 :=
  let digits := if text.head? = some '+' then text.drop 1 else text
  if digits.isEmpty ∨ ¬ digits.all Char.isDigit then none
  else
    let n := digits.foldl (fun n c => n * 10 + (c.toNat - '0'.toNat)) 0
    if n < 65536 then some (UInt16.ofNat n) else none

/-- Host and socket number of an address; the number stands behind the last colon. -/
def splitAddress (address : String) : Except IoFault (String × UInt16) :=
  let reversed := address.toList.reverse
  let last := reversed.takeWhile (· != ':')
  if last.length = reversed.length then .error .invalidAddress
  else
    match socketNumber? last.reverse with
    | none => .error .invalidSocketNumber
    | some n => .ok (.ofList (reversed.drop (last.length + 1)).reverse, n)

/-- The network of a host that has none: addresses are understood, but nothing is reached. -/
structure Offline where

instance : Network Offline where
  connect ν address :=
    match splitAddress address with
    | .error fault => (.error fault, ν)
    | .ok _ => (.error .unreachable, ν)
  setNoDelay ν _ := (.error .brokenPipe, ν)
  write ν _ _ := (.error .brokenPipe, ν)

end SensorGateway
