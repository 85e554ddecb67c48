import SensorGateway.Proofs.Guarded.Battery
import SensorGateway.Proofs.Guarded.Reassembler
import SensorGateway.Proofs.Guarded.Tank
import SensorGateway.Proofs.Session.Reports

/-!
# Nothing that a radio hands over makes a session trap

A session gives a chunk to the reassembler, the payloads of its frames to the decoders and what they
answer to the record.  All of that is put together here from guarded operations, and answers what the
session answers: whatever the session and whatever the bytes, none of the operations has been given
anything that it could not take (`Guarded.sessions_never_trap`).
-/

namespace SensorGateway

open Wire

namespace Guarded

/-! ## Merging -/

/-- Merges the state of a pack.  The text of its faults is made of their names. -/
def mergeHardwareInfo (r : Record) (info : HardwareInfo) (now : Instant) : Except Trap Record := do
  let _ ← errorNames info
  let temperatures ← setAll r.temperatures info.temperatures
  let balancing ← setAll r.balancing (← balancingOf info)
  return { r.mergeHardwareInfo info now with temperatures, balancing }

/-- Merges the cell voltages. -/
def mergeCellInfo (r : Record) (info : CellInfo Float) (now : Instant) : Except Trap Record := do
  let cells ← setAll r.cells info.voltages
  return { r.mergeCellInfo info now with cells }

/-- Merging a report about the hardware never traps. -/
theorem mergeHardwareInfo_eq_ok (r : Record) (info : HardwareInfo) (now : Instant) :
    mergeHardwareInfo r info now = .ok (r.mergeHardwareInfo info now) := by
  rw [mergeHardwareInfo, errorNames_eq_ok, balancingOf_eq_ok]
  simp only [setAll_eq_ok, bind, Except.bind, Record.mergeHardwareInfo_eq]
  rfl

/-- Merging a report about the cells never traps. -/
theorem mergeCellInfo_eq_ok (r : Record) (info : CellInfo Float) (now : Instant) :
    mergeCellInfo r info now = .ok (r.mergeCellInfo info now) := by
  rw [mergeCellInfo, setAll_eq_ok, Record.mergeCellInfo_eq]
  rfl

/-! ## Frames -/

/-- Takes in the state of the pack. -/
def takeHardwareInfo (s : BatterySession) (info : HardwareInfo) (now : Instant) :
    Except Trap (Handled BatterySession) := do
  let record ← mergeHardwareInfo s.record info now
  let taken := s.takeHardwareInfo info now
  return { taken with session := { taken.session with record } }

/-- Takes in the cell voltages. -/
def takeCellInfo (s : BatterySession) (info : CellInfo Float) (now : Instant) :
    Except Trap (Handled BatterySession) := do
  let record ← mergeCellInfo s.record info now
  let taken := s.takeCellInfo info now
  return { taken with session := { taken.session with record } }

/-- Handles one frame.  Nothing that could trap is done with one that is not decoded. -/
def handleFrame (s : BatterySession) (frame : Frame) (now : Instant) :
    Except Trap (Handled BatterySession) :=
  match frame.isOk, frame.kind with
  | true, some .hardwareInfo => do
      match ← decodeHardware frame.payload with
      | .ok info => takeHardwareInfo s info now
      | .error _ => return s.handleFrame frame now
  | true, some .cellInfo => do
      match ← decodeCells frame.payload with
      | .ok info => takeCellInfo s info now
      | .error _ => return s.handleFrame frame now
  | _, _ => return s.handleFrame frame now

/-- Handles frames one after another. -/
def handleFrames (s : BatterySession) (now : Instant) :
    List Frame → Except Trap (Handled BatterySession)
  | [] => return s.unchanged []
  | frame :: frames => do
      let first ← handleFrame s frame now
      let later ← handleFrames first.session now frames
      return {
        session := later.session
        events := first.events ++ later.events
        logs := first.logs ++ later.logs }

/-- Handles one chunk. -/
def handleChunk (s : BatterySession) (chunk : Bytes) (now : Instant) :
    Except Trap (Handled BatterySession) := do
  let (frames, reassembler) ← feed s.reassembler chunk
  handleFrames { s with reassembler } now frames

/-- Taking a report about the hardware never traps, -/
theorem takeHardwareInfo_eq_ok (s : BatterySession) (info : HardwareInfo) (now : Instant) :
    takeHardwareInfo s info now = .ok (s.takeHardwareInfo info now) := by
  rw [takeHardwareInfo, mergeHardwareInfo_eq_ok]
  unfold BatterySession.takeHardwareInfo
  rcases s.alarm.update info.soc with ⟨raised, alarm⟩
  cases raised <;> rfl

/-- nor does taking one about the cells. -/
theorem takeCellInfo_eq_ok (s : BatterySession) (info : CellInfo Float) (now : Instant) :
    takeCellInfo s info now = .ok (s.takeCellInfo info now) := by
  rw [takeCellInfo, mergeCellInfo_eq_ok]
  rfl

/-- A frame is handled without a trap, whatever is in it, -/
theorem handleFrame_eq_ok (s : BatterySession) (frame : Frame) (now : Instant) :
    handleFrame s frame now = .ok (s.handleFrame frame now) := by
  unfold handleFrame
  split
  next hok hkind =>
    simp only [decodeHardware_eq_ok, bind, Except.bind]
    cases hinfo : HardwareInfo.decode frame.payload with
    | ok info =>
        have htaken : s.handleFrame frame now = s.takeHardwareInfo info now := by
          simp only [BatterySession.handleFrame, hok, hkind, hinfo, if_true]
        rw [htaken]
        exact takeHardwareInfo_eq_ok s info now
    | error e => rfl
  next hok hkind =>
    simp only [decodeCells_eq_ok, bind, Except.bind]
    cases hinfo : (CellInfo.decode frame.payload : Except DecodeError (CellInfo Float)) with
    | ok info =>
        have htaken : s.handleFrame frame now = s.takeCellInfo info now := by
          simp only [BatterySession.handleFrame, hok, hkind, hinfo, if_true]
        rw [htaken]
        exact takeCellInfo_eq_ok s info now
    | error e => rfl
  · rfl

/-- and so are several frames. -/
theorem handleFrames_eq_ok (s : BatterySession) (now : Instant) (frames : List Frame) :
    handleFrames s now frames = .ok (s.handleFrames now frames) := by
  induction frames generalizing s with
  | nil => rfl
  | cons frame frames ih =>
      rw [handleFrames, handleFrame_eq_ok]
      simp only [bind, Except.bind, ih]
      rfl

/-- A chunk is handled without a trap, as long as the counters fit. -/
theorem handleChunk_eq_ok {s : BatterySession} {chunk : Bytes} {now : Instant}
    (hfits : (s.handleChunk chunk now).session.reassembler.stats.Fits) :
    handleChunk s chunk now = .ok (s.handleChunk chunk now) := by
  have hreassembler : (s.handleChunk chunk now).session.reassembler
      = (s.reassembler.feed chunk).2 := BatterySession.reassembler_handleFrames _ now _
  rw [hreassembler] at hfits
  rw [handleChunk, feed_eq_ok hfits]
  exact handleFrames_eq_ok _ now _

/-! ## Whatever the radio hands over -/

/-- Whatever the session and the bytes that it is given, and however many, it comes to an end without
a read beyond the end, a shift beyond the width of a word, a difference below zero or a division by
zero, as long as the counters of the reassembler fit their words.  The frames that are parsed on the
way stand between their markers and are as long as they say, and such a frame is only ever refused
for its checksum. -/
theorem sessions_never_trap :
    (∀ (s : BatterySession) (chunk : Bytes) (now : Instant),
      (s.handleChunk chunk now).session.reassembler.stats.Fits →
        handleChunk s chunk now = .ok (s.handleChunk chunk now)) ∧
    (∀ (s : TankSession) (payload : Bytes) (now : Instant),
      handleAdvertisement s payload now = .ok (s.handleAdvertisement payload now)) ∧
    ∀ (buffer candidate : Bytes) (e : FrameError), buffer.head? = some startMarker →
      candidate? buffer = some candidate → candidate[candidate.length - 1]? = some endMarker →
        Frame.parse candidate = .error e →
          ∃ expected actual, e = .checksumMismatch expected actual := by
  refine ⟨fun s chunk now hfits => handleChunk_eq_ok hfits, handleAdvertisement_eq_ok,
    fun buffer candidate e hstart hcandidate hend hparse => ?_⟩
  obtain ⟨hcomplete, rest, rfl⟩ := candidate?_eq_some_iff.mp hcandidate
  obtain ⟨length, hlength, -⟩ := id hcomplete
  have hfirst : candidate.head? = some startMarker := by
    cases candidate with
    | nil => cases hlength
    | cons b candidate => exact hstart
  exact Frame.parse_eq_error_of_marked hcomplete hfirst hend hparse

/-- A chunk of noise, a start marker without a frame, a frame with a wrong checksum, a state of the
pack that declares 255 probes and has none, and half a frame; and a broadcast cut short. -/
theorem sessions_never_trap_on_hostile_bytes :
    let s := BatterySession.new "battery" (some 20)
    let damaged : Bytes := [0xDD, 0x03, 0x00, 0x00, 0x00, 0x01, 0x77]
    let payload : Bytes := List.replicate 22 0xFF ++ [0xFF]
    let frame : Bytes :=
      Frame.toBytes
        { register := 0x03
          status := 0
          payload
          checksum := Checksum.compute (Frame.covered 0 payload) }
    let chunk : Bytes := [0x00, 0x77] ++ [0xDD, 0xDD] ++ damaged ++ frame ++ [0xDD, 0x04, 0x00]
    let tank := TankSession.new "tank" none none 0
    (s.handleChunk chunk ⟨1, 0⟩).session.reassembler.stats.Fits ∧
      handleChunk s chunk ⟨1, 0⟩ = .ok (s.handleChunk chunk ⟨1, 0⟩) ∧
      handleAdvertisement tank [0x03, 0x40] ⟨1, 0⟩
        = .ok (tank.handleAdvertisement [0x03, 0x40] ⟨1, 0⟩) ∧
      candidate? damaged = some damaged ∧ Frame.parse damaged = .error (.checksumMismatch 0 1) ∧
      ∃ expected actual, FrameError.checksumMismatch 0 1 = .checksumMismatch expected actual := by
  intro s damaged payload frame chunk tank
  have hfits : (s.handleChunk chunk ⟨1, 0⟩).session.reassembler.stats.Fits := by
    have hreassembler : (s.handleChunk chunk ⟨1, 0⟩).session.reassembler
        = (s.reassembler.feed chunk).2 := BatterySession.reassembler_handleFrames _ ⟨1, 0⟩ _
    rw [hreassembler]
    exact ⟨by decide +kernel, by decide +kernel, by decide +kernel⟩
  have hparse : Frame.parse damaged = .error (.checksumMismatch 0 1) := by decide +kernel
  exact ⟨hfits, sessions_never_trap.1 s chunk ⟨1, 0⟩ hfits,
    sessions_never_trap.2.1 tank [0x03, 0x40] ⟨1, 0⟩, by decide +kernel, hparse,
    sessions_never_trap.2.2 damaged damaged _ rfl (by decide +kernel) (by decide +kernel) hparse⟩

end Guarded

end SensorGateway
