import SensorGateway.Proofs.Wire.Frame
import SensorGateway.Wire.Command

/-!
# Requests are frames

A request is assembled byte by byte, with its checksum taken over a slice of what is there already.
This module compares it with the frame that `Frame.wrap` puts around the same content.

What a request says is a `RegisterAccess`: a register that is read, or one that is written with the
value it gets.  `Command.access` tells it for each of the seven requests.  Four of them are writes,
and several of those can say the same: unlocking the parameters, for one, is a write of 0x5678 to
register 0.  An access determines a frame, and `ofFrame?` reads the access back from that frame; so
the bytes of a request say its access and nothing more (`toBytes_eq_iff`).
-/

namespace SensorGateway.Wire

/-! ## Accesses to a register -/

/-- A register read, or written with a value. -/
inductive RegisterAccess
  | read (register : UInt8)
  | write (register : UInt8) (value : UInt16)
  deriving DecidableEq, Repr

namespace RegisterAccess

/-- The action byte. -/
def action : RegisterAccess → UInt8
  | read _ => 0xA5
  | write _ _ => 0x5A

/-- The register that is read or written. -/
def register : RegisterAccess → UInt8
  | read register => register
  | write register _ => register

/-- The value that is written, as it is sent. -/
def payload : RegisterAccess → Bytes
  | read _ => []
  | write _ value => Word.toBytes value

/-- The frame that says this access. -/
def frame (a : RegisterAccess) : Frame where
  register := a.action
  status := a.register
  payload := a.payload
  checksum := Checksum.compute (Frame.covered a.register a.payload)

/-- The access that a frame says. -/
def ofFrame? (f : Frame) : Option RegisterAccess :=
  match f.payload with
  | [] => if f.register = 0xA5 then some (read f.status) else none
  | [high, low] =>
      if f.register = 0x5A then some (write f.status (Word.ofBytes high low)) else none
  | _ => none

/-- An access carries two bytes at most. -/
theorem length_payload_le (a : RegisterAccess) : a.payload.length ≤ 2 := by
  cases a with
  | read => exact Nat.zero_le 2
  | write => exact Nat.le_refl 2

/-- An access is wrapped into its frame. -/
theorem wrap_payload (a : RegisterAccess) :
    Frame.wrap a.action a.register a.payload = .ok a.frame := by
  have hle : a.payload.length ≤ maxPayload := by
    have := a.length_payload_le
    simp only [maxPayload]
    omega
  rw [Frame.wrap, if_pos hle]
  rfl

/-- The frame of an access is valid. -/
theorem valid_frame (a : RegisterAccess) : a.frame.Valid := by
  apply Frame.valid_iff_wrap.mpr
  exact ⟨a.action, a.register, a.payload, a.wrap_payload⟩

/-- An access is read back from its frame. -/
theorem ofFrame?_frame (a : RegisterAccess) : ofFrame? a.frame = some a := by
  cases a with
  | read register => rfl
  | write register value =>
      show some (write register (Word.ofBytes (Word.high value) (Word.low value))) = _
      rw [Word.ofBytes_high_low]

/-- Different accesses have different frames. -/
theorem frame_injective : Function.Injective frame := by
  intro a b h
  apply Option.some.inj
  rw [← ofFrame?_frame a, ← ofFrame?_frame b, h]

end RegisterAccess

/-! ## The frames of requests -/

namespace Command

/-- What each request asks for. -/
def access : Command → RegisterAccess
  | readHardwareInfo => .read 0x03
  | readCellInfo => .read 0x04
  | readDeviceName => .read 0x05
  | write register value => .write register value
  | enterFactoryMode => .write 0x00 0x5678
  | exitFactoryMode => .write 0x01 0
  | setMosfet charge discharge => .write 0xE1 (mosfetValue charge discharge)

/-- A command to read is the frame of a reading access. -/
theorem readBytes_eq (register : UInt8) :
    readBytes register = (RegisterAccess.read register).frame.toBytes := by
  rfl

/-- A command to write is the frame of a writing access. -/
theorem writeBytes_eq (register : UInt8) (value : UInt16) :
    writeBytes register value = (RegisterAccess.write register value).frame.toBytes := by
  rfl

/-- Every command is the frame of its access. -/
theorem toBytes_eq_frame (c : Command) : c.toBytes = c.access.frame.toBytes := by
  cases c with
  | readHardwareInfo | readCellInfo | readDeviceName => apply readBytes_eq
  | write | enterFactoryMode | exitFactoryMode | setMosfet => apply writeBytes_eq

/-- A command is parsed as the frame of its access. -/
theorem parse_bytes (c : Command) : Frame.parse c.toBytes = .ok c.access.frame := by
  rw [toBytes_eq_frame]
  exact Frame.parse_toBytes c.access.valid_frame

/-- Commands have the same bytes if they make the same access. -/
theorem toBytes_eq_iff {c c' : Command} : c.toBytes = c'.toBytes ↔ c.access = c'.access := by
  constructor
  · intro h
    have hframe : Except.ok (ε := FrameError) c.access.frame = .ok c'.access.frame := by
      rw [← parse_bytes, ← parse_bytes, h]
    exact RegisterAccess.frame_injective (Except.ok.inj hframe)
  · intro h
    rw [toBytes_eq_frame, toBytes_eq_frame, h]

/-! ## The value for the two switches -/

/-- The switches of the transistors are two bits. -/
theorem mosfetValue_lt (charge discharge : Bool) :
    (mosfetValue charge discharge).toNat < 4 := by
  cases charge <;> cases discharge <;> decide

/-- A bit of the value is set for a switch that is to be off: bit 0 for charging, bit 1 for
discharging. -/
theorem testBit_mosfetValue (charge discharge : Bool) (i : Nat) :
    (mosfetValue charge discharge).toNat.testBit i
      = (i == 0 && !charge || i == 1 && !discharge) := by
  match i with
  | 0 | 1 => cases charge <;> cases discharge <;> decide
  | i + 2 =>
      have hpow : 4 ≤ 2 ^ (i + 2) := Nat.pow_le_pow_right (n := 2) (by decide) (Nat.le_add_left 2 i)
      rw [Nat.testBit_lt_two_pow (Nat.lt_of_lt_of_le (mosfetValue_lt charge discharge) hpow)]
      simp

/-- **A request is the frame around its access, and no more.**  Its bytes are those that
`Frame.wrap` gives for the action, the register and the value, high byte first; `Frame.parse`
accepts them and finds these again.  Two requests have the same bytes exactly if they ask for the
same access.  Of the value for the two switches bit 0 is set exactly to switch charging off and
bit 1 exactly to switch discharging off, and no other bit is ever set. -/
theorem toBytes_says_access :
    (∀ c : Command, ∃ f : Frame,
      Frame.wrap c.access.action c.access.register c.access.payload = .ok f
        ∧ c.toBytes = f.toBytes
        ∧ Frame.parse c.toBytes = .ok f
        ∧ f.register = c.access.action ∧ f.status = c.access.register
        ∧ f.payload = c.access.payload
        ∧ RegisterAccess.ofFrame? f = some c.access)
      ∧ (∀ c c' : Command, c.toBytes = c'.toBytes ↔ c.access = c'.access)
      ∧ ∀ charge discharge : Bool, ∃ value : UInt16,
          (setMosfet charge discharge).access = .write 0xE1 value
            ∧ ∀ i, value.toNat.testBit i
                = (i == 0 && !charge || i == 1 && !discharge) := by
  refine ⟨fun c => ?_, fun _ _ => toBytes_eq_iff, fun charge discharge => ?_⟩
  · have hwrap := c.access.wrap_payload
    have hback := c.access.ofFrame?_frame
    exact ⟨c.access.frame, hwrap, c.toBytes_eq_frame, c.parse_bytes, rfl, rfl, rfl, hback⟩
  · exact ⟨mosfetValue charge discharge, rfl, testBit_mosfetValue charge discharge⟩

/-- Unlocking the parameters is a write like any other. -/
example : enterFactoryMode.toBytes = (write 0x00 0x5678).toBytes := by
  rfl

end Command

end SensorGateway.Wire
