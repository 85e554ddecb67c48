import SensorGateway.Proofs.Session.Stream
import SensorGateway.Proofs.Wire.Command

/-!
# An echo of requests is inert

A radio can hand back what was sent.  The frame of a request looks like an answer: it has the action
where an answer has its register, and the register where an answer has its status.  So a request to
register 0, like the one that unlocks the parameters, has a status of success and is passed over
only because no register is numbered as an action is.  A request to any other register is taken for
an answer with that error status, and a line in the log says so (`BatterySession.refusals`).

One frame of a request leaves the session as it is (`handleFrame_access`).  From there it is carried
through the frames of a chunk and through chunks cut anywhere, as long as the reassembler has
nothing in its buffer when the echo begins.
-/

namespace SensorGateway

open Wire (Command RegisterAccess)

/-! ## The frames of an echo -/

namespace Wire

/-- The frame of an access is no report. -/
theorem RegisterAccess.kind_frame (a : RegisterAccess) : a.frame.kind = none := by
  cases a with
  | read => rfl
  | write => rfl

/-- An access has its register where a report has its status, so its frame says that all is well if
the register is zero. -/
theorem RegisterAccess.isOk_frame_iff (a : RegisterAccess) :
    a.frame.isOk = true ↔ a.register = 0 := by
  show (a.register == 0) = true ↔ _
  exact beq_iff_eq

/-- A stream of requests comes out as their frames, and each is counted as a frame. -/
theorem Reassembler.drain_commands (commands : List Command) (stats : ReassemblyStats) :
    drain (commands.flatMap Command.toBytes) stats =
      ((commands.map Command.access).map RegisterAccess.frame,
        { buffer := [], stats := { stats with frames := stats.frames + commands.length } }) := by
  induction commands generalizing stats with
  | nil => exact drain_nil stats
  | cons c commands ih =>
      rw [List.flatMap_cons, c.toBytes_eq_frame, drain_toBytes_append stats c.access.valid_frame,
        ih]
      simp only [ReassemblyStats.frame, List.map_cons, List.length_cons]
      rw [Nat.add_right_comm, Nat.add_assoc]

end Wire

namespace BatterySession

/-- What the log gets of an access that comes back: its register is taken for an error status. -/
def refusals (s : BatterySession) (a : RegisterAccess) : List Log.Entry :=
  if a.register = 0 then []
  else
    [s.warning
      s!"register {Hex.byte a.action} answered with status {Hex.byte a.register}"]

variable (s : BatterySession)

/-! ## One frame -/

/-- To be sent an access back changes nothing, but may be logged as a refusal. -/
theorem handleFrame_access (a : RegisterAccess) (now : Instant) :
    s.handleFrame a.frame now = s.unchanged (s.refusals a) := by
  by_cases h : a.register = 0
  · -- the status is one of success, and the register of an answer is missing
    rw [refusals, if_pos h, handleFrame, if_pos (a.isOk_frame_iff.mpr h), a.kind_frame]
  · rw [refusals, if_neg h, handleFrame, if_neg (mt a.isOk_frame_iff.mp h)]
    rfl

/-! ## Frames and chunks -/

/-- So it is with several accesses that are sent back. -/
theorem handleFrames_accesses (accesses : List RegisterAccess) (now : Instant) :
    s.handleFrames now (accesses.map RegisterAccess.frame)
      = s.unchanged (accesses.flatMap s.refusals) := by
  induction accesses with
  | nil => rfl
  | cons a accesses ih =>
      simp only [List.map_cons, handleFrames, handleFrame_access, unchanged, List.flatMap_cons]
      rw [ih]
      rfl

/-- Chunks of which only such frames come leave their bytes with the reassembler and nothing
else. -/
theorem handleChunks_accesses (chunks : List (Bytes × Instant)) {accesses : List RegisterAccess}
    (hframes : (s.reassembler.feedAll (chunks.map Prod.fst)).1
      = accesses.map RegisterAccess.frame) :
    s.handleChunks chunks
      = unchanged { s with reassembler := (s.reassembler.feedAll (chunks.map Prod.fst)).2 }
          (accesses.flatMap s.refusals) := by
  induction chunks generalizing s accesses with
  | nil =>
      obtain rfl : accesses = [] := List.map_eq_nil_iff.mp hframes.symm
      rfl
  | cons entry chunks ih =>
      obtain ⟨chunk, now⟩ := entry
      -- some of the accesses come with this chunk, the others later
      obtain ⟨first, later, rfl, hfirst, hlater⟩ := List.append_eq_map_iff.mp hframes
      have hchunk : s.handleChunk chunk now
          = (s.feed chunk).unchanged (first.flatMap s.refusals) := by
        show (s.feed chunk).handleFrames now (s.reassembler.feed chunk).1 = _
        rw [show (s.reassembler.feed chunk).1 = _ from hfirst.symm]
        apply handleFrames_accesses
      have hrest := ih (s.feed chunk) hlater.symm
      simp only [handleChunks, hchunk, unchanged, List.flatMap_append]
      rw [hrest]
      rfl

/-- **An echo of requests is inert.**  A session whose reassembler has nothing in its buffer is
given the bytes of any requests, cut into any chunks.  It tells nothing; its record and its alarm
stay, the buffer is empty again, and every request has been counted as a frame and nothing else.  The
log gets a line for each request to a register other than 0. -/
theorem echo_inert (hstep : s.reassembler.buffer = []) (commands : List Command)
    {chunks : List (Bytes × Instant)}
    (hchunks : (chunks.map Prod.fst).flatten = commands.flatMap Command.toBytes) :
    (s.handleChunks chunks).events = [] ∧
      (s.handleChunks chunks).session =
        { s with
          reassembler :=
            { buffer := []
              stats :=
                { s.reassembler.stats with
                  frames := s.reassembler.stats.frames + commands.length } } } ∧
      (s.handleChunks chunks).logs = (commands.map Command.access).flatMap s.refusals := by
  have hfeed : s.reassembler.feedAll (chunks.map Prod.fst)
      = Wire.Reassembler.drain (commands.flatMap Command.toBytes) s.reassembler.stats := by
    rw [Wire.Reassembler.feedAll_of_parked (Or.inl hstep), hchunks, Wire.Reassembler.feed, hstep,
      List.nil_append]
  rw [Wire.Reassembler.drain_commands] at hfeed
  have hframes := congrArg Prod.fst hfeed
  have hleft := congrArg Prod.snd hfeed
  rw [s.handleChunks_accesses chunks hframes, hleft]
  exact ⟨rfl, rfl, rfl⟩

/-- Four requests come back to a session that knows the state of its battery, cut within a frame and
within a value that holds both markers.  Unlocking the parameters is passed over in silence. -/
theorem echo_inert_markers_in_value :
    let report : Wire.Frame :=
      { register := 0x03, status := 0, payload := List.replicate 19 0 ++ [50, 0, 0, 0]
        checksum := 0xFFB7 }
    let s := ((new "battery" (some 20)).handleChunk report.toBytes ⟨1, 0⟩).session
    let commands : List Command :=
      [.enterFactoryMode, .write 0xDD 0x77DD, .setMosfet false true, .readCellInfo]
    let echo := commands.flatMap Command.toBytes
    let chunks : List (Bytes × Instant) :=
      [(echo.take 3, ⟨2, 0⟩), ((echo.drop 3).take 11, ⟨3, 0⟩), ([], ⟨4, 0⟩), (echo.drop 14, ⟨5, 0⟩)]
    s.reassembler.buffer = [] ∧ s.reassembler.stats.frames = 1 ∧
      (chunks.map Prod.fst).flatten = echo ∧
      (s.handleChunks chunks).events = [] ∧
      (s.handleChunks chunks).session.record = s.record ∧
      (s.handleChunks chunks).session.reassembler.buffer = [] ∧
      (s.handleChunks chunks).session.reassembler.stats
        = { frames := 5, rejected := 0, discarded := 0 } ∧
      (s.handleChunks chunks).logs.length = 3 := by
  intro report s commands echo chunks
  have hstep : s.reassembler.buffer = [] := by decide +kernel
  have hstats : s.reassembler.stats = { frames := 1, rejected := 0, discarded := 0 } := by
    decide +kernel
  have hchunks : (chunks.map Prod.fst).flatten = echo := by decide +kernel
  obtain ⟨hevents, hsession, hlogs⟩ := s.echo_inert hstep commands hchunks
  refine ⟨hstep, congrArg _ hstats, hchunks, hevents, ?_, ?_, ?_, ?_⟩
  · rw [hsession]
  · rw [hsession]
  · rw [hsession, hstats]
    rfl
  · rw [hlogs]
    decide +kernel

end BatterySession

end SensorGateway
