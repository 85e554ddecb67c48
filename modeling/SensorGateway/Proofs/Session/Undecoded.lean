import SensorGateway.Proofs.Session.LastReports

/-!
# Frames that are not decoded leave no trace

A frame can be whole and still say nothing that a session could take in (`Wire.Frame.Undecoded`): it
reports an error, it comes from a register that is not known, or its payload does not fit.  Of such a
frame the session tells nothing and stays what it was, and of every other it tells something
(`BatterySession.events_handleFrame_eq_nil_iff`).  There is no third case, in which a frame is merged
in part and then given up.

So the frames that are not decoded can be taken out of what a session is given
(`BatterySession.handleFramesAt_decoded`).  In a chunk they are seen in the counters of the
reassembler, and the counters decide nothing (`BatterySession.SameButCounters`).
-/

namespace SensorGateway

/-- The frames that are decoded, in order. -/
def Wire.decoded (frames : List Wire.Frame) : List Wire.Frame :=
  frames.filter fun f => ¬ f.Undecoded

/-! ## A frame put in between -/

namespace Wire

variable {f : Frame}

/-- A frame that cannot be decoded is not among the decoded ones. -/
theorem decoded_insert (h : f.Undecoded) (before after : List Frame) :
    decoded (before ++ f :: after) = decoded (before ++ after) := by
  rw [decoded, decoded, List.filter_append, List.filter_append,
    List.filter_cons_of_neg (by simpa using h)]

/-- A frame that stands where the reassembler is in step comes out, and the others as without it. -/
theorem Reassembler.exists_feed_insert {r : Reassembler} (hf : f.Valid) {before : Bytes}
    (hstep : (r.feed before).2.buffer = []) (behind : Bytes) :
    ∃ later, (r.feed (before ++ f.toBytes ++ behind)).1 = (r.feed before).1 ++ f :: later ∧
      (r.feed (before ++ behind)).1 = (r.feed before).1 ++ later ∧
      (r.feed (before ++ f.toBytes ++ behind)).2.buffer = (r.feed (before ++ behind)).2.buffer := by
  have hdrained (bytes : Bytes) :
      (r.feed before).2.feed bytes = drain bytes (r.feed before).2.stats := by
    rw [feed, hstep, List.nil_append]
  obtain ⟨hframes, hbuffer⟩ := drain_congr behind (r.feed before).2.stats.frame
    (r.feed before).2.stats
  rw [List.append_assoc, feed_append, feed_append]
  simp only [hdrained, drain_toBytes_append _ hf, hframes]
  exact ⟨_, rfl, rfl, hbuffer⟩

end Wire

namespace BatterySession

variable {s s' : BatterySession} {f : Wire.Frame}

/-! ## One frame -/

/-- Of every other frame something is told. -/
theorem events_handleFrame_ne_nil (s : BatterySession) (h : ¬ f.Undecoded) (now : Instant) :
    (s.handleFrame f now).events ≠ [] := by
  cases handling f with
  | undecoded hundecoded _ => exact absurd hundecoded h
  | hardwareInfo _ _ info _ htaken =>
      rw [htaken, events_takeHardwareInfo]
      exact List.cons_ne_nil _ _
  | cellInfo _ _ info htaken =>
      rw [htaken]
      exact List.cons_ne_nil _ _
  | deviceName _ _ name htaken =>
      rw [htaken]
      exact List.cons_ne_nil _ _

/-- A frame has no events if it cannot be decoded, and only then. -/
theorem events_handleFrame_eq_nil_iff (s : BatterySession) (f : Wire.Frame) (now : Instant) :
    (s.handleFrame f now).events = [] ↔ f.Undecoded := by
  constructor
  · intro hnil
    by_contra h
    exact s.events_handleFrame_ne_nil h now hnil
  · intro h
    obtain ⟨logs, hsame⟩ := s.handleFrame_of_undecoded h now
    rw [hsame]
    rfl

/-! ## Frames at their times -/

/-- Taken out, the frames that are not decoded are not missed. -/
theorem handleFramesAt_decoded (s : BatterySession) (frames : List (Wire.Frame × Instant)) :
    let kept := frames.filter fun entry => ¬ entry.1.Undecoded
    (s.handleFramesAt frames).events = (s.handleFramesAt kept).events ∧
      (s.handleFramesAt frames).session = (s.handleFramesAt kept).session := by
  induction frames generalizing s with
  | nil => exact ⟨rfl, rfl⟩
  | cons entry frames ih =>
      obtain ⟨f, now⟩ := entry
      by_cases h : f.Undecoded
      · obtain ⟨logs, hsame⟩ := s.handleFrame_of_undecoded h now
        obtain ⟨hevents, hsession⟩ := ih s
        rw [List.filter_cons_of_neg (by simpa using h)]
        simp only [handleFramesAt, hsame]
        exact ⟨hevents, hsession⟩
      · obtain ⟨hevents, hsession⟩ := ih (s.handleFrame f now).session
        rw [List.filter_cons_of_pos (by simpa using h)]
        simp only [handleFramesAt]
        exact ⟨congrArg _ hevents, hsession⟩

/-- Frames that cannot be decoded make no difference. -/
theorem handleFrames_decoded (s : BatterySession) (now : Instant) (frames : List Wire.Frame) :
    (s.handleFrames now frames).events = (s.handleFrames now (Wire.decoded frames)).events ∧
      (s.handleFrames now frames).session = (s.handleFrames now (Wire.decoded frames)).session := by
  have hdecoded := s.handleFramesAt_decoded (frames.map (·, now))
  rw [List.filter_map] at hdecoded
  simp only [handleFrames_eq]
  exact hdecoded

/-- When frames are handled makes no difference. -/
theorem Alike.handleFramesAt (h : s.Alike s') {frames frames' : List (Wire.Frame × Instant)}
    (hsame : frames.map Prod.fst = frames'.map Prod.fst) :
    (s.handleFramesAt frames).events = (s'.handleFramesAt frames').events ∧
      (s.handleFramesAt frames).session.Alike (s'.handleFramesAt frames').session := by
  induction frames generalizing s s' frames' with
  | nil =>
      obtain rfl : frames' = [] := List.map_eq_nil_iff.mp hsame.symm
      exact ⟨rfl, h⟩
  | cons entry frames ih =>
      obtain ⟨f, now⟩ := entry
      obtain ⟨⟨f', now'⟩, later, rfl, rfl, hlater⟩ := List.map_eq_cons_iff.mp hsame.symm
      obtain ⟨hfirst, halike⟩ := h.handleFrame f' now now'
      obtain ⟨hrest, halike⟩ := ih halike hlater.symm
      simp only [BatterySession.handleFramesAt, hfirst, hrest]
      exact ⟨trivial, halike⟩

/-- Sessions that are alike stay so if they handle the same decoded frames. -/
theorem Alike.of_decoded_eq (h : s.Alike s') {frames frames' : List (Wire.Frame × Instant)}
    (hsame : Wire.decoded (frames.map Prod.fst) = Wire.decoded (frames'.map Prod.fst)) :
    (s.handleFramesAt frames).events = (s'.handleFramesAt frames').events ∧
      (s.handleFramesAt frames).session.Alike (s'.handleFramesAt frames').session := by
  obtain ⟨hevents, hsession⟩ := s.handleFramesAt_decoded frames
  obtain ⟨hevents', hsession'⟩ := s'.handleFramesAt_decoded frames'
  rw [Wire.decoded, Wire.decoded, List.filter_map, List.filter_map] at hsame
  rw [hevents, hevents', hsession, hsession']
  exact h.handleFramesAt hsame

/-! ## The counters of the reassembler -/

/-- The sessions are the same but for what their reassemblers have counted. -/
structure SameButCounters (s s' : BatterySession) : Prop where
  device : s.device = s'.device
  alarm : s.alarm = s'.alarm
  record : s.record = s'.record
  buffer : s.reassembler.buffer = s'.reassembler.buffer

/-- Of a chunk the frames that are decoded are handled, and the reassembler is put back. -/
theorem handleChunk_decoded (s : BatterySession) (r : Wire.Reassembler) (chunk : Bytes)
    (now : Instant) :
    let frames := Wire.decoded (r.feed chunk).1
    ({ s with reassembler := r }.handleChunk chunk now).events
        = (s.handleFrames now frames).events ∧
      ({ s with reassembler := r }.handleChunk chunk now).session
        = { (s.handleFrames now frames).session with reassembler := (r.feed chunk).2 } := by
  obtain ⟨hevents, hsession⟩ := s.handleFrames_reassembler (r.feed chunk).2 now (r.feed chunk).1
  obtain ⟨htold, hsame⟩ := s.handleFrames_decoded now (r.feed chunk).1
  constructor
  · exact hevents.trans htold
  · exact hsession.trans (congrArg (fun t => { t with reassembler := (r.feed chunk).2 }) hsame)

/-- Chunks of which the same frames are decoded, and the same bytes kept, do the same. -/
theorem SameButCounters.handleChunk (h : s.SameButCounters s') {chunk chunk' : Bytes}
    (now : Instant)
    (hframes : Wire.decoded (s.reassembler.feed chunk).1
      = Wire.decoded (s'.reassembler.feed chunk').1)
    (hbuffer : (s.reassembler.feed chunk).2.buffer = (s'.reassembler.feed chunk').2.buffer) :
    (s.handleChunk chunk now).events = (s'.handleChunk chunk' now).events ∧
      (s.handleChunk chunk now).session.SameButCounters (s'.handleChunk chunk' now).session := by
  have hs' : s' = { s with reassembler := s'.reassembler } := by
    rw [h.device, h.alarm, h.record]
  obtain ⟨hevents, hsession⟩ := s.handleChunk_decoded s.reassembler chunk now
  obtain ⟨hevents', hsession'⟩ := s.handleChunk_decoded s'.reassembler chunk' now
  rw [← hs', ← hframes] at hevents' hsession'
  constructor
  · exact hevents.trans hevents'.symm
  · rw [hsession', show (s.handleChunk chunk now).session = _ from hsession]
    exact ⟨rfl, rfl, rfl, hbuffer⟩

/-- What has been counted makes no difference to any chunks. -/
theorem SameButCounters.handleChunks (h : s.SameButCounters s') (chunks : List (Bytes × Instant)) :
    (s.handleChunks chunks).events = (s'.handleChunks chunks).events ∧
      (s.handleChunks chunks).session.SameButCounters (s'.handleChunks chunks).session := by
  induction chunks generalizing s s' with
  | nil => exact ⟨rfl, h⟩
  | cons entry chunks ih =>
      obtain ⟨chunk, now⟩ := entry
      obtain ⟨hframes, hbuffer⟩ := Wire.Reassembler.feed_congr h.buffer chunk
      obtain ⟨hfirst, hsame⟩ := h.handleChunk now (congrArg Wire.decoded hframes) hbuffer
      obtain ⟨hrest, hlast⟩ := ih hsame
      simp only [BatterySession.handleChunks, hfirst, hrest]
      exact ⟨trivial, hlast⟩

/-- **Frames that are not decoded leave no trace.**  What a session tells, its record but for the
time of the last change and its alarm are determined by the frames that are decoded, whether the
frames are given to it as they are or come out of chunks.  A frame that is not decoded can be put in
between any two frames, also within a chunk, and nothing is told but what would have been, nor does
anything change but the counters.  And these are all the frames of which nothing is told. -/
theorem undecoded_leave_no_trace (s : BatterySession) :
    (∀ frames frames' : List (Wire.Frame × Instant),
      Wire.decoded (frames.map Prod.fst) = Wire.decoded (frames'.map Prod.fst) →
        (s.handleFramesAt frames).events = (s.handleFramesAt frames').events ∧
          (s.handleFramesAt frames).session.Alike (s.handleFramesAt frames').session) ∧
    (∀ chunks chunks' : List (Bytes × Instant),
      Wire.decoded (s.reassembler.feedAll (chunks.map Prod.fst)).1
          = Wire.decoded (s.reassembler.feedAll (chunks'.map Prod.fst)).1 →
        (s.handleChunks chunks).events = (s.handleChunks chunks').events ∧
          (s.handleChunks chunks).session.Alike (s.handleChunks chunks').session) ∧
    (∀ (before after : List (Wire.Frame × Instant)) (f : Wire.Frame) (now : Instant),
      f.Undecoded →
        (s.handleFramesAt (before ++ (f, now) :: after)).events
            = (s.handleFramesAt (before ++ after)).events ∧
          (s.handleFramesAt (before ++ (f, now) :: after)).session
            = (s.handleFramesAt (before ++ after)).session) ∧
    (∀ (before behind : Bytes) (f : Wire.Frame) (now : Instant) (later : List (Bytes × Instant)),
      f.Valid → f.Undecoded → (s.reassembler.feed before).2.buffer = [] →
        let whole := s.handleChunks ((before ++ f.toBytes ++ behind, now) :: later)
        let without := s.handleChunks ((before ++ behind, now) :: later)
        whole.events = without.events ∧ whole.session.SameButCounters without.session) ∧
    ∀ (f : Wire.Frame) (now : Instant), (s.handleFrame f now).events = [] ↔ f.Undecoded := by
  have hself := Alike.refl s
  refine ⟨fun frames frames' hsame => hself.of_decoded_eq hsame, ?_, ?_, ?_,
    fun f now => s.events_handleFrame_eq_nil_iff f now⟩
  · intro chunks chunks' hsame
    obtain ⟨hevents, halike⟩ := hself.handleChunks chunks ⟨0, 0⟩
    obtain ⟨hevents', halike'⟩ := hself.handleChunks chunks' ⟨0, 0⟩
    obtain ⟨htold, hsession⟩ := s.handleFrames_decoded ⟨0, 0⟩
      (s.reassembler.feedAll (chunks.map Prod.fst)).1
    obtain ⟨htold', hsession'⟩ := s.handleFrames_decoded ⟨0, 0⟩
      (s.reassembler.feedAll (chunks'.map Prod.fst)).1
    rw [hevents, hevents', htold, htold', hsame]
    rw [hsession, hsame, ← hsession'] at halike
    exact ⟨rfl, halike.trans halike'.symm⟩
  · intro before after f now hf
    obtain ⟨hevents, hsession⟩ := s.handleFramesAt_decoded (before ++ (f, now) :: after)
    obtain ⟨hevents', hsession'⟩ := s.handleFramesAt_decoded (before ++ after)
    rw [hevents, hevents', hsession, hsession', List.filter_append, List.filter_append,
      List.filter_cons_of_neg (by simpa using hf)]
    exact ⟨rfl, rfl⟩
  · intro before behind f now later hf hundecoded hstep whole without
    obtain ⟨frames, hwith, hwithout, hbuffer⟩ := Wire.Reassembler.exists_feed_insert hf hstep behind
    have hsame : s.SameButCounters s := ⟨rfl, rfl, rfl, rfl⟩
    obtain ⟨hfirst, hsession⟩ := hsame.handleChunk now
      (by rw [hwith, hwithout, Wire.decoded_insert hundecoded]) hbuffer
    obtain ⟨hlater, hlast⟩ := hsession.handleChunks later
    refine ⟨?_, hlast⟩
    show _ ++ _ = _ ++ _
    rw [hfirst, hlater]

/-- A report of 10 percent that is an error, and four frames that no register answers with, stand
between the reports of 50 and of 15 percent, and then the error in a chunk with them. -/
theorem undecoded_leave_no_trace_between_reports :
    let frame (register status : UInt8) (payload : Bytes) : Wire.Frame :=
      { register, status, payload
        checksum := Wire.Checksum.compute (Wire.Frame.covered status payload) }
    let report (status soc : UInt8) : Wire.Frame :=
      frame 0x03 status (List.replicate 19 0 ++ [soc, 0, 0, 0])
    let strays : List Wire.Frame :=
      [frame 0x07 0 [], frame 0x03 0 (List.replicate 22 0), frame 0x04 0 [], frame 0x04 0 [1, 2, 3]]
    let s := new "battery" (some 20)
    let good : List (Wire.Frame × Instant) := [(report 0 50, ⟨1, 0⟩), (report 0 15, ⟨2, 0⟩)]
    let all := [(report 0 50, ⟨3, 0⟩), (report 0x80 10, ⟨4, 0⟩)] ++ strays.map (·, ⟨5, 0⟩)
      ++ [(report 0 15, ⟨6, 0⟩)]
    let before := (report 0 50).toBytes
    let behind := (report 0 15).toBytes
    let cut : List (Bytes × Instant) := [(before ++ behind.take 9, ⟨1, 0⟩), (behind.drop 9, ⟨2, 0⟩)]
    let whole := [(before ++ (report 0x80 10).toBytes ++ behind, ⟨3, 0⟩)]
    (s.handleFramesAt all).events = (s.handleFramesAt good).events ∧
      (s.handleFramesAt good).events.length = 3 ∧
      (s.handleChunks whole).events = (s.handleChunks cut).events ∧
      (s.handleChunks whole).session.SameButCounters
        (s.handleChunks [(before ++ behind, ⟨3, 0⟩)]).session ∧
      ∀ f ∈ strays, (s.handleFrame f ⟨7, 0⟩).events = [] := by
  intro frame report strays s good all before behind cut whole
  obtain ⟨hframes, hchunks, -, hwithin, hnil⟩ := undecoded_leave_no_trace s
  have hrefused : (report 0x80 10).Undecoded := by decide
  have hstrays : ∀ f ∈ strays, f.Undecoded := by decide
  have hvalid : (report 0x80 10).Valid := ⟨by decide, rfl⟩
  have hstep : (s.reassembler.feed before).2.buffer = [] := by decide +kernel
  have hsame : Wire.decoded (all.map Prod.fst) = Wire.decoded (good.map Prod.fst) := by
    decide +kernel
  have hcut : Wire.decoded (s.reassembler.feedAll (whole.map Prod.fst)).1
      = Wire.decoded (s.reassembler.feedAll (cut.map Prod.fst)).1 := by
    decide +kernel
  refine ⟨(hframes all good hsame).1, by decide +kernel, (hchunks whole cut hcut).1, ?_, ?_⟩
  · exact (hwithin before behind (report 0x80 10) ⟨3, 0⟩ [] hvalid hrefused hstep).2
  · intro f hf
    exact (hnil f ⟨7, 0⟩).mpr (hstrays f hf)

end BatterySession

end SensorGateway
