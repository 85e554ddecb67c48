import SensorGateway.Proofs.Guarded.Basic
import SensorGateway.Proofs.Wire.Recovery

/-!
# Looking for frames does not trap

The reassembler with guarded operations goes through its buffer as a machine does: it looks for the
next start marker, discards what is before it, reads the length byte, and from there knows where the
end marker has to be (`Guarded.nextFrame`).  Each round of the search takes at least one byte out of
the buffer, so there are not more rounds than bytes, and what comes of them all is what
`Wire.Reassembler.drain` says (`Guarded.feed_eq_ok`).

By the time a frame is parsed its markers and its length have been looked at, so it can only be
refused for its checksum (`Wire.Frame.parse_eq_error_of_marked`).
-/

namespace SensorGateway

namespace Wire

/-- The error is that of a read outside the frame. -/
def FrameError.isWild : FrameError → Bool
  | outOfRange _ => true
  | tooShort _ | badMarkers | lengthMismatch _ _ | checksumMismatch _ _ | payloadTooLong _ => false

/-- Bytes that stand between the markers, and are as many as they say, can only have a wrong
checksum. -/
theorem Frame.parse_eq_error_of_marked {bytes : Bytes} (hcomplete : Complete bytes)
    (hstart : bytes.head? = some startMarker)
    (hend : bytes[bytes.length - 1]? = some endMarker) {e : FrameError}
    (h : Frame.parse bytes = .error e) :
    ∃ expected actual, e = .checksumMismatch expected actual := by
  obtain ⟨length, hlength, htotal⟩ := hcomplete
  obtain ⟨l, hl, -, rfl⟩ := exists_layout hlength htotal
  have hfirst : l.first = startMarker := Option.some.inj hstart
  have hlast : l.last = endMarker := by
    rw [l.length_bytes, l.getElem?_last] at hend
    exact Option.some.inj hend
  rw [Frame.parse_layout hl, if_neg (by simp [hfirst, hlast])] at h
  split at h
  · cases h
    exact ⟨_, _, rfl⟩
  · cases h

namespace ReassemblyStats

/-- Each counter fits a word. -/
structure Fits (s : ReassemblyStats) : Prop where
  frames : s.frames < twoTo 64
  rejected : s.rejected < twoTo 64
  discarded : s.discarded < twoTo 64

/-- No counter is larger. -/
structure AtMost (s later : ReassemblyStats) : Prop where
  frames : s.frames ≤ later.frames
  rejected : s.rejected ≤ later.rejected
  discarded : s.discarded ≤ later.discarded

/-- Counters are not greater than themselves. -/
theorem AtMost.refl (s : ReassemblyStats) : s.AtMost s :=
  ⟨Nat.le_refl _, Nat.le_refl _, Nat.le_refl _⟩

/-- What is not greater than counters that are not greater is not greater, either. -/
theorem AtMost.trans {s s' s'' : ReassemblyStats} (h : s.AtMost s') (h' : s'.AtMost s'') :
    s.AtMost s'' :=
  ⟨Nat.le_trans h.frames h'.frames, Nat.le_trans h.rejected h'.rejected,
    Nat.le_trans h.discarded h'.discarded⟩

/-- Counting noise makes no counter smaller. -/
theorem atMost_noise (s : ReassemblyStats) : s.AtMost s.noise :=
  ⟨Nat.le_refl _, Nat.le_refl _, Nat.le_succ _⟩

/-- Nor does counting damage, -/
theorem atMost_damaged (s : ReassemblyStats) : s.AtMost s.damaged :=
  ⟨Nat.le_refl _, Nat.le_succ _, Nat.le_succ _⟩

/-- or counting a frame. -/
theorem atMost_frame (s : ReassemblyStats) : s.AtMost s.frame :=
  ⟨Nat.le_succ _, Nat.le_refl _, Nat.le_refl _⟩

/-- Counters fit if later ones do. -/
theorem Fits.of_atMost {s later : ReassemblyStats} (h : later.Fits) (hle : s.AtMost later) :
    s.Fits :=
  ⟨Nat.lt_of_le_of_lt hle.frames h.frames, Nat.lt_of_le_of_lt hle.rejected h.rejected,
    Nat.lt_of_le_of_lt hle.discarded h.discarded⟩

end ReassemblyStats

/-- Counters only go up. -/
theorem Reassembler.atMost_drain (buffer : Bytes) (stats : ReassemblyStats) :
    stats.AtMost (drain buffer stats).2.stats := by
  induction buffer using Front.induction generalizing stats with
  | nil =>
      rw [drain_nil]
      exact .refl stats
  | undecided buffer h =>
      rw [drain_of_undecided stats h]
      exact .refl stats
  | noise b rest h ih =>
      rw [drain_of_noise stats h]
      exact stats.atMost_noise.trans (ih stats.noise)
  | damaged b rest h ih =>
      rw [drain_of_damaged stats h]
      exact stats.atMost_damaged.trans (ih stats.damaged)
  | frame f rest hf ih =>
      rw [drain_toBytes_append stats hf]
      exact stats.atMost_frame.trans (ih stats.frame)

end Wire

open Wire

namespace Guarded

/-! ## The reassembler -/

/-- Skips bytes at the front of the buffer. -/
def discard (r : Reassembler) (count : Nat) : Except Trap Reassembler :=
  if count = 0 then .ok r
  else do
    let buffer ← cut r.buffer count
    let discarded ← plus r.stats.discarded count
    return { buffer, stats := { r.stats with discarded } }

/-- Skips a start marker that opens no valid frame. -/
def reject (r : Reassembler) : Except Trap Reassembler := do
  let rejected ← plus r.stats.rejected 1
  discard { r with stats := { r.stats with rejected } } 1

/-- Goes on with a search that may trap. -/
abbrev Search := Reassembler → Except Trap (Option Frame × Reassembler)

/-- Judges the bytes that a start marker at the front claims, the last of which is given.  If they
are no valid frame the marker is skipped, and the search goes on. -/
def judgeCandidate (r : Reassembler) (candidate : Bytes) (last : UInt8) (search : Search) :
    Except Trap (Option Frame × Reassembler) :=
  if last ≠ endMarker then reject r >>= search
  else do
    match ← answer FrameError.isWild (Frame.parse candidate) with
    | .ok f =>
        let buffer ← cut r.buffer candidate.length
        let frames ← plus r.stats.frames 1
        return (some f, { buffer, stats := { r.stats with frames } })
    | .error (.checksumMismatch _ _) => reject r >>= search
    | .error _ => .error .misjudged

/-- Judges a buffer that begins with a start marker, once enough bytes are there. -/
def judge (r : Reassembler) (search : Search) : Except Trap (Option Frame × Reassembler) :=
  if r.buffer.length < 4 then .ok (none, r)
  else do
    let length ← get r.buffer 3
    let total := length.toNat + overhead
    if r.buffer.length < total then
      return (none, r)
    else
      let last ← get r.buffer (← minus total 1)
      let candidate ← front r.buffer total
      judgeCandidate r candidate last search

/-- Looks for the next frame, in so many rounds at most. -/
def nextFrame (r : Reassembler) : Nat → Except Trap (Option Frame × Reassembler)
  | 0 => .error .endless
  | rounds + 1 =>
      match r.buffer.findIdx? (· == startMarker) with
      | none => do
          let r ← discard r r.buffer.length
          return (none, r)
      | some start => do
          let r ← discard r start
          judge r fun r => nextFrame r rounds

/-- Hands out frames until there is none, in so many rounds at most. -/
def collect (r : Reassembler) : Nat → Except Trap (List Frame × Reassembler)
  | 0 => .error .endless
  | rounds + 1 => do
      let (found, r) ← nextFrame r (r.buffer.length + 1)
      match found with
      | none => return ([], r)
      | some f =>
          let (frames, r) ← collect r rounds
          return (f :: frames, r)

/-- Takes in a chunk and hands out the frames that it completes. -/
def feed (r : Reassembler) (chunk : Bytes) : Except Trap (List Frame × Reassembler) :=
  let r := { r with buffer := r.buffer ++ chunk }
  collect r (r.buffer.length + 1)

/-! ## One round -/

variable {buffer rest : Bytes} {stats : ReassemblyStats}

/-- Noise can be discarded if the counters for it fit. -/
theorem discard_eq_ok {noise : Bytes} (hfits : stats.discarded + noise.length < twoTo 64) :
    let later := { stats with discarded := stats.discarded + noise.length }
    discard { buffer := noise ++ rest, stats } noise.length
      = .ok { buffer := rest, stats := later } := by
  intro later
  unfold discard
  split
  next hzero => simp [later, List.eq_nil_of_length_eq_zero hzero]
  · rw [cut_eq_ok (by simp), plus_eq_ok hfits, List.drop_left]
    rfl

/-- A start marker can be rejected if the counters for it fit. -/
theorem reject_eq_ok {b : UInt8} (hfits : stats.damaged.Fits) :
    reject { buffer := b :: rest, stats } = .ok { buffer := rest, stats := stats.damaged } := by
  let rejected := { stats with rejected := stats.rejected + 1 }
  have hdiscard : discard { buffer := [b] ++ rest, stats := rejected } 1
      = .ok { buffer := rest, stats := stats.damaged } := discard_eq_ok hfits.discarded
  rw [reject, plus_eq_ok hfits.rejected]
  exact hdiscard

/-! ## A start marker at the front -/

section Judge

variable {search : Search}

/-- A candidate that is not complete is kept. -/
theorem judge_of_undecided (h : Front.of buffer = .undecided) :
    judge { buffer, stats } search = .ok (none, { buffer, stats }) := by
  obtain ⟨-, hcandidate⟩ := Front.of_eq_undecided_iff.mp h
  by_cases hlong : buffer.length < 4
  · exact if_pos hlong
  · obtain ⟨length, hlength⟩ : ∃ length, buffer[3]? = some length :=
      ⟨buffer[3], List.getElem?_eq_getElem (by omega)⟩
    have hshort : buffer.length < length.toNat + overhead := by
      refine Nat.lt_of_not_le fun hle => ?_
      simp [candidate?, hlength, hle] at hcandidate
    simp only [judge, if_neg hlong, get_eq_ok hlength, bind, Except.bind, if_pos hshort]
    rfl

/-- All reads are within the bytes that the marker claims. -/
theorem judge_of_complete {bytes : Bytes} (hcomplete : Complete bytes) {last : UInt8}
    (hlast : bytes[bytes.length - 1]? = some last) :
    judge { buffer := bytes ++ rest, stats } search
      = judgeCandidate { buffer := bytes ++ rest, stats } bytes last search := by
  obtain ⟨length, hlength, htotal⟩ := hcomplete
  have hseven : 7 ≤ bytes.length := by
    simp only [overhead] at htotal
    omega
  have hlen : bytes.length ≤ (bytes ++ rest).length := by simp
  have hthree : (bytes ++ rest)[3]? = some length := by
    rw [List.getElem?_append_left (by omega), hlength]
  have hend : (bytes ++ rest)[bytes.length - 1]? = some last := by
    rw [List.getElem?_append_left (by omega), hlast]
  have hlong : ¬ (bytes ++ rest).length < 4 := by omega
  have hone : 1 ≤ bytes.length := by omega
  simp only [judge, if_neg hlong, get_eq_ok hthree, bind, Except.bind, ← htotal,
    if_neg (Nat.not_lt.mpr hlen), minus_eq_ok hone, get_eq_ok hend, front_eq_ok hlen,
    List.take_left]

/-- One that is damaged loses its start marker. -/
theorem judge_of_damaged {b : UInt8} (h : Front.of (b :: rest) = .damaged)
    (hfits : stats.damaged.Fits) :
    judge { buffer := b :: rest, stats } search
      = search { buffer := rest, stats := stats.damaged } := by
  obtain ⟨hstart, bytes, hcandidate, e, hparse⟩ := Front.of_eq_damaged_iff.mp h
  obtain ⟨hcomplete, rest', hbuffer⟩ := candidate?_eq_some_iff.mp hcandidate
  have hskip : reject { buffer := b :: rest, stats } >>= search
      = search { buffer := rest, stats := stats.damaged } := by
    rw [reject_eq_ok hfits]
    rfl
  obtain ⟨length, -, htotal⟩ := id hcomplete
  have hseven : 7 ≤ bytes.length := by
    simp only [overhead] at htotal
    omega
  obtain ⟨last, hlast⟩ : ∃ last, bytes[bytes.length - 1]? = some last :=
    ⟨bytes[bytes.length - 1], List.getElem?_eq_getElem (by omega)⟩
  rw [hbuffer, judge_of_complete hcomplete hlast, ← hbuffer, judgeCandidate]
  split
  · exact hskip
  next hend =>
    have hmarked : bytes.head? = some startMarker := by
      have hpos : 0 < bytes.length := by omega
      obtain ⟨first, tail, rfl⟩ := List.exists_cons_of_length_pos hpos
      rw [hbuffer] at hstart
      exact hstart
    rw [Decidable.not_not.mp hend] at hlast
    -- the markers and the length have been looked at, so it is the checksum
    obtain ⟨expected, actual, rfl⟩ :=
      Frame.parse_eq_error_of_marked hcomplete hmarked hlast hparse
    rw [hparse]
    exact hskip

/-- A frame is taken out of the buffer. -/
theorem judge_of_frame {f : Frame} (hf : f.Valid) (hfits : stats.frame.Fits) :
    judge { buffer := f.toBytes ++ rest, stats } search
      = .ok (some f, { buffer := rest, stats := stats.frame }) := by
  have hlast : f.toBytes[f.toBytes.length - 1]? = some endMarker := by
    rw [f.length_toBytes]
    exact f.layout.getElem?_last
  have hlen : f.toBytes.length ≤ (f.toBytes ++ rest).length := by simp
  rw [judge_of_complete hf.complete hlast, judgeCandidate, if_neg (not_not_intro rfl),
    Frame.parse_toBytes hf]
  simp only [answer, bind, Except.bind, cut_eq_ok hlen, List.drop_left, plus_eq_ok hfits.frames]
  rfl

end Judge

/-! ## The search -/

/-- What has been found next is what draining the buffer finds first. -/
inductive Finds (r : Reassembler) : Option Frame × Reassembler → Prop
  | nothing {r' : Reassembler} : Reassembler.drain r.buffer r.stats = ([], r') →
      Finds r (none, r')
  | frame {f : Frame} {r' : Reassembler} : r'.buffer.length < r.buffer.length →
      Reassembler.drain r.buffer r.stats
        = (f :: (Reassembler.drain r'.buffer r'.stats).1, (Reassembler.drain r'.buffer r'.stats).2) →
      Finds r (some f, r')

/-- Skipping bytes does not change what is found. -/
theorem Finds.of_drain_eq {r r' : Reassembler} {found : Option Frame × Reassembler}
    (h : Finds r' found) (hlen : r'.buffer.length ≤ r.buffer.length)
    (hdrain : Reassembler.drain r.buffer r.stats = Reassembler.drain r'.buffer r'.stats) :
    Finds r found := by
  cases h with
  | nothing hnone => exact .nothing (hdrain.trans hnone)
  | frame hlt hsome => exact .frame (Nat.lt_of_lt_of_le hlt hlen) (hdrain.trans hsome)

/-- There is no start marker, or there are bytes before the first. -/
theorem exists_noise (buffer : Bytes) :
    (buffer.findIdx? (· == startMarker) = none ∧ startMarker ∉ buffer) ∨
      ∃ noise rest, buffer = noise ++ startMarker :: rest ∧ startMarker ∉ noise ∧
        buffer.findIdx? (· == startMarker) = some noise.length := by
  induction buffer with
  | nil => exact Or.inl ⟨rfl, List.not_mem_nil⟩
  | cons b buffer ih =>
      rw [List.findIdx?_cons]
      by_cases hb : b = startMarker
      · subst hb
        exact Or.inr ⟨[], buffer, rfl, List.not_mem_nil, by simp⟩
      · have hne : (b == startMarker) = false := beq_eq_false_iff_ne.mpr hb
        rw [hne]
        rcases ih with ⟨hnone, hclean⟩ | ⟨noise, rest, rfl, hclean, hsome⟩
        · exact Or.inl ⟨by simp [hnone], by simp [hclean, Ne.symm hb]⟩
        · exact Or.inr ⟨b :: noise, rest, rfl, by simp [hclean, Ne.symm hb], by simp [hsome]⟩

/-- The search comes to an end, finds what there is, and does not trap. -/
theorem exists_nextFrame {r : Reassembler} {rounds : Nat} (hrounds : r.buffer.length < rounds)
    (hfits : (Reassembler.drain r.buffer r.stats).2.stats.Fits) :
    ∃ found, nextFrame r rounds = .ok found ∧ Finds r found := by
  induction rounds generalizing r with
  | zero => exact absurd hrounds (Nat.not_lt_zero _)
  | succ rounds ih =>
      obtain ⟨buffer, stats⟩ := r
      dsimp only at hrounds hfits
      unfold nextFrame
      rcases exists_noise buffer with ⟨hnone, hclean⟩ | ⟨noise, rest, rfl, hclean, hsome⟩
      · -- all that is left is noise
        have hdrain := Reassembler.drain_noise_append hclean stats []
        rw [List.append_nil, Reassembler.drain_nil] at hdrain
        rw [hdrain] at hfits
        let later := { stats with discarded := stats.discarded + buffer.length }
        have hdiscard : discard { buffer := buffer ++ [], stats } buffer.length
            = .ok { buffer := [], stats := later } := discard_eq_ok hfits.discarded
        rw [List.append_nil] at hdiscard
        simp only [hnone, hdiscard, bind, Except.bind]
        exact ⟨_, rfl, .nothing hdrain⟩
      · let later := { stats with discarded := stats.discarded + noise.length }
        have hdrain := Reassembler.drain_noise_append hclean stats (startMarker :: rest)
        rw [hdrain] at hfits
        have hlater := hfits.of_atMost (Reassembler.atMost_drain (startMarker :: rest) later)
        simp only [hsome, discard_eq_ok hlater.discarded, bind, Except.bind]
        suffices hmarked : ∃ found,
            judge { buffer := startMarker :: rest, stats := later } (nextFrame · rounds) = .ok found ∧
              Finds { buffer := startMarker :: rest, stats := later } found by
          obtain ⟨found, hjudge, hfinds⟩ := hmarked
          exact ⟨found, hjudge, hfinds.of_drain_eq (by simp) hdrain⟩
        cases hfront : Front.of (startMarker :: rest) with
        | undecided =>
            refine ⟨_, judge_of_undecided hfront, .nothing ?_⟩
            exact Reassembler.drain_of_undecided later hfront
        | noise => exact absurd (Front.of_eq_noise_iff.mp hfront) (by simp)
        | damaged =>
            have hskip := Reassembler.drain_of_damaged later hfront
            rw [hskip] at hfits
            rw [judge_of_damaged hfront (hfits.of_atMost (Reassembler.atMost_drain rest _))]
            have hshorter : rest.length < rounds := by
              simp only [List.length_append, List.length_cons] at hrounds
              omega
            obtain ⟨found, hfound, hfinds⟩ := ih (r := ⟨rest, later.damaged⟩) hshorter hfits
            exact ⟨found, hfound, hfinds.of_drain_eq (by simp) hskip⟩
        | frame f =>
            obtain ⟨hf, rest', hbuffer⟩ := Front.of_eq_frame_iff.mp hfront
            have htake := Reassembler.drain_toBytes_append later hf rest'
            rw [hbuffer] at hfits ⊢
            rw [htake] at hfits
            refine ⟨_, judge_of_frame hf (hfits.of_atMost (Reassembler.atMost_drain rest' _)), ?_⟩
            refine .frame ?_ htake
            simp only [List.length_append, f.length_toBytes, overhead]
            omega

/-! ## All frames -/

/-- As many rounds as there are bytes, and one more, drain the buffer. -/
theorem collect_eq_ok {r : Reassembler} {rounds : Nat} (hrounds : r.buffer.length < rounds)
    (hfits : (Reassembler.drain r.buffer r.stats).2.stats.Fits) :
    collect r rounds = .ok (Reassembler.drain r.buffer r.stats) := by
  induction rounds generalizing r with
  | zero => exact absurd hrounds (Nat.not_lt_zero _)
  | succ rounds ih =>
      obtain ⟨found, hfound, hfinds⟩ := exists_nextFrame (Nat.lt_succ_self _) hfits
      unfold collect
      simp only [hfound, bind, Except.bind]
      cases hfinds with
      | nothing hdrain =>
          rw [hdrain]
          rfl
      | frame hshorter hdrain =>
          rw [hdrain] at hfits ⊢
          simp only [ih (Nat.lt_of_lt_of_le hshorter (Nat.le_of_lt_succ hrounds)) hfits]
          rfl

/-- Taking in a chunk does not trap as long as no counter runs over, and comes to an end. -/
theorem feed_eq_ok {r : Reassembler} {chunk : Bytes} (hfits : (r.feed chunk).2.stats.Fits) :
    feed r chunk = .ok (r.feed chunk) :=
  collect_eq_ok (r := { r with buffer := r.buffer ++ chunk }) (Nat.lt_succ_self _) hfits

end Guarded

end SensorGateway
