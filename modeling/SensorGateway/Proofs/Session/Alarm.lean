import Mathlib.Data.List.SplitBy
import SensorGateway.Session.Alarm

/-!
# When the alarm goes off

An alarm is armed as long as there has been no reading, or the last one was above the threshold
(`Alarm.Awaits`), and goes off for a reading that is not.  So the reading that sets it off begins a
run of readings at the threshold or below, and there is one alarm for each such run
(`Alarm.length_crossings`).
-/

namespace SensorGateway

namespace Alarm

variable {threshold last : Option UInt8} {limit : UInt8} {readings run : List UInt8}

/-! ## When it is armed -/

/-- The reading sets off the alarm: it is at the threshold or below, and the reading before it, if
there was one, was not. -/
def SetsOff (threshold last : Option UInt8) (soc limit : UInt8) : Prop :=
  threshold = some limit ∧ soc ≤ limit ∧ ∀ p ∈ last, limit < p

/-- The alarm knows as much of the readings so far as it needs. -/
def Awaits (a : Alarm) (threshold last : Option UInt8) : Prop :=
  a.threshold = threshold ∧ ∀ limit ∈ threshold, (a.armed = true ↔ ∀ p ∈ last, limit < p)

/-- A new alarm awaits the first reading. -/
theorem awaits_new (threshold : Option UInt8) : (new threshold).Awaits threshold none :=
  ⟨rfl, fun _ _ => ⟨fun _ _ hp => (nomatch hp), fun _ => rfl⟩⟩

/-- A low reading sets off the alarm if it is armed. -/
theorem fst_update_eq_some_iff (a : Alarm) (soc limit : UInt8) :
    (a.update soc).1 = some limit ↔ a.threshold = some limit ∧ soc ≤ limit ∧ a.armed = true := by
  unfold Alarm.update
  cases a.threshold with
  | none => simp
  | some t =>
      by_cases hhigh : t < soc
      · simp only [hhigh, if_true, Option.some.injEq]
        constructor
        · simp
        · rintro ⟨rfl, hlow, -⟩
          exact absurd hhigh (UInt8.not_lt.mpr hlow)
      · have hlow : soc ≤ t := UInt8.not_lt.mp hhigh
        cases a.armed with
        | false => simp [hhigh]
        | true =>
            simp only [hhigh, if_false, if_true, Option.some.injEq, and_true]
            constructor
            · rintro rfl
              exact ⟨rfl, hlow⟩
            · exact And.left

/-- The threshold is never changed. -/
theorem threshold_update (a : Alarm) (soc : UInt8) : (a.update soc).2.threshold = a.threshold := by
  unfold Alarm.update
  cases h : a.threshold with
  | none => exact h
  | some t =>
      dsimp only
      split
      · rfl
      · split
        · rfl
        · exact h

/-- After a reading the alarm is armed if the reading was high, whatever was before. -/
theorem armed_update {a : Alarm} {limit : UInt8} (h : a.threshold = some limit) (soc : UInt8) :
    (a.update soc).2.armed = decide (limit < soc) := by
  unfold Alarm.update
  rw [h]
  dsimp only
  by_cases hhigh : limit < soc
  · simp [hhigh]
  · cases harmed : a.armed with
    | false => simp [hhigh, harmed]
    | true => simp [hhigh]

/-- An alarm goes off at a reading at or below the threshold if the one before was above it, and
then awaits the next. -/
theorem Awaits.update {a : Alarm} (h : a.Awaits threshold last) (soc : UInt8) :
    (∀ limit, (a.update soc).1 = some limit ↔ SetsOff threshold last soc limit) ∧
      (a.update soc).2.Awaits threshold (some soc) := by
  obtain ⟨rfl, harmed⟩ := h
  refine ⟨fun limit => ?_, a.threshold_update soc, fun limit hlimit => ?_⟩
  · rw [fst_update_eq_some_iff, SetsOff]
    exact and_congr_right fun hlimit => and_congr_right fun _ => harmed limit hlimit
  · rw [armed_update hlimit, decide_eq_true_iff]
    simp

/-! ## Runs of low readings -/

/-- The readings that set off the alarm, of those that come after `last`. -/
def crossings (limit : UInt8) (last : Option UInt8) : List UInt8 → List UInt8
  | [] => []
  | soc :: readings =>
      if soc ≤ limit ∧ last.all (limit < ·) = true then soc :: crossings limit (some soc) readings
      else crossings limit (some soc) readings

/-- With a threshold, an alarm goes off at the first low reading and at each low one after a high
one. -/
theorem setsOff_some_iff {soc limit : UInt8} :
    SetsOff (some limit) last soc limit ↔ soc ≤ limit ∧ last.all (limit < ·) = true := by
  cases last <;> simp [SetsOff]

/-- Whether readings are on the same side of the limit. -/
def sameSide (limit a b : UInt8) : Bool := decide (a ≤ limit) == decide (b ≤ limit)

/-- The longest stretches of readings at the limit or below. -/
def lowRuns (limit : UInt8) (readings : List UInt8) : List (List UInt8) :=
  (readings.splitBy (sameSide limit)).filter fun run => run.all (· ≤ limit)

/-- The crossings in further readings depend on the last one of those before. -/
theorem crossings_append (limit : UInt8) (last : Option UInt8) (readings later : List UInt8) :
    crossings limit last (readings ++ later)
      = crossings limit last readings ++ crossings limit (readings.getLast?.or last) later := by
  induction readings generalizing last with
  | nil => rfl
  | cons soc readings ih =>
      have hlast : ((soc :: readings).getLast?.or last) = readings.getLast?.or (some soc) := by
        simp [List.getLast?_cons]
      rw [hlast]
      simp only [List.cons_append, crossings, ih]
      split <;> rfl

/-- In high readings nothing crosses the threshold. -/
theorem crossings_of_high (hhigh : ∀ soc ∈ run, limit < soc) (last : Option UInt8) :
    crossings limit last run = [] := by
  induction run generalizing last with
  | nil => rfl
  | cons soc run ih =>
      have hsoc : ¬ soc ≤ limit := UInt8.not_le.mpr (hhigh soc List.mem_cons_self)
      rw [crossings, if_neg fun h => hsoc h.1]
      exact ih (fun s hs => hhigh s (List.mem_cons_of_mem soc hs)) (some soc)

/-- In low readings after a low one nothing crosses it, either. -/
theorem crossings_of_low {p : UInt8} (hp : p ≤ limit) (hlow : ∀ soc ∈ run, soc ≤ limit) :
    crossings limit (some p) run = [] := by
  induction run generalizing p with
  | nil => rfl
  | cons soc run ih =>
      have hsoc : ¬ limit < p := UInt8.not_lt.mpr hp
      rw [crossings, if_neg fun h => hsoc (of_decide_eq_true h.2)]
      exact ih (hlow soc List.mem_cons_self) fun s hs => hlow s (List.mem_cons_of_mem soc hs)

/-- A run of low readings after a high one, or after none, sets off the alarm with its first. -/
theorem length_crossings_of_low (hne : run ≠ []) (hlow : ∀ soc ∈ run, soc ≤ limit)
    (hlast : ∀ p ∈ last, limit < p) : (crossings limit last run).length = 1 := by
  cases run with
  | nil => exact absurd rfl hne
  | cons soc run =>
      have hsoc : soc ≤ limit := hlow soc List.mem_cons_self
      rw [crossings, if_pos (setsOff_some_iff.mp ⟨rfl, hsoc, hlast⟩),
        crossings_of_low hsoc fun s hs => hlow s (List.mem_cons_of_mem soc hs)]
      rfl

/-- Readings of which any two that follow each other are on the same side are so all. -/
theorem low_or_high_of_isChain (hrun : run.IsChain fun a b => sameSide limit a b = true) :
    (∀ soc ∈ run, soc ≤ limit) ∨ ∀ soc ∈ run, limit < soc := by
  induction run with
  | nil => simp
  | cons soc run ih =>
      obtain ⟨hhead, htail⟩ := List.isChain_cons.mp hrun
      cases run with
      | nil =>
          rcases UInt8.le_or_lt soc limit with hsoc | hsoc
          · simp [hsoc]
          · simp [hsoc]
      | cons next run =>
          have hsame : soc ≤ limit ↔ next ≤ limit := by
            simpa [sameSide] using hhead next rfl
          rcases ih htail with hlow | hhigh
          · exact Or.inl (List.forall_mem_cons.mpr ⟨hsame.mpr (hlow next List.mem_cons_self), hlow⟩)
          · have hnext : ¬ next ≤ limit := UInt8.not_le.mpr (hhigh next List.mem_cons_self)
            have hsoc : limit < soc := UInt8.not_le.mp (mt hsame.mp hnext)
            exact Or.inr (List.forall_mem_cons.mpr ⟨hsoc, hhigh⟩)

/-- One run after a reading on the other side. -/
theorem length_crossings_run (hne : run ≠ [])
    (hsame : run.IsChain fun a b => sameSide limit a b = true)
    (hlast : ∀ p ∈ last, sameSide limit p (run.head hne) = false) :
    (crossings limit last run).length = if run.all (· ≤ limit) then 1 else 0 := by
  rcases low_or_high_of_isChain hsame with hlow | hhigh
  · have hall : run.all (· ≤ limit) = true := List.all_eq_true.mpr (by simpa using hlow)
    rw [if_pos hall]
    refine length_crossings_of_low hne hlow fun p hp => UInt8.not_le.mp fun hple => ?_
    have hother := hlast p hp
    simp [sameSide, hple, hlow (run.head hne) (List.head_mem hne)] at hother
  · have hall : ¬ run.all (· ≤ limit) = true := by
      intro hall
      have hlow : run.head hne ≤ limit := by
        simpa using List.all_eq_true.mp hall (run.head hne) (List.head_mem hne)
      exact UInt8.not_le.mpr (hhigh (run.head hne) (List.head_mem hne)) hlow
    rw [if_neg hall, crossings_of_high hhigh, List.length_nil]

/-- Cut into runs on one side of the threshold, readings cross it once for each low run. -/
theorem length_crossings_flatten {runs : List (List UInt8)} (hne : [] ∉ runs)
    (hsame : ∀ run ∈ runs, run.IsChain fun a b => sameSide limit a b = true)
    (hcut : runs.IsChain fun a b => ∃ ha hb, sameSide limit (a.getLast ha) (b.head hb) = false)
    (hlast : ∀ p ∈ last, ∀ run ∈ runs.head?, ∃ hb, sameSide limit p (run.head hb) = false) :
    (crossings limit last runs.flatten).length
      = (runs.filter fun run => run.all (· ≤ limit)).length := by
  induction runs generalizing last with
  | nil => rfl
  | cons run runs ih =>
      obtain ⟨hhead, htail⟩ := List.isChain_cons.mp hcut
      have hrun : run ≠ [] := fun hnil => hne (hnil ▸ List.mem_cons_self)
      have hfirst := length_crossings_run hrun (hsame run List.mem_cons_self) fun p hp =>
        (hlast p hp run rfl).2
      have hend : run.getLast?.or last = some (run.getLast hrun) := by
        rw [List.getLast?_eq_some_getLast hrun, Option.some_or]
      have hbetween : ∀ p ∈ some (run.getLast hrun), ∀ later ∈ runs.head?,
          ∃ hb, sameSide limit p (later.head hb) = false := by
        rintro p ⟨⟩ later hlater
        obtain ⟨_, hb, hother⟩ := hhead later hlater
        exact ⟨hb, hother⟩
      have hlater := ih (fun hnil => hne (List.mem_cons_of_mem run hnil))
        (fun later hmem => hsame later (List.mem_cons_of_mem run hmem)) htail hbetween
      rw [List.flatten_cons, crossings_append, List.length_append, hfirst, hend, hlater,
        List.filter_cons]
      split
      · rw [List.length_cons, Nat.add_comm]
      · rw [Nat.zero_add]

/-- There is one alarm for each run of low readings. -/
theorem length_crossings (limit : UInt8) (readings : List UInt8) :
    (crossings limit none readings).length = (lowRuns limit readings).length := by
  have hfirst : ∀ p ∈ (none : Option UInt8), ∀ run ∈ (readings.splitBy (sameSide limit)).head?,
      ∃ hb, sameSide limit p (run.head hb) = false := fun p hp => nomatch hp
  have hruns := length_crossings_flatten (List.nil_notMem_splitBy (sameSide limit) readings)
    (fun _ => List.isChain_of_mem_splitBy) (List.isChain_getLast_head_splitBy _ readings) hfirst
  rw [List.flatten_splitBy] at hruns
  exact hruns

end Alarm

end SensorGateway
