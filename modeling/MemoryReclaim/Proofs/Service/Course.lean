import MemoryReclaim.Proofs.Service.CycleEvents

/-!
# The course of a cycle

How a cycle goes on and where it ends depends on two things of each pass: the memory it
gained and the reading after its kill.  `Course` is the loop over the passes with all else
left out, and what a report says is shown on it.
-/

namespace MemoryReclaim

/-- What a report can go by once the passes of a cycle are over. -/
structure Findings where
  cap : Nat
  /-- The available memory that the cycle was to get back to. -/
  buffer : Kilobytes
  deficit : Kilobytes
  kills : Nat
  freed : Kilobytes
  /-- The last reading after a kill. -/
  lastReading : Option (Option Kilobytes)
  /-- The memory gained in the last pass. -/
  lastGain : Option Kilobytes

namespace Findings

/-- The last reading after a kill was below what the cycle was to get back to. -/
def IsShort (findings : Findings) : Prop :=
  ∃ available, findings.lastReading = some (some available) ∧ available < findings.buffer

/-- What each outcome says of the findings; the passes of a cycle have no other outcomes. -/
def Bear (findings : Findings) : CycleOutcome → Prop
  | .recovered => ∃ available, findings.lastReading = some (some available) ∧
      findings.buffer ≤ available
  | .measurementLost => findings.lastReading = some none
  | .nothingKillable => findings.lastGain = some 0
  | .killCapReached => findings.kills = findings.cap ∧ (findings.cap = 0 ∨ findings.IsShort)
  | .deficitCovered =>
      findings.IsShort ∧ findings.kills < findings.cap ∧ findings.deficit ≤ findings.freed
  | .memoryUnavailable | .noKillNeeded | .invalidFloor => False

/-- Of the memory gained last it only matters whether it is nothing. -/
theorem bear_congr_lastGain (findings : Findings) {lastGain : Option Kilobytes}
    (hzero : lastGain = some 0 ↔ findings.lastGain = some 0) (outcome : CycleOutcome) :
    { findings with lastGain }.Bear outcome ↔ findings.Bear outcome := by
  cases outcome with
  | nothingKillable => exact hzero
  | memoryUnavailable | noKillNeeded | invalidFloor | measurementLost | recovered
  | deficitCovered | killCapReached => rfl

end Findings

/-- What a pass comes to: the memory that it gained, and the reading after its kill. -/
structure PassResult where
  gain : Kilobytes
  reading : Option Kilobytes

/-- The reading that the cycle takes after a pass; after a kill without a gain it takes none. -/
def PassResult.reading? (result : PassResult) : Option (Option Kilobytes) :=
  if result.gain = 0 then none else some result.reading

/-- The results of the passes of a cycle, from the given counts on, and how it ends. -/
inductive Course (buffer deficit : Kilobytes) :
    (left kills : Nat) → (freed : Kilobytes) → List PassResult → Tally → Prop
  | cap (kills : Nat) (freed : Kilobytes) :
      Course buffer deficit 0 kills freed [] ⟨kills, freed, .killCapReached⟩
  | covered (left kills : Nat) {freed : Kilobytes} (hcovered : deficit ≤ freed) :
      Course buffer deficit (left + 1) kills freed [] ⟨kills, freed, .deficitCovered⟩
  | nothing (left kills : Nat) {freed : Kilobytes} (reading : Option Kilobytes)
      (hopen : freed < deficit) :
      Course buffer deficit (left + 1) kills freed [⟨0, reading⟩]
        ⟨kills, freed, .nothingKillable⟩
  | lost (left kills : Nat) {freed gain : Kilobytes} (hopen : freed < deficit)
      (hgain : gain ≠ 0) :
      Course buffer deficit (left + 1) kills freed [⟨gain, none⟩]
        ⟨kills + 1, freed + gain, .measurementLost⟩
  | recovered (left kills : Nat) {freed gain available : Kilobytes} (hopen : freed < deficit)
      (hgain : gain ≠ 0) (henough : buffer ≤ available) :
      Course buffer deficit (left + 1) kills freed [⟨gain, some available⟩]
        ⟨kills + 1, freed + gain, .recovered⟩
  | again {left kills : Nat} {freed gain available : Kilobytes} {later : List PassResult}
      {tally : Tally} (hopen : freed < deficit) (hgain : gain ≠ 0) (hshort : available < buffer)
      (hlater : Course buffer deficit left (kills + 1) (freed + gain) later tally) :
      Course buffer deficit (left + 1) kills freed (⟨gain, some available⟩ :: later) tally

namespace Course

variable {buffer deficit freed : Kilobytes} {left kills : Nat} {results : List PassResult}
variable {tally : Tally}

theorem freed_eq (hcourse : Course buffer deficit left kills freed results tally) :
    tally.freed = freed + (results.map PassResult.gain).sum := by
  induction hcourse with
  | cap | covered | nothing | lost | recovered => simp
  | again _ _ _ _ ih =>
      rw [ih, List.map_cons, List.sum_cons, Nat.add_assoc]

/-- The kills that count are those that gained memory. -/
theorem kills_eq (hcourse : Course buffer deficit left kills freed results tally) :
    tally.kills = kills + (results.map PassResult.gain).countP (0 < ·) := by
  induction hcourse with
  | cap | covered | nothing => simp
  | lost _ _ _ hgain | recovered _ _ _ hgain _ =>
      simp [Nat.pos_of_ne_zero hgain]
  | again _ hgain _ _ ih =>
      rw [ih, List.map_cons, List.countP_cons_of_pos (by simpa using Nat.pos_of_ne_zero hgain)]
      omega

theorem kills_le (hcourse : Course buffer deficit left kills freed results tally) :
    tally.kills ≤ kills + left := by
  induction hcourse with
  | cap | covered | nothing | lost | recovered => simp
  | again _ _ _ _ ih => omega

/-- What is found of the end of a course that began after the reading `before`. -/
def findings (cap : Nat) (buffer deficit : Kilobytes) (before : Option (Option Kilobytes))
    (results : List PassResult) (tally : Tally) : Findings where
  cap
  buffer
  deficit
  kills := tally.kills
  freed := tally.freed
  lastReading := (results.filterMap PassResult.reading?).getLast?.or before
  lastGain := (results.map PassResult.gain).getLast?

/-- After a pass that leaves the reading short, the findings bear what they do from there
on, where that reading stands before the readings to come. -/
theorem bear_findings_cons {gain available : Kilobytes} (hgain : gain ≠ 0) (cap : Nat)
    (before : Option (Option Kilobytes)) (later : List PassResult) (outcome : CycleOutcome) :
    (findings cap buffer deficit before (⟨gain, some available⟩ :: later) tally).Bear outcome ↔
      (findings cap buffer deficit (some (some available)) later tally).Bear outcome := by
  have hread : (PassResult.mk gain (some available)).reading? = some (some available) :=
    if_neg hgain
  have hlast : ((PassResult.mk gain (some available) :: later).filterMap
      PassResult.reading?).getLast?.or before =
        (later.filterMap PassResult.reading?).getLast?.or (some (some available)) := by
    rw [List.filterMap_cons_some hread, List.getLast?_cons]
    cases (later.filterMap PassResult.reading?).getLast? <;> rfl
  have hzero : ((PassResult.mk gain (some available) :: later).map
      PassResult.gain).getLast? = some 0 ↔
        (later.map PassResult.gain).getLast? = some 0 := by
    rw [List.map_cons, List.getLast?_cons]
    cases (later.map PassResult.gain).getLast? <;> simp [hgain]
  rw [findings, hlast]
  exact Findings.bear_congr_lastGain
    (findings cap buffer deficit (some (some available)) later tally) hzero outcome

/-- A course has the one outcome that its findings bear.  It is followed from the middle of
a cycle on, where the reading before was short, or from the start, where nothing is
gained yet. -/
theorem outcome_eq_iff (hcourse : Course buffer deficit left kills freed results tally)
    (before : Option (Option Kilobytes))
    (hbefore : ∀ reading ∈ before, ∃ available, reading = some available ∧ available < buffer)
    (hstart : before = none → kills = 0 ∧ freed < deficit) (outcome : CycleOutcome) :
    tally.outcome = outcome ↔
      (findings (kills + left) buffer deficit before results tally).Bear outcome := by
  induction hcourse generalizing before with
  | cap kills freed =>
      cases before with
      | none =>
          obtain ⟨rfl, -⟩ := hstart rfl
          cases outcome <;> simp [findings, Findings.Bear, Findings.IsShort]
      | some reading =>
          obtain ⟨available, rfl, hshort⟩ := hbefore reading rfl
          cases outcome <;> simp [findings, Findings.Bear, Findings.IsShort, hshort]
  | covered left kills hcovered =>
      cases before with
      | none => exact absurd (hstart rfl).2 (Nat.not_lt_of_le hcovered)
      | some reading =>
          obtain ⟨available, rfl, hshort⟩ := hbefore reading rfl
          cases outcome <;> simp [findings, Findings.Bear, Findings.IsShort, hshort, hcovered]
  | nothing left kills reading hopen =>
      cases before with
      | none =>
          cases outcome <;>
            simp [findings, Findings.Bear, Findings.IsShort, PassResult.reading?]
      | some reading =>
          obtain ⟨available, rfl, hshort⟩ := hbefore reading rfl
          cases outcome <;>
            simp [findings, Findings.Bear, Findings.IsShort, PassResult.reading?, hshort, hopen]
  | lost left kills hopen hgain =>
      cases outcome <;>
        simp [findings, Findings.Bear, Findings.IsShort, PassResult.reading?, hgain]
  | recovered left kills hopen hgain henough =>
      cases outcome <;>
        simp [findings, Findings.Bear, Findings.IsShort, PassResult.reading?, hgain, henough]
  | @again left kills freed gain available later tally hopen hgain hshort hlater ih =>
      have hcap : kills + (left + 1) = kills + 1 + left := by omega
      rw [hcap, bear_findings_cons hgain]
      exact ih (some (some available)) (by simpa using hshort) nofun

end Course

/-! ## The passes of a cycle -/

namespace Service

variable {σ : Type} (setup : Setup σ)

def Pass.result (pass : Pass σ) : PassResult :=
  ⟨pass.gain setup, pass.start.passReading setup pass.floor⟩

theorem killPasses_course (target : KillTarget) (deficit : Kilobytes) (left kills : Nat)
    (freed : Kilobytes) (service : Service σ) :
    Course target.targetBuffer deficit left kills freed
      (((service.passStarts setup target deficit left freed).map (⟨target.floor, ·⟩)).map
        (Pass.result setup))
      (service.killPasses setup target deficit left kills freed).1 := by
  have hresult : ∀ {start : Service σ} {gained : Kilobytes} {reading : Option Kilobytes},
      (start.killOne setup target.floor).1 = gained →
      start.passReading setup target.floor = reading →
      Pass.result setup ⟨target.floor, start⟩ = ⟨gained, reading⟩ := by
    rintro start gained reading rfl rfl
    rfl
  apply killPasses_induction (motive := fun left kills freed _ result starts =>
    Course target.targetBuffer deficit left kills freed
      ((starts.map (⟨target.floor, ·⟩)).map (Pass.result setup)) result.1)
  case cap => exact fun kills freed _ => .cap kills freed
  case covered => exact fun left kills _ _ hcovered => .covered left kills hcovered
  case nothing =>
    intro left kills freed service hopen hgained
    simp only [List.map_cons, List.map_nil]
    rw [hresult hgained rfl]
    exact .nothing left kills _ hopen
  case lost =>
    intro left kills freed service gained hopen hgained hnonzero hreading
    simp only [List.map_cons, List.map_nil]
    rw [hresult hgained hreading]
    exact .lost left kills hopen hnonzero
  case recovered =>
    intro left kills freed service gained available hopen hgained hnonzero hreading henough
    simp only [List.map_cons, List.map_nil]
    rw [hresult hgained hreading]
    exact .recovered left kills hopen hnonzero henough
  case again =>
    intro left kills freed service gained available result starts hopen hgained hnonzero
      hreading hshort ih
    simp only [List.map_cons]
    rw [hresult hgained hreading]
    exact .again hopen hnonzero hshort ih

end Service

end MemoryReclaim
