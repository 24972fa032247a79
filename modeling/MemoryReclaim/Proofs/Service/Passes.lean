import MemoryReclaim.Service.Kill

/-!
# The passes of a cycle

A cycle kills one bundle per pass.  What is shown of all passes is shown here by one
induction, which follows the ways in which a pass can end the cycle.
-/

namespace MemoryReclaim.Service

variable {σ : Type}

/-- The time by which a pass chooses its bundle. -/
def choiceTime (setup : Setup σ) (service : Service σ) : Seconds :=
  ((service.refreshed setup).clock setup).1

/-- The service as a pass chooses its bundle. -/
def atChoice (setup : Setup σ) (service : Service σ) : Service σ :=
  ((service.refreshed setup).clock setup).2

/-- The bundle that a pass kills. -/
def choice? (setup : Setup σ) (floor : Priority) (service : Service σ) : Option Bundle :=
  ((service.atChoice setup).table.killable floor).find?
    (Bundle.isEligible setup.config.protection (service.choiceTime setup))

theorem killOne_eq (setup : Setup σ) (floor : Priority) (service : Service σ) :
    service.killOne setup floor =
      match service.choice? setup floor with
      | none => (0, service.atChoice setup)
      | some bundle => (service.atChoice setup).killBundle setup bundle := rfl

theorem of_choice? {setup : Setup σ} {floor : Priority} {service : Service σ} {bundle : Bundle}
    (hchoice : service.choice? setup floor = some bundle) :
    (∃ key, (service.atChoice setup).table.bundle? key = some bundle) ∧
      floor ≤ bundle.priority ∧
      bundle.isEligible setup.config.protection (service.choiceTime setup) := by
  obtain ⟨hstored, hfloor⟩ := Table.mem_killable.1 (List.mem_of_find?_eq_some hchoice)
  exact ⟨OrdMap.mem_values.1 hstored, hfloor, List.find?_some hchoice⟩

/-- The service as a pass goes about to kill one bundle. -/
def passStart (setup : Setup σ) (service : Service σ) : Service σ :=
  (service.echo setup reportTrigger limitedReport).2

/-- What a pass finds available after its kill. -/
def passReading (setup : Setup σ) (floor : Priority) (start : Service σ) : Option Kilobytes :=
  ((start.killOne setup floor).2.measure setup).1

def passEnd (setup : Setup σ) (floor : Priority) (start : Service σ) : Service σ :=
  ((start.killOne setup floor).2.measure setup).2

/-- The service at each pass of a cycle, as it goes about to kill one bundle. -/
def passStarts (setup : Setup σ) (target : KillTarget) (deficit : Kilobytes) :
    (left : Nat) → (freed : Kilobytes) → Service σ → List (Service σ)
  | 0, _, _ => []
  | left + 1, freed, service =>
      if deficit ≤ freed then []
      else
        let (_, echoed) := service.echo setup reportTrigger limitedReport
        let (gained, service) := echoed.killOne setup target.floor
        echoed ::
          if gained = 0 then []
          else
            match service.measure setup with
            | (none, _) => []
            | (some available, service) =>
                if available < target.targetBuffer then
                  passStarts setup target deficit left (freed + gained) service
                else []

section Passes

variable {setup : Setup σ} {target : KillTarget} {deficit : Kilobytes}

/-- One pass, and what the cycle does after it. -/
theorem killPasses_succ (left kills : Nat) (freed : Kilobytes) (service : Service σ) :
    service.killPasses setup target deficit (left + 1) kills freed =
      if deficit ≤ freed then (⟨kills, freed, .deficitCovered⟩, service)
      else
        let start := service.passStart setup
        let gained := (start.killOne setup target.floor).1
        if gained = 0 then
          (⟨kills, freed, .nothingKillable⟩, (start.killOne setup target.floor).2)
        else
          match start.passReading setup target.floor with
          | none =>
              (⟨kills + 1, freed + gained, .measurementLost⟩,
                (start.passEnd setup target.floor).publishLevel 0)
          | some available =>
              if available < target.targetBuffer then
                (start.passEnd setup target.floor).killPasses setup target deficit left
                  (kills + 1) (freed + gained)
              else
                (⟨kills + 1, freed + gained, .recovered⟩,
                  (start.passEnd setup target.floor).publishLevel 0) := by
  rw [killPasses]
  cases hecho : service.echo setup reportTrigger limitedReport with
  | mk succeeded start =>
  cases hkill : start.killOne setup target.floor with
  | mk gained killed =>
  cases hmeasure : killed.measure setup with
  | mk reading measured =>
  have hstart : service.passStart setup = start := congrArg Prod.snd hecho
  simp only [hstart, passReading, passEnd, hkill, hmeasure]
  cases reading <;> rfl

theorem passStarts_succ (left : Nat) (freed : Kilobytes) (service : Service σ) :
    service.passStarts setup target deficit (left + 1) freed =
      if deficit ≤ freed then []
      else
        let start := service.passStart setup
        let gained := (start.killOne setup target.floor).1
        start ::
          if gained = 0 then []
          else
            match start.passReading setup target.floor with
            | none => []
            | some available =>
                if available < target.targetBuffer then
                  (start.passEnd setup target.floor).passStarts setup target deficit left
                    (freed + gained)
                else [] := by
  rw [passStarts]
  cases hecho : service.echo setup reportTrigger limitedReport with
  | mk succeeded start =>
  cases hkill : start.killOne setup target.floor with
  | mk gained killed =>
  cases hmeasure : killed.measure setup with
  | mk reading measured =>
  have hstart : service.passStart setup = start := congrArg Prod.snd hecho
  simp only [hstart, passReading, passEnd, hkill, hmeasure]
  cases reading <;> rfl

/-- The passes of a cycle end in one of five ways, or go on with another pass. -/
theorem killPasses_induction
    {motive : Nat → Nat → Kilobytes → Service σ → Tally × Service σ → List (Service σ) → Prop}
    (cap : ∀ kills freed service,
      motive 0 kills freed service (⟨kills, freed, .killCapReached⟩, service) [])
    (covered : ∀ left kills freed service, deficit ≤ freed →
      motive (left + 1) kills freed service (⟨kills, freed, .deficitCovered⟩, service) [])
    (nothing : ∀ left kills freed service, freed < deficit →
      ((service.passStart setup).killOne setup target.floor).1 = 0 →
      motive (left + 1) kills freed service
        (⟨kills, freed, .nothingKillable⟩,
          ((service.passStart setup).killOne setup target.floor).2)
        [service.passStart setup])
    (lost : ∀ left kills freed service gained, freed < deficit →
      ((service.passStart setup).killOne setup target.floor).1 = gained → gained ≠ 0 →
      (service.passStart setup).passReading setup target.floor = none →
      motive (left + 1) kills freed service
        (⟨kills + 1, freed + gained, .measurementLost⟩,
          ((service.passStart setup).passEnd setup target.floor).publishLevel 0)
        [service.passStart setup])
    (recovered : ∀ left kills freed service gained available, freed < deficit →
      ((service.passStart setup).killOne setup target.floor).1 = gained → gained ≠ 0 →
      (service.passStart setup).passReading setup target.floor = some available →
      target.targetBuffer ≤ available →
      motive (left + 1) kills freed service
        (⟨kills + 1, freed + gained, .recovered⟩,
          ((service.passStart setup).passEnd setup target.floor).publishLevel 0)
        [service.passStart setup])
    (again : ∀ left kills freed service gained available result starts, freed < deficit →
      ((service.passStart setup).killOne setup target.floor).1 = gained → gained ≠ 0 →
      (service.passStart setup).passReading setup target.floor = some available →
      available < target.targetBuffer →
      motive left (kills + 1) (freed + gained)
        ((service.passStart setup).passEnd setup target.floor) result starts →
      motive (left + 1) kills freed service result (service.passStart setup :: starts))
    (left kills : Nat) (freed : Kilobytes) (service : Service σ) :
    motive left kills freed service
      (service.killPasses setup target deficit left kills freed)
      (service.passStarts setup target deficit left freed) := by
  induction left generalizing kills freed service with
  | zero => exact cap kills freed service
  | succ left ih =>
      rw [killPasses_succ, passStarts_succ]
      by_cases hcovered : deficit ≤ freed
      · rw [if_pos hcovered, if_pos hcovered]
        exact covered left kills freed service hcovered
      rw [if_neg hcovered, if_neg hcovered]
      have hopen : freed < deficit := Nat.lt_of_not_le hcovered
      dsimp only
      by_cases hzero : ((service.passStart setup).killOne setup target.floor).1 = 0
      · rw [if_pos hzero, if_pos hzero]
        exact nothing left kills freed service hopen hzero
      rw [if_neg hzero, if_neg hzero]
      cases hreading : (service.passStart setup).passReading setup target.floor with
      | none => exact lost left kills freed service _ hopen rfl hzero hreading
      | some available =>
          dsimp only
          by_cases hshort : available < target.targetBuffer
          · rw [if_pos hshort, if_pos hshort]
            exact again left kills freed service _ available _ _ hopen rfl hzero hreading hshort
              (ih _ _ _)
          · rw [if_neg hshort, if_neg hshort]
            exact recovered left kills freed service _ available hopen rfl hzero hreading
              (Nat.le_of_not_lt hshort)

end Passes

end MemoryReclaim.Service
