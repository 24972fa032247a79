import MemoryReclaim.Proofs.KillLevels
import MemoryReclaim.Proofs.Service.Choices

/-!
# A cycle by its first reading

The first reading of a cycle decides what it is about.  Without a reading, or with one that
asks for nothing, the cycle ends before it has done anything; otherwise it announces the
level that was found and makes its passes.  No floor is out of range, as the levels come
from a table.
-/

namespace MemoryReclaim.Service

variable {σ : Type} (setup : Setup σ) (service : Service σ)

/-- The available memory that a cycle starts from. -/
def firstReading : Option Kilobytes :=
  ({ service with cycles := service.cycles + 1 }.measure setup).1

/-- The service after the first reading of a cycle. -/
def begun : Service σ := ({ service with cycles := service.cycles + 1 }.measure setup).2

/-- The service as a cycle goes about its passes. -/
def announced (target : KillTarget) : Service σ :=
  ((service.begun setup).publishLevel target.level).announceLevel target.level

/-- How the passes of a cycle go. -/
def cycleResult (available : Kilobytes) (target : KillTarget) : Tally × Service σ :=
  (service.announced setup target).killPasses setup target (target.targetBuffer - available)
    setup.config.maxKills 0 0

variable {setup service} {available : Kilobytes} {target : KillTarget}

theorem increasing_levels (setup : Setup σ) : KillLevels.increasing setup.levels.entries :=
  KillLevels.increasing_ofConfigured setup.config.killLevels

theorem killCycle_of_unread (hreading : service.firstReading setup = none) :
    service.killCycle setup =
        (⟨service.cycles + 1, none, none, 0, 0, .memoryUnavailable⟩, service.begun setup) ∧
      service.cyclePasses setup = [] := by
  rw [firstReading] at hreading
  rw [killCycle, cyclePasses, begun]
  cases hmeasure : { service with cycles := service.cycles + 1 }.measure setup with
  | mk reading measured =>
  rw [hmeasure] at hreading
  dsimp only at hreading
  rw [hreading]
  exact ⟨rfl, rfl⟩

theorem killCycle_of_enough (hreading : service.firstReading setup = some available)
    (hquery : setup.levels.query available = none) :
    service.killCycle setup =
        (⟨service.cycles + 1, some available, none, 0, 0, .noKillNeeded⟩, service.begun setup) ∧
      service.cyclePasses setup = [] := by
  rw [firstReading] at hreading
  rw [killCycle, cyclePasses, begun]
  cases hmeasure : { service with cycles := service.cycles + 1 }.measure setup with
  | mk reading measured =>
  rw [hmeasure] at hreading
  dsimp only at hreading
  rw [hreading]
  dsimp only
  rw [hquery]
  exact ⟨rfl, rfl⟩

theorem killCycle_of_target (hreading : service.firstReading setup = some available)
    (hquery : setup.levels.query available = some target) :
    service.killCycle setup =
        (⟨service.cycles + 1, some available, some target,
            (service.cycleResult setup available target).1.kills,
            (service.cycleResult setup available target).1.freed,
            (service.cycleResult setup available target).1.outcome⟩,
          (service.cycleResult setup available target).2) ∧
      service.cyclePasses setup =
        ((service.announced setup target).passStarts setup target
          (target.targetBuffer - available) setup.config.maxKills 0).map (⟨target.floor, ·⟩) := by
  have hvalid : target.floor.isValid := KillLevels.isValid_of_query_ofConfigured hquery
  rw [firstReading] at hreading
  rw [killCycle, cyclePasses, cycleResult, announced, begun]
  cases hmeasure : { service with cycles := service.cycles + 1 }.measure setup with
  | mk reading measured =>
  rw [hmeasure] at hreading
  dsimp only at hreading
  rw [hreading]
  dsimp only
  rw [hquery]
  dsimp only
  rw [if_pos hvalid, if_pos hvalid]
  exact ⟨rfl, rfl⟩

/-- A cycle has a target where its first reading asks for one. -/
theorem target_killCycle (setup : Setup σ) (service : Service σ) :
    (service.killCycle setup).1.target =
      (service.firstReading setup).bind setup.levels.query := by
  cases hreading : service.firstReading setup with
  | none => rw [(killCycle_of_unread hreading).1, Option.bind_none]
  | some available =>
      rw [Option.bind_some]
      cases hquery : setup.levels.query available with
      | none => rw [(killCycle_of_enough hreading hquery).1]
      | some target => rw [(killCycle_of_target hreading hquery).1]

theorem begun_quiet (setup : Setup σ) (service : Service σ) :
    Quiet setup service (service.begun setup) := by
  apply Quiet.trans _ .measure
  exact .of_eq rfl rfl rfl

theorem announced_quiet (setup : Setup σ) (service : Service σ) (target : KillTarget) :
    Quiet setup service (service.announced setup target) :=
  (begun_quiet setup service).trans (.trans (.publishLevel _) (.announceLevel _))

/-- What a cycle did before one of its passes. -/
theorem steps_of_mem_cyclePasses {pass : Pass σ} (hpass : pass ∈ service.cyclePasses setup) :
    KillSteps setup service pass.start := by
  cases hreading : service.firstReading setup with
  | none =>
      rw [(killCycle_of_unread hreading).2] at hpass
      cases hpass
  | some available =>
      cases hquery : setup.levels.query available with
      | none =>
          rw [(killCycle_of_enough hreading hquery).2] at hpass
          cases hpass
      | some target =>
          rw [(killCycle_of_target hreading hquery).2] at hpass
          obtain ⟨start, hstart, rfl⟩ := List.mem_map.1 hpass
          have hsteps := (killPasses_steps target (target.targetBuffer - available)
            setup.config.maxKills 0 0 (service.announced setup target)).2 start hstart
          exact hsteps.1.head (.quiet (announced_quiet setup service target))

end MemoryReclaim.Service
