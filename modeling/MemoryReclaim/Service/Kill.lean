import MemoryReclaim.Service.Update

/-!
# Kill cycles

A cycle measures the available memory, looks up what the kill levels ask for, and then
kills one bundle per pass until enough memory is back, nothing is left to kill, or the
cap on kills is reached.  A bundle is never killed while it is young, and not again
before a new process appears in it.
-/

namespace MemoryReclaim

inductive CycleOutcome
  | memoryUnavailable
  | noKillNeeded
  | invalidFloor
  | nothingKillable
  | measurementLost
  | recovered
  | deficitCovered
  | killCapReached
  deriving DecidableEq

structure CycleReport where
  cycle : Nat
  available : Option Kilobytes
  target : Option KillTarget
  kills : Nat
  freed : Kilobytes
  outcome : CycleOutcome
  deriving DecidableEq

/-- Writing to this file makes the kernel report its memory use, for later diagnosis. -/
def reportTrigger : Path := "/proc/lmkd_dbg_trigger"

/-- Leaves it to the kernel how often it reports. -/
def limitedReport : String := "1"

/-- Whether a bundle may be killed at `now`, its priority apart. -/
def Bundle.isEligible (protection now : Seconds) (bundle : Bundle) : Bool :=
  protection ≤ now - bundle.created && bundle.state = .active

/-- How a cycle stands or ended. -/
structure Tally where
  kills : Nat
  freed : Kilobytes
  outcome : CycleOutcome
  deriving DecidableEq

namespace Service

variable {σ : Type}

/-- Tells subscribers to give up what they can of a process, then kills it. -/
def killReclaimed (setup : Setup σ) (process : ProcessRecord) (service : Service σ) :
    Kilobytes × Service σ :=
  (service.notify (.forceReclaim process.pid process.uid)).killProcess setup process.pid

/-- Kills processes in the given order; the result is the sum of the memory freed. -/
def killAll (setup : Setup σ) : List ProcessRecord → Service σ → Kilobytes × Service σ
  | [], service => (0, service)
  | process :: later, service =>
      let (freed, service) := service.killReclaimed setup process
      let (freedLater, service) := service.killAll setup later
      (freed + freedLater, service)

def killBundle (setup : Setup σ) (bundle : Bundle) (service : Service σ) :
    Kilobytes × Service σ :=
  let selected := service.record [.selected bundle.key]
  let (freed, service) := selected.killAll setup bundle.procs.values
  (freed, (service.setBundleState bundle.key .waitingForKill).2)

/-- Kills the first eligible bundle at or above a priority, if there is one. -/
def killOne (setup : Setup σ) (floor : Priority) (service : Service σ) :
    Kilobytes × Service σ :=
  let (candidates, service) := service.killableBundles setup floor
  let (now, service) := service.clock setup
  match candidates.find? (Bundle.isEligible setup.config.protection now) with
  | none => (0, service)
  | some bundle => service.killBundle setup bundle

def publishLevel (killLevel : Nat) (service : Service σ) : Service σ :=
  { service with killLevel }

/-- Passes of a cycle after `kills` of them, of which `left` more may count. -/
def killPasses (setup : Setup σ) (target : KillTarget) (deficit : Kilobytes) :
    (left kills : Nat) → (freed : Kilobytes) → Service σ → Tally × Service σ
  | 0, kills, freed, service => (⟨kills, freed, .killCapReached⟩, service)
  | left + 1, kills, freed, service =>
      if deficit ≤ freed then (⟨kills, freed, .deficitCovered⟩, service)
      else
        let (_, service) := service.echo setup reportTrigger limitedReport
        let (gained, service) := service.killOne setup target.floor
        if gained = 0 then (⟨kills, freed, .nothingKillable⟩, service)
        else
          match service.measure setup with
          | (none, service) =>
              (⟨kills + 1, freed + gained, .measurementLost⟩, service.publishLevel 0)
          | (some available, service) =>
              if available < target.targetBuffer then
                killPasses setup target deficit left (kills + 1) (freed + gained) service
              else (⟨kills + 1, freed + gained, .recovered⟩, service.publishLevel 0)

def announceLevel (level : Nat) (service : Service σ) : Service σ :=
  match MemoryLevel.ofKillLevel level with
  | some level => service.notify (.trim level)
  | none => service

def killForTarget (setup : Setup σ) (cycle : Nat) (available : Kilobytes)
    (target : KillTarget) (service : Service σ) : CycleReport × Service σ :=
  let announced := (service.publishLevel target.level).announceLevel target.level
  let (tally, service) :=
    announced.killPasses setup target (target.targetBuffer - available) setup.config.maxKills 0 0
  (⟨cycle, some available, some target, tally.kills, tally.freed, tally.outcome⟩, service)

/-- One whole cycle. -/
def killCycle (setup : Setup σ) (service : Service σ) : CycleReport × Service σ :=
  let cycle := service.cycles + 1
  match { service with cycles := cycle }.measure setup with
  | (none, service) => (⟨cycle, none, none, 0, 0, .memoryUnavailable⟩, service)
  | (some available, service) =>
      match setup.levels.query available with
      | none => (⟨cycle, some available, none, 0, 0, .noKillNeeded⟩, service)
      | some target =>
          if target.floor.isValid then service.killForTarget setup cycle available target
          else (⟨cycle, some available, none, 0, 0, .invalidFloor⟩, service)

end Service

end MemoryReclaim
