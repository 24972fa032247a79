import MemoryReclaim.Proofs.Service.Twins

/-!
# Work that does not depend on the queues

What a worker does for a message is the same whatever else is queued, for itself or for the
other worker, and it queues nothing.  So a history of what was done says what became of the
table, the host and the journal, without saying what was queued meanwhile.
-/

namespace MemoryReclaim.Service

variable {σ : Type}

/-- The service with other queues. -/
def requeued (updates : Option UpdateQueue) (signals : Option Nat) (service : Service σ) :
    Service σ :=
  { service with updates, signals }

variable (setup : Setup σ) (updates : Option UpdateQueue) (signals : Option Nat)
variable (service : Service σ)

theorem notifyChange_requeued (change : Option AppStateChange) :
    (service.requeued updates signals).notifyChange change =
      (service.notifyChange change).requeued updates signals := by
  cases change <;> rfl

theorem perform_requeued (request : ResolvedRequest) :
    (service.requeued updates signals).perform setup request =
      (service.perform setup request).requeued updates signals :=
  notifyChange_requeued updates signals
    { (service.clock setup).2 with
      table := service.table.perform setup.rules (service.clock setup).1 (.apply request) }
    (service.table.apply setup.rules (service.clock setup).1 request).1

theorem measure_requeued :
    (service.requeued updates signals).measure setup =
      ((service.measure setup).1, (service.measure setup).2.requeued updates signals) := rfl

/-! ## Kill cycles -/

theorem killAll_requeued (processes : List ProcessRecord) :
    ((service.requeued updates signals).killAll setup processes).1 =
        (service.killAll setup processes).1 ∧
      ((service.requeued updates signals).killAll setup processes).2 =
        (service.killAll setup processes).2.requeued updates signals := by
  induction processes generalizing service with
  | nil => exact ⟨rfl, rfl⟩
  | cons process later ih =>
      obtain ⟨hfreed, hservice⟩ := ih (service.killReclaimed setup process).2
      exact ⟨congrArg ((service.killReclaimed setup process).1 + ·) hfreed, hservice⟩

theorem killOne_requeued (floor : Priority) :
    ((service.requeued updates signals).killOne setup floor).1 =
        (service.killOne setup floor).1 ∧
      ((service.requeued updates signals).killOne setup floor).2 =
        (service.killOne setup floor).2.requeued updates signals := by
  have hchoice : (service.requeued updates signals).choice? setup floor =
      service.choice? setup floor := rfl
  rw [killOne_eq, killOne_eq, hchoice]
  cases service.choice? setup floor with
  | none => exact ⟨rfl, rfl⟩
  | some bundle =>
      obtain ⟨hfreed, hservice⟩ := killAll_requeued setup updates signals
        ((service.atChoice setup).record [.selected bundle.key]) bundle.procs.values
      refine ⟨hfreed, ?_⟩
      exact congrArg (fun killed => (killed.setBundleState bundle.key .waitingForKill).2) hservice

theorem killPasses_requeued (target : KillTarget) (deficit : Kilobytes) (left kills : Nat)
    (freed : Kilobytes) :
    ((service.requeued updates signals).killPasses setup target deficit left kills freed).1 =
        (service.killPasses setup target deficit left kills freed).1 ∧
      ((service.requeued updates signals).killPasses setup target deficit left kills freed).2 =
        (service.killPasses setup target deficit left kills freed).2.requeued
          updates signals := by
  induction left generalizing service kills freed with
  | zero => exact ⟨rfl, rfl⟩
  | succ left ih =>
      have hstart : (service.requeued updates signals).passStart setup =
          (service.passStart setup).requeued updates signals := rfl
      obtain ⟨hgained, hkilled⟩ := killOne_requeued setup updates signals
        (service.passStart setup) target.floor
      have hreading : ((service.passStart setup).requeued updates signals).passReading setup
          target.floor = (service.passStart setup).passReading setup target.floor := by
        rw [passReading, passReading, hkilled, measure_requeued]
      have hend : ((service.passStart setup).requeued updates signals).passEnd setup
          target.floor =
            ((service.passStart setup).passEnd setup target.floor).requeued updates signals := by
        rw [passEnd, passEnd, hkilled, measure_requeued]
      rw [killPasses_succ, killPasses_succ]
      dsimp only
      rw [hstart, hreading, hend, hgained, hkilled]
      generalize (service.passStart setup).killOne setup target.floor = kill
      generalize (service.passStart setup).passEnd setup target.floor = ended
      split
      · exact ⟨rfl, rfl⟩
      split
      · exact ⟨rfl, rfl⟩
      split
      · exact ⟨rfl, rfl⟩
      split
      · exact ih _ _ _
      · exact ⟨rfl, rfl⟩

theorem announceLevel_requeued (level : Nat) :
    (service.requeued updates signals).announceLevel level =
      (service.announceLevel level).requeued updates signals := by
  rw [announceLevel, announceLevel]
  split <;> rfl

theorem killForTarget_requeued (cycle : Nat) (available : Kilobytes) (target : KillTarget) :
    ((service.requeued updates signals).killForTarget setup cycle available target).2 =
      (service.killForTarget setup cycle available target).2.requeued updates signals := by
  have hannounced := announceLevel_requeued updates signals
    (service.publishLevel target.level) target.level
  obtain ⟨-, hpasses⟩ := killPasses_requeued setup updates signals
    ((service.publishLevel target.level).announceLevel target.level) target
    (target.targetBuffer - available) setup.config.maxKills 0 0
  rw [← hannounced] at hpasses
  exact hpasses

theorem killCycle_requeued :
    ((service.requeued updates signals).killCycle setup).2 =
      (service.killCycle setup).2.requeued updates signals := by
  have hmeasure : { service.requeued updates signals with
        cycles := (service.requeued updates signals).cycles + 1 }.measure setup =
      (({ service with cycles := service.cycles + 1 }.measure setup).1,
        ({ service with cycles := service.cycles + 1 }.measure setup).2.requeued
          updates signals) :=
    measure_requeued setup updates signals { service with cycles := service.cycles + 1 }
  rw [killCycle, killCycle, hmeasure]
  cases { service with cycles := service.cycles + 1 }.measure setup with
  | mk reading measured =>
  cases reading with
  | none => rfl
  | some available =>
      dsimp only
      split
      · rfl
      split
      · exact killForTarget_requeued setup updates signals measured _ _ _
      · rfl

/-! ## Steps of the workers -/

variable {service}

/-- The worker of updates takes the first one from its queue; a timer may be added. -/
theorem updateStep_of_queued {request : UpdateRequest} {later : List UpdateRequest}
    {timers : List Timer} (hqueue : service.updates = some ⟨request :: later, timers⟩) :
    ∃ left, service.updateStep setup =
      (service.updateQueued setup request).requeued (some ⟨later, left⟩) service.signals := by
  refine ⟨timers ++ timersAfter setup.config.graceWindow service.uptime request, ?_⟩
  rw [updateStep_eq, hqueue]
  exact perform_requeued setup _ service.signals service _

/-- The killer takes one signal. -/
theorem signalStep_of_signalled {count : Nat} (hsignals : service.signals = some (count + 1)) :
    service.signalStep setup =
      (service.killCycle setup).2.requeued service.updates (some count) := by
  rw [signalStep, hsignals]
  exact killCycle_requeued setup service.updates (some count) service

end MemoryReclaim.Service
