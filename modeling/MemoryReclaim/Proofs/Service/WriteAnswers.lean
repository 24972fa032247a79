import MemoryReclaim.Proofs.Service.Passes

/-!
# Answers to writes

A cycle writes to the report trigger and does not look at whether the write went through:
the journal marks it, and nothing else depends on it.  To see this, a run is compared with
the one on a host on which every write succeeds.  Leaving out the marks turns the first
into the second, step by step.
-/

namespace MemoryReclaim

variable {σ : Type}

/-- The same host with other answers to writes; what a write does to the host stays. -/
def Setup.answering (answer : Path → String → WriteMode → σ → Except Fault Unit)
    (setup : Setup σ) : Setup σ :=
  { setup with
    host := { setup.host with
      write := fun path content mode state =>
        (answer path content mode state, (setup.host.write path content mode state).2) } }

/-- The setup on whose host every write goes through. -/
def Setup.sure (setup : Setup σ) : Setup σ := setup.answering fun _ _ _ _ => .ok ()

/-- The event, with a write taken as one that went through. -/
def Event.unmarked : Event → Event
  | .wrote path content mode _ => .wrote path content mode true
  | .delivered delivery => .delivered delivery
  | .selected key => .selected key
  | .killed pid freed => .killed pid freed

namespace Service

/-- The service without the marks of which writes went through. -/
def unmarked (service : Service σ) : Service σ :=
  { service with journal := service.journal.map Event.unmarked }

variable (setup : Setup σ) (service : Service σ)

theorem record_unmarked (events : List Event) :
    service.unmarked.record (events.map Event.unmarked) = (service.record events).unmarked := by
  rw [record, unmarked, unmarked, record, List.map_append]

theorem notify_unmarked (notice : Notice) :
    service.unmarked.notify notice = (service.notify notice).unmarked := by
  have hdeliveries : ((service.registry.deliveries notice).map Event.delivered).map
      Event.unmarked = (service.registry.deliveries notice).map Event.delivered :=
    List.map_map
  rw [notify, notify, ← record_unmarked, hdeliveries]
  rfl

theorem echo_unmarked (path : Path) (content : String) :
    (service.unmarked.echo setup.sure path content).2 =
      (service.echo setup path content).2.unmarked := by
  rw [echo, echo, ← record_unmarked]
  rfl

theorem killReclaimed_unmarked (process : ProcessRecord) :
    service.unmarked.killReclaimed setup.sure process =
      ((service.killReclaimed setup process).1,
        (service.killReclaimed setup process).2.unmarked) := by
  rw [killReclaimed, killReclaimed, notify_unmarked, killProcess, killProcess, ← record_unmarked]
  rfl

theorem killAll_unmarked (processes : List ProcessRecord) :
    service.unmarked.killAll setup.sure processes =
      ((service.killAll setup processes).1, (service.killAll setup processes).2.unmarked) := by
  induction processes generalizing service with
  | nil => rfl
  | cons process later ih =>
      rw [killAll, killAll, killReclaimed_unmarked]
      simp only [ih]

theorem killOne_unmarked (floor : Priority) :
    service.unmarked.killOne setup.sure floor =
      ((service.killOne setup floor).1, (service.killOne setup floor).2.unmarked) := by
  have hchoice : service.unmarked.choice? setup.sure floor = service.choice? setup floor := rfl
  have hready : service.unmarked.atChoice setup.sure = (service.atChoice setup).unmarked := rfl
  rw [killOne_eq, killOne_eq, hchoice, hready]
  cases service.choice? setup floor with
  | none => rfl
  | some bundle =>
      have hselected := record_unmarked (service.atChoice setup) [.selected bundle.key]
      dsimp only
      rw [killBundle, killBundle]
      dsimp only [List.map_singleton, Event.unmarked] at hselected ⊢
      rw [hselected, killAll_unmarked]
      rfl

theorem measure_unmarked :
    service.unmarked.measure setup.sure =
      ((service.measure setup).1, (service.measure setup).2.unmarked) := rfl

theorem killPasses_unmarked (target : KillTarget) (deficit : Kilobytes) (left kills : Nat)
    (freed : Kilobytes) :
    service.unmarked.killPasses setup.sure target deficit left kills freed =
      ((service.killPasses setup target deficit left kills freed).1,
        (service.killPasses setup target deficit left kills freed).2.unmarked) := by
  induction left generalizing service kills freed with
  | zero => rfl
  | succ left ih =>
      have hstart : service.unmarked.passStart setup.sure = (service.passStart setup).unmarked :=
        echo_unmarked setup service reportTrigger limitedReport
      have hkilled := killOne_unmarked setup (service.passStart setup) target.floor
      have hreading : (service.passStart setup).unmarked.passReading setup.sure target.floor =
          (service.passStart setup).passReading setup target.floor := by
        rw [passReading, passReading, hkilled, measure_unmarked]
      have hend : (service.passStart setup).unmarked.passEnd setup.sure target.floor =
          ((service.passStart setup).passEnd setup target.floor).unmarked := by
        rw [passEnd, passEnd, hkilled, measure_unmarked]
      rw [killPasses_succ, killPasses_succ]
      dsimp only
      rw [hstart, hreading, hend, hkilled]
      generalize (service.passStart setup).killOne setup target.floor = kill
      generalize (service.passStart setup).passEnd setup target.floor = ended
      split
      · rfl
      split
      · rfl
      split
      · rfl
      split
      · exact ih _ _ _
      · rfl

theorem announceLevel_unmarked (level : Nat) :
    service.unmarked.announceLevel level = (service.announceLevel level).unmarked := by
  rw [announceLevel, announceLevel]
  split
  · exact notify_unmarked service _
  · rfl

theorem killForTarget_unmarked (cycle : Nat) (available : Kilobytes) (target : KillTarget) :
    service.unmarked.killForTarget setup.sure cycle available target =
      ((service.killForTarget setup cycle available target).1,
        (service.killForTarget setup cycle available target).2.unmarked) := by
  have hannounced : (service.unmarked.publishLevel target.level).announceLevel target.level =
      ((service.publishLevel target.level).announceLevel target.level).unmarked :=
    announceLevel_unmarked (service.publishLevel target.level) target.level
  have hpasses := killPasses_unmarked setup
    ((service.publishLevel target.level).announceLevel target.level) target
    (target.targetBuffer - available) setup.config.maxKills 0 0
  have hcap : setup.sure.config.maxKills = setup.config.maxKills := rfl
  rw [killForTarget, killForTarget, hannounced, hcap, hpasses]

theorem killCycle_unmarked :
    service.unmarked.killCycle setup.sure =
      ((service.killCycle setup).1, (service.killCycle setup).2.unmarked) := by
  have hmeasure : { service.unmarked with
        cycles := service.unmarked.cycles + 1 }.measure setup.sure =
      (({ service with cycles := service.cycles + 1 }.measure setup).1,
        ({ service with cycles := service.cycles + 1 }.measure setup).2.unmarked) :=
    measure_unmarked setup { service with cycles := service.cycles + 1 }
  have hlevels : setup.sure.levels = setup.levels := rfl
  have hcycles : service.unmarked.cycles = service.cycles := rfl
  rw [killCycle, killCycle, hmeasure, hlevels, hcycles]
  cases { service with cycles := service.cycles + 1 }.measure setup with
  | mk reading measured =>
  cases reading with
  | none => rfl
  | some available =>
      dsimp only
      split
      · rfl
      split
      · exact killForTarget_unmarked setup measured _ _ _
      · rfl

/-- Whatever is answered to writes, a cycle goes the same way. -/
theorem killCycle_answering (answer : Path → String → WriteMode → σ → Except Fault Unit) :
    (service.killCycle (setup.answering answer)).1 = (service.killCycle setup).1 ∧
      (service.killCycle (setup.answering answer)).2.unmarked =
        (service.killCycle setup).2.unmarked := by
  have hsure : (setup.answering answer).sure = setup.sure := rfl
  have hanswered := killCycle_unmarked (setup.answering answer) service
  rw [hsure, killCycle_unmarked setup service, Prod.mk.injEq] at hanswered
  exact ⟨hanswered.1.symm, hanswered.2.symm⟩

end Service

end MemoryReclaim
