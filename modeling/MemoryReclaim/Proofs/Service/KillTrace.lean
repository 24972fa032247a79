import MemoryReclaim.Proofs.Service.Keeping

/-!
# The kills of a cycle

A cycle reports sums; here are the single calls by which it ends processes, each with
the service as it was at that moment.  The definitions follow those of the cycle step by
step, and the calls are those that the journal shows.
-/

namespace MemoryReclaim.Service

variable {σ : Type}

/-- One call that ends a process. -/
structure KillCall (σ : Type) where
  pid : Pid
  /-- The priority below which bundles were to be spared. -/
  floor : Priority
  /-- The time at which the bundle was chosen. -/
  now : Seconds
  /-- The service as the call found it. -/
  service : Service σ

def killAllCalls (setup : Setup σ) (floor : Priority) (now : Seconds) :
    List ProcessRecord → Service σ → List (KillCall σ)
  | [], _ => []
  | process :: later, service =>
      ⟨process.pid, floor, now, service.notify (.forceReclaim process.pid process.uid)⟩ ::
        killAllCalls setup floor now later (service.killReclaimed setup process).2

def killOneCalls (setup : Setup σ) (floor : Priority) (service : Service σ) :
    List (KillCall σ) :=
  match service.choice? setup floor with
  | none => []
  | some bundle =>
      killAllCalls setup floor (service.choiceTime setup) bundle.procs.values
        ((service.atChoice setup).record [.selected bundle.key])

def targetCalls (setup : Setup σ) (available : Kilobytes) (target : KillTarget)
    (service : Service σ) : List (KillCall σ) :=
  let announced := (service.publishLevel target.level).announceLevel target.level
  let starts :=
    announced.passStarts setup target (target.targetBuffer - available) setup.config.maxKills 0
  starts.flatMap (killOneCalls setup target.floor)

def cycleCalls (setup : Setup σ) (service : Service σ) : List (KillCall σ) :=
  match { service with cycles := service.cycles + 1 }.measure setup with
  | (none, _) => []
  | (some available, service) =>
      match setup.levels.query available with
      | none => []
      | some target =>
          if target.floor.isValid then service.targetCalls setup available target else []

/-! ## The calls are those in the journal -/

def killedPid? : Event → Option Pid
  | .killed pid _ => some pid
  | .delivered _ | .selected _ | .wrote _ _ _ _ => none

/-- The pids that the service has asked the host to end, in order. -/
def killedPids (service : Service σ) : List Pid := service.journal.filterMap killedPid?

variable {setup : Setup σ} {service : Service σ} {floor : Priority} {now : Seconds}

theorem killedPids_record (events : List Event) :
    (service.record events).killedPids = service.killedPids ++ events.filterMap killedPid? :=
  List.filterMap_append

@[simp]
theorem killedPids_notify (notice : Notice) :
    (service.notify notice).killedPids = service.killedPids := by
  have hnone : ((service.registry.deliveries notice).map Event.delivered).filterMap
      killedPid? = [] := by
    rw [List.filterMap_eq_nil_iff]
    intro event hevent
    obtain ⟨delivery, -, rfl⟩ := List.mem_map.1 hevent
    rfl
  rw [notify, killedPids_record, hnone, List.append_nil]

@[simp]
theorem killedPids_echo (path : Path) (content : String) :
    (service.echo setup path content).2.killedPids = service.killedPids := by
  rw [echo, killedPids_record]
  exact List.append_nil _

@[simp]
theorem killedPids_measure : (service.measure setup).2.killedPids = service.killedPids := rfl

theorem killedPids_killProcess (pid : Pid) :
    (service.killProcess setup pid).2.killedPids = service.killedPids ++ [pid] :=
  killedPids_record _

@[simp]
theorem killedPids_publishLevel (level : Nat) :
    (service.publishLevel level).killedPids = service.killedPids := rfl

@[simp]
theorem killedPids_announceLevel (level : Nat) :
    (service.announceLevel level).killedPids = service.killedPids := by
  rw [announceLevel]
  split
  · exact killedPids_notify _
  · rfl

theorem killedPids_killAll (floor : Priority) (now : Seconds)
    (processes : List ProcessRecord) :
    (service.killAll setup processes).2.killedPids =
      service.killedPids ++ (service.killAllCalls setup floor now processes).map KillCall.pid := by
  induction processes generalizing service with
  | nil => exact (List.append_nil _).symm
  | cons process later ih =>
      have hhead : (service.killReclaimed setup process).2.killedPids =
          service.killedPids ++ [process.pid] := by
        rw [killReclaimed, killedPids_killProcess, killedPids_notify]
      calc ((service.killReclaimed setup process).2.killAll setup later).2.killedPids
          = service.killedPids ++ [process.pid] ++
              ((service.killReclaimed setup process).2.killAllCalls setup floor now later).map
                KillCall.pid := by rw [ih, hhead]
        _ = service.killedPids ++
              (service.killAllCalls setup floor now (process :: later)).map KillCall.pid := by
            rw [List.append_assoc]
            rfl

theorem killedPids_killOne (floor : Priority) :
    (service.killOne setup floor).2.killedPids =
      service.killedPids ++ (service.killOneCalls setup floor).map KillCall.pid := by
  rw [killOne_eq, killOneCalls]
  cases service.choice? setup floor with
  | none => exact (List.append_nil _).symm
  | some bundle =>
      have hselected : ((service.atChoice setup).record [.selected bundle.key]).killedPids =
          service.killedPids := by
        rw [killedPids_record]
        exact List.append_nil _
      rw [← hselected]
      exact killedPids_killAll floor _ _

section Passes

variable {target : KillTarget} {deficit : Kilobytes}

theorem killedPids_passEnd (floor : Priority) (start : Service σ) :
    (start.passEnd setup floor).killedPids =
      start.killedPids ++ (start.killOneCalls setup floor).map KillCall.pid := by
  rw [passEnd, killedPids_measure, killedPids_killOne]

theorem killedPids_killPasses (target : KillTarget) (deficit : Kilobytes) (left kills : Nat)
    (freed : Kilobytes) (service : Service σ) :
    (service.killPasses setup target deficit left kills freed).2.killedPids =
      service.killedPids ++
        ((service.passStarts setup target deficit left freed).flatMap
          (killOneCalls setup target.floor)).map KillCall.pid := by
  have hstart : ∀ service : Service σ,
      (service.passStart setup).killedPids = service.killedPids := fun _ => killedPids_echo _ _
  apply killPasses_induction (motive := fun _ _ _ service result starts =>
    result.2.killedPids = service.killedPids ++
      (starts.flatMap (killOneCalls setup target.floor)).map KillCall.pid)
  case cap => intro kills freed service; exact (List.append_nil _).symm
  case covered => intro left kills freed service _; exact (List.append_nil _).symm
  case nothing =>
    intro left kills freed service _ _
    simp only [List.flatMap_singleton]
    rw [killedPids_killOne, hstart]
  case lost =>
    intro left kills freed service gained _ _ _ _
    simp only [List.flatMap_singleton]
    rw [killedPids_publishLevel, killedPids_passEnd, hstart]
  case recovered =>
    intro left kills freed service gained available _ _ _ _ _
    simp only [List.flatMap_singleton]
    rw [killedPids_publishLevel, killedPids_passEnd, hstart]
  case again =>
    intro left kills freed service gained available result starts _ _ _ _ _ ih
    rw [ih, killedPids_passEnd, hstart, List.flatMap_cons, List.map_append, List.append_assoc]

end Passes

theorem killedPids_killForTarget (cycle : Nat) (available : Kilobytes) (target : KillTarget) :
    (service.killForTarget setup cycle available target).2.killedPids =
      service.killedPids ++ (service.targetCalls setup available target).map KillCall.pid := by
  have hannounced : ((service.publishLevel target.level).announceLevel
      target.level).killedPids = service.killedPids := by
    rw [killedPids_announceLevel, killedPids_publishLevel]
  rw [← hannounced]
  exact killedPids_killPasses _ _ _ _ _ _

/-- The calls of a cycle are exactly the kills that it adds to the journal. -/
theorem killedPids_killCycle :
    (service.killCycle setup).2.killedPids =
      service.killedPids ++ (service.cycleCalls setup).map KillCall.pid := by
  have hmeasured : ({ service with cycles := service.cycles + 1 }.measure setup).2.killedPids =
      service.killedPids := killedPids_measure
  rw [killCycle, cycleCalls]
  cases hmeasure : { service with cycles := service.cycles + 1 }.measure setup with
  | mk reading measured =>
  rw [hmeasure] at hmeasured
  simp only at hmeasured
  cases reading with
  | none =>
      rw [hmeasured]
      exact (List.append_nil _).symm
  | some available =>
      simp only
      cases setup.levels.query available with
      | none =>
          rw [hmeasured]
          exact (List.append_nil _).symm
      | some target =>
          simp only
          split
          · rw [killedPids_killForTarget, hmeasured]
          · rw [hmeasured]
            exact (List.append_nil _).symm

end MemoryReclaim.Service
