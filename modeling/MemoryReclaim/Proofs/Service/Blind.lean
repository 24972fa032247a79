import MemoryReclaim.Proofs.Service.Applied

/-!
# Calls that look at neither the table nor the queue

Most of what a service does concerns the host, the journal and the counters alone.  Such a
call goes the same way when the service has another table and another queue of updates, and
it leaves both as they are.
-/

namespace MemoryReclaim.Service

variable {σ : Type} {setup : Setup σ}

/-- The service with another table and another queue. -/
def recast (table : Table) (updates : Option UpdateQueue) (service : Service σ) : Service σ :=
  { service with table, updates }

/-- A call goes the same way whatever the table and the queue are, and leaves them alone. -/
structure Blind (setup : Setup σ) (call : Service σ → Service σ) : Prop where
  call_recast : ∀ (service : Service σ) table updates,
    call (service.recast table updates) = (call service).recast table updates
  leads : ∀ service, setup.host.Leads service.host (call service).host

namespace Blind

variable {call : Service σ → Service σ}

theorem table_eq (hblind : Blind setup call) (service : Service σ) :
    (call service).table = service.table :=
  congrArg (fun after => after.table)
    (hblind.call_recast service service.table service.updates)

theorem updates_eq (hblind : Blind setup call) (service : Service σ) :
    (call service).updates = service.updates :=
  congrArg (fun after => after.updates)
    (hblind.call_recast service service.table service.updates)

/-- A call that does not use the host either. -/
theorem of_recast
    (hrecast : ∀ (service : Service σ) table updates,
      call (service.recast table updates) = (call service).recast table updates)
    (hhost : ∀ service, (call service).host = service.host) : Blind setup call :=
  ⟨hrecast, fun service => (hhost service).symm ▸ .refl⟩

theorem record (events : List Event) :
    Blind setup fun service : Service σ => service.record events :=
  of_recast (fun _ _ _ => rfl) fun _ => rfl

theorem clock : Blind setup fun service => (service.clock setup).2 :=
  ⟨fun _ _ _ => rfl, fun _ => Quiet.clock.leads⟩

theorem measure : Blind setup fun service => (service.measure setup).2 :=
  ⟨fun _ _ _ => rfl, fun _ => Quiet.measure.leads⟩

theorem echo (path : Path) (content : String) :
    Blind setup fun service => (service.echo setup path content).2 :=
  ⟨fun _ _ _ => rfl, fun _ => (Quiet.echo path content).leads⟩

theorem passStart : Blind setup fun service => service.passStart setup :=
  echo reportTrigger limitedReport

theorem pressure? (path : Path) (threshold : Float) :
    Blind setup fun service => (service.pressure? setup path threshold).2 where
  call_recast service table updates := by
    have hread : (service.recast table updates).readFile setup path =
        ((service.readFile setup path).1, (service.readFile setup path).2.recast table updates) :=
      rfl
    rw [Service.pressure?, Service.pressure?, hread]
    cases service.readFile setup path with
    | mk content after => cases content <;> rfl
  leads _ := (Quiet.pressure? path threshold).leads

theorem readPriority (pid : Pid) :
    Blind setup fun service => (service.readPriority setup pid).2 where
  call_recast service table updates := by
    have hread : ∀ path, (service.recast table updates).readFile setup path =
        ((service.readFile setup path).1, (service.readFile setup path).2.recast table updates) :=
      fun _ => rfl
    rw [Service.readPriority, Service.readPriority]
    simp only [hread]
    cases service.readFile setup (ProcFile.path setup.procRoot pid "oom_score_adj") with
    | mk content after =>
    cases content with
    | error fault => rfl
    | ok content =>
        dsimp only
        split <;> rfl
  leads _ := (Quiet.readPriority pid).leads

theorem reserve {α : Type} {call : Service σ → Except Fault α × Service σ}
    (hcall : Blind setup fun service => (call service).2) (caller expected : Uid) :
    Blind setup fun service => (service.reserve caller expected call).2 where
  call_recast service table updates := by
    rw [reserve_eq, reserve_eq]
    split
    · exact hcall.call_recast service table updates
    · rfl
  leads service := by
    rw [reserve_eq]
    split
    · exact hcall.leads service
    · exact .refl

theorem subscribe (name : SubscriberName) :
    Blind setup fun service : Service σ => (service.subscribe name).2 :=
  of_recast (fun _ _ _ => rfl) fun _ => rfl

theorem unsubscribe (name : SubscriberName) :
    Blind setup fun service : Service σ => (service.unsubscribe name).2 :=
  of_recast (fun _ _ _ => rfl) fun _ => rfl

theorem signalPressure : Blind setup fun service : Service σ => service.signalPressure.2 where
  call_recast service table updates := by
    have hsignals : (service.recast table updates).signals = service.signals := rfl
    rw [Service.signalPressure, Service.signalPressure, hsignals]
    cases service.signals <;> rfl
  leads _ := Quiet.signalPressure.leads

theorem startKiller (hasRuntime : Bool) :
    Blind setup fun service : Service σ => (service.startKiller hasRuntime).2 where
  call_recast service table updates := by
    have hsignals : (service.recast table updates).signals = service.signals := rfl
    rw [Service.startKiller, Service.startKiller, hsignals]
    cases service.signals with
    | some count => rfl
    | none => cases hasRuntime <;> rfl
  leads _ := (Quiet.startKiller hasRuntime).leads

theorem publishLevel (level : Nat) :
    Blind setup fun service : Service σ => service.publishLevel level :=
  of_recast (fun _ _ _ => rfl) fun _ => rfl

theorem announceLevel (level : Nat) :
    Blind setup fun service : Service σ => service.announceLevel level where
  call_recast service table updates := by
    rw [Service.announceLevel, Service.announceLevel]
    split <;> rfl
  leads _ := (Quiet.announceLevel level).leads

theorem notifyChange (change : Option AppStateChange) :
    Blind setup fun service : Service σ => service.notifyChange change where
  call_recast service table updates := by
    cases change <;> rfl
  leads _ := (Quiet.notifyChange change).leads

theorem killAll (processes : List ProcessRecord) :
    Blind setup fun service => (service.killAll setup processes).2 where
  call_recast service table updates := by
    induction processes generalizing service with
    | nil => rfl
    | cons process later ih => exact ih (service.killReclaimed setup process).2
  leads _ := (Quiet.killAll processes).leads

end Blind

/-- What a kill frees is up to the host. -/
theorem killAll_recast (processes : List ProcessRecord) (service : Service σ) (table : Table)
    (updates : Option UpdateQueue) :
    ((service.recast table updates).killAll setup processes).1 =
      (service.killAll setup processes).1 := by
  induction processes generalizing service with
  | nil => rfl
  | cons process later ih =>
      exact congrArg ((service.killReclaimed setup process).1 + ·)
        (ih (service.killReclaimed setup process).2)

end MemoryReclaim.Service
