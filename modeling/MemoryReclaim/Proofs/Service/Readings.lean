import MemoryReclaim.Proofs.Service.Course
import MemoryReclaim.Proofs.Service.FirstReading

/-!
# The readings of a cycle

A cycle reads the available memory as it begins and after each kill that gained memory, and
at no other time.  Where a host keeps a log of such readings, the log shows just these; and
the published level changes only as a cycle begins and as its last reading ends it.
-/

namespace MemoryReclaim

/-- The host keeps a log of the readings of the available memory; whatever else a cycle
asks of the host adds nothing to it. -/
structure Host.Logs {σ : Type} (host : Host σ) (log : σ → List (Option Kilobytes)) : Prop where
  available (state : σ) : log (host.available state).2 = log state ++ [(host.available state).1]
  kill (pid : Pid) (state : σ) : log (host.kill pid state).2 = log state
  write (path : Path) (content : String) (mode : WriteMode) (state : σ) :
    log (host.write path content mode state).2 = log state
  now (state : σ) : log (host.now state).2 = log state

/-- Any host can be made to keep such a log beside its state. -/
def Host.logging {σ : Type} (host : Host σ) : Host (σ × List (Option Kilobytes)) where
  available := fun (state, log) =>
    let (reading, state) := host.available state
    (reading, state, log ++ [reading])
  total := fun (state, log) => let (reading, state) := host.total state; (reading, state, log)
  kill pid := fun (state, log) => let (freed, state) := host.kill pid state; (freed, state, log)
  read path := fun (state, log) =>
    let (content, state) := host.read path state
    (content, state, log)
  write path content mode := fun (state, log) =>
    let (result, state) := host.write path content mode state
    (result, state, log)
  now := fun (state, log) => let (now, state) := host.now state; (now, state, log)

theorem Host.logging_logs {σ : Type} (host : Host σ) : host.logging.Logs Prod.snd where
  available _ := rfl
  kill _ _ := rfl
  write _ _ _ _ := rfl
  now _ := rfl

namespace Service

variable {σ : Type}

/-- What a cycle does between two readings, as far as its readings and counters go. -/
structure Between (setup : Setup σ) (before after : Service σ) : Prop where
  log_eq {log : σ → List (Option Kilobytes)} (hlogs : setup.host.Logs log) :
    log after.host = log before.host
  killLevel_eq : after.killLevel = before.killLevel
  cycles_eq : after.cycles = before.cycles

variable {setup : Setup σ} {service before middle after : Service σ} {target : KillTarget}

namespace Between

theorem trans (hfirst : Between setup before middle) (hsecond : Between setup middle after) :
    Between setup before after where
  log_eq hlogs := (hsecond.log_eq hlogs).trans (hfirst.log_eq hlogs)
  killLevel_eq := hsecond.killLevel_eq.trans hfirst.killLevel_eq
  cycles_eq := hsecond.cycles_eq.trans hfirst.cycles_eq

theorem of_eq (hhost : after.host = before.host) (hlevel : after.killLevel = before.killLevel)
    (hcycles : after.cycles = before.cycles) : Between setup before after where
  log_eq _ := by rw [hhost]
  killLevel_eq := hlevel
  cycles_eq := hcycles

theorem refl : Between setup service service := of_eq rfl rfl rfl

theorem record (events : List Event) : Between setup service (service.record events) :=
  of_eq rfl rfl rfl

theorem notify (notice : Notice) : Between setup service (service.notify notice) := record _

theorem announceLevel (level : Nat) : Between setup service (service.announceLevel level) := by
  rw [Service.announceLevel]
  split
  · exact notify _
  · exact refl

theorem clock : Between setup service (service.clock setup).2 where
  log_eq hlogs := hlogs.now _
  killLevel_eq := rfl
  cycles_eq := rfl

theorem echo (path : Path) (content : String) :
    Between setup service (service.echo setup path content).2 where
  log_eq hlogs := hlogs.write path content .truncate _
  killLevel_eq := rfl
  cycles_eq := rfl

theorem killProcess (pid : Pid) : Between setup service (service.killProcess setup pid).2 where
  log_eq hlogs := hlogs.kill pid _
  killLevel_eq := rfl
  cycles_eq := rfl

theorem killAll (setup : Setup σ) (processes : List ProcessRecord) (service : Service σ) :
    Between setup service (service.killAll setup processes).2 := by
  induction processes generalizing service with
  | nil => exact refl
  | cons process later ih =>
      have hfirst : Between setup service (service.killReclaimed setup process).2 :=
        (notify (.forceReclaim process.pid process.uid)).trans (killProcess process.pid)
      exact hfirst.trans (ih _)

theorem killBundle (bundle : Bundle) :
    Between setup service (service.killBundle setup bundle).2 := by
  have hkilled := (record [.selected bundle.key]).trans
    (killAll setup bundle.procs.values (service.record [.selected bundle.key]))
  exact hkilled.trans (of_eq rfl rfl rfl)

theorem refreshed : Between setup service (service.refreshed setup) :=
  clock.trans (of_eq rfl rfl rfl)

theorem killOne (floor : Priority) : Between setup service (service.killOne setup floor).2 := by
  have hready : Between setup service (service.atChoice setup) := refreshed.trans clock
  rw [killOne_eq]
  cases service.choice? setup floor with
  | none => exact hready
  | some bundle => exact hready.trans (killBundle bundle)

end Between

/-- The readings of a cycle after its first one. -/
def rereadings (setup : Setup σ) (service : Service σ) : List (Option Kilobytes) :=
  ((service.cyclePasses setup).map (Pass.result setup)).filterMap PassResult.reading?

/-! ## Passes -/

theorem between_passKill (setup : Setup σ) (floor : Priority) (service : Service σ) :
    Between setup service ((service.passStart setup).killOne setup floor).2 :=
  (Between.echo _ _).trans (.killOne floor)

theorem log_passEnd {log : σ → List (Option Kilobytes)} (hlogs : setup.host.Logs log)
    (floor : Priority) (service : Service σ) :
    log ((service.passStart setup).passEnd setup floor).host =
      log service.host ++ [(service.passStart setup).passReading setup floor] := by
  rw [passEnd, passReading, measure, ← (between_passKill setup floor service).log_eq hlogs,
    ← hlogs.available]

theorem cycles_passEnd (floor : Priority) (service : Service σ) :
    ((service.passStart setup).passEnd setup floor).cycles = service.cycles := by
  rw [passEnd, measure, ← (between_passKill setup floor service).cycles_eq]

theorem killLevel_passEnd (floor : Priority) (service : Service σ) :
    ((service.passStart setup).passEnd setup floor).killLevel = service.killLevel := by
  rw [passEnd, measure, ← (between_passKill setup floor service).killLevel_eq]

@[simp]
theorem host_publishLevel (level : Nat) (service : Service σ) :
    (service.publishLevel level).host = service.host := rfl

@[simp]
theorem cycles_publishLevel (level : Nat) (service : Service σ) :
    (service.publishLevel level).cycles = service.cycles := rfl

@[simp]
theorem killLevel_publishLevel (level : Nat) (service : Service σ) :
    (service.publishLevel level).killLevel = level := rfl

theorem reading?_result_of_gained {start : Service σ} {floor : Priority}
    (hgained : (start.killOne setup floor).1 ≠ 0) :
    (Pass.result setup ⟨floor, start⟩).reading? = some (start.passReading setup floor) := by
  rw [Pass.result, PassResult.reading?, Pass.gain, if_neg hgained]

theorem reading?_result_of_not_gained {start : Service σ} {floor : Priority}
    (hgained : (start.killOne setup floor).1 = 0) :
    (Pass.result setup ⟨floor, start⟩).reading? = none := by
  rw [Pass.result, PassResult.reading?, Pass.gain, if_pos hgained]

theorem log_killPasses {log : σ → List (Option Kilobytes)} (hlogs : setup.host.Logs log)
    (target : KillTarget) (deficit : Kilobytes) (left kills : Nat) (freed : Kilobytes)
    (service : Service σ) :
    log (service.killPasses setup target deficit left kills freed).2.host =
      log service.host ++
        (((service.passStarts setup target deficit left freed).map (⟨target.floor, ·⟩)).map
          (Pass.result setup)).filterMap PassResult.reading? := by
  have hlast : ∀ service : Service σ,
      ((service.passStart setup).killOne setup target.floor).1 ≠ 0 →
      log (((service.passStart setup).passEnd setup target.floor).publishLevel 0).host =
        log service.host ++ (([service.passStart setup].map (⟨target.floor, ·⟩)).map
          (Pass.result setup)).filterMap PassResult.reading? := by
    intro service hgained
    rw [List.map_singleton, List.map_singleton,
      List.filterMap_cons_some (reading?_result_of_gained hgained), List.filterMap_nil,
      host_publishLevel, log_passEnd hlogs]
  apply killPasses_induction (motive := fun _ _ _ service result starts =>
    log result.2.host = log service.host ++ ((starts.map (⟨target.floor, ·⟩)).map
      (Pass.result setup)).filterMap PassResult.reading?)
  case cap => exact fun _ _ _ => (List.append_nil _).symm
  case covered => exact fun _ _ _ _ _ => (List.append_nil _).symm
  case nothing =>
    intro left kills freed service _ hgained
    rw [List.map_singleton, List.map_singleton,
      List.filterMap_cons_none (reading?_result_of_not_gained hgained), List.filterMap_nil,
      List.append_nil]
    dsimp only
    exact (between_passKill setup target.floor service).log_eq hlogs
  case lost =>
    rintro left kills freed service gained _ rfl hnonzero _
    exact hlast service hnonzero
  case recovered =>
    rintro left kills freed service gained available _ rfl hnonzero _ _
    exact hlast service hnonzero
  case again =>
    rintro left kills freed service gained available result starts _ rfl hnonzero _ _ ih
    rw [ih, log_passEnd hlogs, List.map_cons, List.map_cons,
      List.filterMap_cons_some (reading?_result_of_gained hnonzero), List.append_assoc]
    rfl

/-- The level is published anew only by a last reading that ends the cycle. -/
theorem counters_killPasses (setup : Setup σ) (target : KillTarget) (deficit : Kilobytes)
    (left kills : Nat) (freed : Kilobytes) (service : Service σ) :
    let result := service.killPasses setup target deficit left kills freed
    result.2.cycles = service.cycles ∧
      result.2.killLevel =
        if result.1.outcome = .recovered ∨ result.1.outcome = .measurementLost then 0
        else service.killLevel := by
  apply killPasses_induction (motive := fun _ _ _ service result _ =>
    result.2.cycles = service.cycles ∧
      result.2.killLevel =
        if result.1.outcome = .recovered ∨ result.1.outcome = .measurementLost then 0
        else service.killLevel)
  case cap => exact fun _ _ _ => ⟨rfl, rfl⟩
  case covered => exact fun _ _ _ _ _ => ⟨rfl, rfl⟩
  case nothing =>
    intro left kills freed service _ _
    have hbetween := between_passKill setup target.floor service
    dsimp only
    rw [if_neg (by decide)]
    exact ⟨hbetween.cycles_eq, hbetween.killLevel_eq⟩
  case lost =>
    intro left kills freed service gained _ _ _ _
    dsimp only
    rw [cycles_publishLevel, killLevel_publishLevel, cycles_passEnd, if_pos (.inr rfl)]
    exact ⟨rfl, rfl⟩
  case recovered =>
    intro left kills freed service gained available _ _ _ _ _
    dsimp only
    rw [cycles_publishLevel, killLevel_publishLevel, cycles_passEnd, if_pos (.inl rfl)]
    exact ⟨rfl, rfl⟩
  case again =>
    intro left kills freed service gained available result starts _ _ _ _ _ ih
    rw [cycles_passEnd, killLevel_passEnd] at ih
    exact ih

/-! ## Whole cycles -/

theorem log_begun {log : σ → List (Option Kilobytes)} (hlogs : setup.host.Logs log)
    (service : Service σ) :
    log (service.begun setup).host = log service.host ++ [service.firstReading setup] :=
  hlogs.available service.host

/-- A log of the readings shows the first one of a cycle and then those after its kills. -/
theorem log_killCycle {log : σ → List (Option Kilobytes)} (hlogs : setup.host.Logs log)
    (service : Service σ) :
    log (service.killCycle setup).2.host =
      log service.host ++ service.firstReading setup :: service.rereadings setup := by
  have hbegun := log_begun hlogs service
  rw [rereadings]
  cases hreading : service.firstReading setup with
  | none =>
      obtain ⟨hcycle, hpasses⟩ := killCycle_of_unread hreading
      rw [hcycle, hpasses, hbegun, hreading]
      rfl
  | some available =>
      cases hquery : setup.levels.query available with
      | none =>
          obtain ⟨hcycle, hpasses⟩ := killCycle_of_enough hreading hquery
          rw [hcycle, hpasses, hbegun, hreading]
          rfl
      | some target =>
          obtain ⟨hcycle, hpasses⟩ := killCycle_of_target hreading hquery
          have hannounced : log (service.announced setup target).host =
              log service.host ++ [some available] := by
            rw [announced, (Between.announceLevel target.level).log_eq hlogs, ← hreading]
            exact hbegun
          rw [hcycle, hpasses]
          dsimp only
          rw [cycleResult, log_killPasses hlogs, hannounced, List.append_assoc]
          rfl

end Service

end MemoryReclaim
