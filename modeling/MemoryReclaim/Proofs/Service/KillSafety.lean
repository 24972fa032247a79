import MemoryReclaim.Host.Scripted
import MemoryReclaim.Proofs.KillLevels
import MemoryReclaim.Proofs.Service.Action
import MemoryReclaim.Proofs.Service.KillTrace

/-!
# What a cycle never kills

A cycle chooses by the stored priority of a bundle.  As the table is up to date when it
chooses, that is the lowest priority which the processes of the bundle have by their
states; so one process below the floor protects all of its bundle.
-/

namespace MemoryReclaim.Service

variable {σ : Type} {setup : Setup σ} {service : Service σ} {call : KillCall σ}
variable {floor : Priority} {now : Seconds}

/-- The process belongs to a tracked bundle that is active and old enough, and of which
every process is at or above the floor by its own states. -/
def KillCall.Justified (setup : Setup σ) (call : KillCall σ) : Prop :=
  ∃ key bundle, call.service.table.bundle? key = some bundle ∧
    bundle.procs.contains call.pid ∧
    bundle.state = .active ∧
    setup.config.protection ≤ call.now - bundle.created ∧
    ∀ pid process, bundle.process? pid = some process →
      process.bindStatus = process.currentBindStatus call.service.table.isForeground ∧
      call.floor ≤ process.tier setup.rules.graceWindow call.now

theorem of_mem_killAllCalls {processes : List ProcessRecord}
    (hcall : call ∈ service.killAllCalls setup floor now processes) :
    call.floor = floor ∧ call.now = now ∧ (∃ process ∈ processes, process.pid = call.pid) ∧
      Quiet setup service call.service ∧
      Quiet setup (call.service.killProcess setup call.pid).2
        (service.killAll setup processes).2 := by
  induction processes generalizing service with
  | nil => cases hcall
  | cons process later ih =>
      rcases List.mem_cons.1 hcall with rfl | hlater
      · exact ⟨rfl, rfl, ⟨process, List.mem_cons_self, rfl⟩, .notify _, .killAll later⟩
      · obtain ⟨hfloor, hnow, ⟨other, hother, hpid⟩, hbefore, hafter⟩ := ih hlater
        exact ⟨hfloor, hnow, ⟨other, List.mem_cons_of_mem _ hother, hpid⟩,
          (Quiet.killReclaimed process).trans hbefore, hafter⟩

theorem of_mem_killOneCalls (hcall : call ∈ service.killOneCalls setup floor) :
    ∃ bundle, service.choice? setup floor = some bundle ∧
      (∃ process ∈ bundle.procs.values, process.pid = call.pid) ∧
      call.floor = floor ∧ call.now = service.choiceTime setup ∧
      call.service.table = (service.refreshed setup).table ∧
      Onward setup (call.service.killProcess setup call.pid).2
        (service.killOne setup floor).2 := by
  rw [killOneCalls] at hcall
  rw [killOne_eq]
  cases hchoice : service.choice? setup floor with
  | none =>
      rw [hchoice] at hcall
      cases hcall
  | some bundle =>
      rw [hchoice] at hcall
      obtain ⟨hfloor, hnow, hprocess, hbefore, hafter⟩ := of_mem_killAllCalls hcall
      have hended : Advances setup (call.service.killProcess setup call.pid).2
          ((service.atChoice setup).killBundle setup bundle).2 :=
        hafter.advances.trans (.setBundleState bundle.key .waitingForKill)
      exact ⟨bundle, rfl, hprocess, hfloor, hnow, hbefore.table_eq, hended.toOnward⟩

/-- What the bundle that a pass chooses is like, as of the time it chooses by. -/
theorem choice?_spec (htimely : service.Timely setup) {bundle : Bundle}
    (hchoice : service.choice? setup floor = some bundle) :
    let table := (service.refreshed setup).table
    (∃ key, table.bundle? key = some bundle) ∧
    bundle.isEligible setup.config.protection (service.choiceTime setup) ∧
    ∀ pid process, bundle.process? pid = some process →
      process.pid = pid ∧
      process.bindStatus = process.currentBindStatus table.isForeground ∧
      floor ≤ process.tier setup.rules.graceWindow (service.choiceTime setup) := by
  intro table
  have hbefore := htimely.fresh_now
  have hfresh : table.Fresh setup.rules (service.clock setup).1 := hbefore.perform .expire
  obtain ⟨⟨key, hbundle⟩, hfloor, heligible⟩ := of_choice? hchoice
  refine ⟨⟨key, hbundle⟩, heligible, ?_⟩
  intro pid process hprocess
  have hsound := hfresh.consistent.sound hbundle
  have hlookup := hfresh.consistent.process?_eq hbundle hprocess
  have hevaluated := hfresh.evaluated (Set.notMem_empty pid) hlookup
  refine ⟨(hsound.fits hprocess).pid_eq, hevaluated.bindStatus_eq.symm, ?_⟩
  have hlater : (service.clock setup).1 ≤ service.choiceTime setup :=
    htimely.steady.notBefore_now.le_now
  calc floor ≤ bundle.priority := hfloor
    _ ≤ process.priority := hsound.priority_isLeast.2 ⟨pid, process, hprocess, rfl⟩
    _ = process.tier setup.rules.graceWindow (service.clock setup).1 :=
        hbefore.priority_eq hlookup
    _ ≤ process.tier setup.rules.graceWindow (service.choiceTime setup) :=
        process.tier_mono _ hlater

theorem justified_of_mem_killOneCalls (htimely : service.Timely setup)
    (hcall : call ∈ service.killOneCalls setup floor) : call.Justified setup := by
  obtain ⟨bundle, hchoice, ⟨process, hmem, hpid⟩, rfl, hnow, htable, -⟩ :=
    of_mem_killOneCalls hcall
  obtain ⟨⟨key, hbundle⟩, heligible, hprocesses⟩ := choice?_spec htimely hchoice
  obtain ⟨found, hfound⟩ := OrdMap.mem_values.1 hmem
  rw [Bundle.isEligible, Bool.and_eq_true, decide_eq_true_eq, decide_eq_true_eq] at heligible
  rw [← hnow] at heligible hprocesses
  rw [← htable] at hbundle hprocesses
  refine ⟨key, bundle, hbundle, ?_, heligible.2, heligible.1, ?_⟩
  · rw [← hpid, (hprocesses found process hfound).1, Bundle.contains_procs]
    exact Option.isSome_of_eq_some hfound
  · intro pid process hprocess
    exact (hprocesses pid process hprocess).2

/-- Each call of a cycle is made in a pass at the floor that the cycle reports. -/
theorem steps_of_mem_cycleCalls (hcall : call ∈ service.cycleCalls setup) :
    ∃ target start, (service.killCycle setup).1.target = some target ∧
      call ∈ start.killOneCalls setup target.floor ∧ KillSteps setup service start ∧
      KillSteps setup (start.killOne setup target.floor).2 (service.killCycle setup).2 := by
  have hmeasured : Quiet setup service
      ({ service with cycles := service.cycles + 1 }.measure setup).2 := by
    apply Quiet.trans _ .measure
    exact .of_eq rfl rfl rfl
  rw [cycleCalls] at hcall
  rw [killCycle]
  cases hmeasure : { service with cycles := service.cycles + 1 }.measure setup with
  | mk reading measured =>
  rw [hmeasure] at hcall hmeasured
  cases reading with
  | none => cases hcall
  | some available =>
      simp only at hcall hmeasured ⊢
      cases hquery : setup.levels.query available with
      | none =>
          rw [hquery] at hcall
          cases hcall
      | some target =>
          rw [hquery] at hcall
          simp only at hcall ⊢
          split at hcall
          · next hvalid =>
            obtain ⟨start, hstart, hmem⟩ := List.mem_flatMap.1 hcall
            have hannounced : Quiet setup service
                ((measured.publishLevel target.level).announceLevel target.level) :=
              hmeasured.trans ((Quiet.publishLevel _).trans (Quiet.announceLevel _))
            have hpasses := (killPasses_steps target (target.targetBuffer - available)
              setup.config.maxKills 0 0 _).2 start hstart
            rw [if_pos hvalid]
            exact ⟨target, start, rfl, hmem, hpasses.1.head (.quiet hannounced), hpasses.2⟩
          · cases hcall

theorem of_mem_cycleCalls (hcall : call ∈ service.cycleCalls setup) :
    ∃ target start, (service.killCycle setup).1.target = some target ∧
      call ∈ start.killOneCalls setup target.floor ∧ Advances setup service start ∧
      Advances setup (start.killOne setup target.floor).2 (service.killCycle setup).2 := by
  obtain ⟨target, start, htarget, hmem, hbefore, hafter⟩ := steps_of_mem_cycleCalls hcall
  exact ⟨target, start, htarget, hmem, .killSteps hbefore, .killSteps hafter⟩

/-- A cycle that finds the highest threshold available, or finds nothing out, is over. -/
theorem cycleCalls_eq_nil
    (hreading : ∀ available, (setup.host.available service.host).1 = some available →
      setup.levels.maxBuffer ≤ available) : service.cycleCalls setup = [] := by
  rw [cycleCalls]
  cases hmeasure : { service with cycles := service.cycles + 1 }.measure setup with
  | mk reading measured =>
  cases reading with
  | none => rfl
  | some available =>
      have hmax : setup.levels.maxBuffer ≤ available :=
        hreading available (congrArg Prod.fst hmeasure)
      have hincreasing : KillLevels.increasing setup.levels.entries :=
        KillLevels.increasing_ofConfigured setup.config.killLevels
      simp only [KillLevels.query_eq_none hincreasing hmax]

/-- On a host with a steady clock, whatever a service went through before a cycle: the
processes that the cycle kills are those of its calls, each made at the floor that it
reports and justified at the moment of the call, after which the run goes on from there;
and it kills nothing when its first reading fails or reaches the highest threshold. -/
theorem killCycle_spares_protected (setup : Setup σ) (host : σ)
    (hsteady : setup.host.Steady host) (actions : List Action) :
    let service := (start host).run setup actions
    let report := (service.killCycle setup).1
    let after := (service.killCycle setup).2
    after.killedPids = service.killedPids ++ (service.cycleCalls setup).map KillCall.pid ∧
    (∀ call ∈ service.cycleCalls setup,
      (call.service.killProcess setup call.pid).2.journal <+: after.journal ∧
      report.target.map KillTarget.floor = some call.floor ∧
      call.Justified setup) ∧
    ((∀ available, (setup.host.available service.host).1 = some available →
        setup.levels.maxBuffer ≤ available) →
      after.killedPids = service.killedPids) := by
  intro service report after
  have htimely : service.Timely setup := run_timely hsteady actions
  have hkilled : after.killedPids =
      service.killedPids ++ (service.cycleCalls setup).map KillCall.pid := killedPids_killCycle
  refine ⟨hkilled, ?_, ?_⟩
  · intro call hcall
    obtain ⟨target, start, htarget, hmem, hbefore, hafter⟩ := of_mem_cycleCalls hcall
    obtain ⟨bundle, -, -, hfloor, -, -, honward⟩ := of_mem_killOneCalls hmem
    have hreported : report.target = some target := htarget
    refine ⟨(honward.trans hafter.toOnward).journal_grows, ?_,
      justified_of_mem_killOneCalls (hbefore.timely htimely) hmem⟩
    rw [hreported, hfloor]
    rfl
  · intro hreading
    rw [hkilled, cycleCalls_eq_nil hreading]
    exact List.append_nil _

/-- A host whose clock ticks with every reading, under moderate pressure: the cycle kills
the process in the background, and the one in the foreground is spared. -/
theorem killCycle_spares_protected_foreground :
    let host : Host Script :=
      { Script.host with
        now := fun script => (script.clock, { script with clock := script.clock + 60 }) }
    let setup : Setup Script := ⟨host, .nameless, .default, "/proc"⟩
    let actions : List Action :=
      [.perform ⟨none, ⟨1, 20010001, "browser", 100⟩, .background⟩,
        .perform ⟨none, ⟨2, 20010002, "player", 100⟩, .foreground⟩]
    let service := (start (Script.start.setReading (some 450000))).run setup actions
    (service.cycleCalls setup).map KillCall.pid = [1] ∧
      ∀ call ∈ service.cycleCalls setup, call.Justified setup := by
  intro host setup actions service
  have hsteady : host.Steady (Script.start.setReading (some 450000)) := by
    apply Host.Steady.of_clock Script.clock (fun _ => rfl)
    intro state later hstep
    cases hstep with
    | available =>
        have hclock : (Script.takeReading state).2.clock = state.clock := by
          rw [Script.takeReading]
          split <;> rfl
        exact Nat.le_of_eq hclock.symm
    | now => exact Nat.le_add_right _ _
    | _ => exact Nat.le_refl _
  have hspared := killCycle_spares_protected setup _ hsteady actions
  exact ⟨by decide, fun call hcall => (hspared.2.1 call hcall).2.2⟩

end MemoryReclaim.Service
