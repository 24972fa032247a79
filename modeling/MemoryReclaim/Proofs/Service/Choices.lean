import Mathlib.Data.List.Basic
import MemoryReclaim.Proofs.Service.KillTrace
import MemoryReclaim.Proofs.Table.Marking

/-!
# The choices of a cycle

A cycle makes a number of passes at one floor, and each pass chooses at most one bundle.
Here are the passes as a list, with what the journal and the table show of them: every
bundle that is chosen was active and is not active any more.
-/

namespace MemoryReclaim.Service

variable {σ : Type}

/-- One pass of a cycle. -/
structure Pass (σ : Type) where
  /-- The priority below which bundles are spared. -/
  floor : Priority
  /-- The service as the pass goes about to kill one bundle. -/
  start : Service σ

namespace Pass

variable (setup : Setup σ) (pass : Pass σ)

/-- The bundle that the pass kills. -/
def choice? : Option Bundle := pass.start.choice? setup pass.floor

/-- What the pass reads from the clock, first to end grace windows and then to choose. -/
def times : List Seconds := [(pass.start.clock setup).1, pass.start.choiceTime setup]

end Pass

def cyclePasses (setup : Setup σ) (service : Service σ) : List (Pass σ) :=
  match { service with cycles := service.cycles + 1 }.measure setup with
  | (none, _) => []
  | (some available, service) =>
      match setup.levels.query available with
      | none => []
      | some target =>
          if target.floor.isValid then
            let announced := (service.publishLevel target.level).announceLevel target.level
            (announced.passStarts setup target (target.targetBuffer - available)
              setup.config.maxKills 0).map (⟨target.floor, ·⟩)
          else []

/-- The bundles that a cycle kills, in order. -/
def cycleSelection (setup : Setup σ) (service : Service σ) : List Bundle :=
  (service.cyclePasses setup).filterMap (Pass.choice? setup)

variable {setup : Setup σ} {service before middle after : Service σ} {floor : Priority}

/-- Each pass makes the calls that end the processes of the bundle it chose. -/
theorem cycleCalls_eq_flatMap :
    service.cycleCalls setup =
      (service.cyclePasses setup).flatMap fun pass => pass.start.killOneCalls setup pass.floor := by
  rw [cycleCalls, cyclePasses]
  cases { service with cycles := service.cycles + 1 }.measure setup with
  | mk reading measured =>
  cases reading with
  | none => rfl
  | some available =>
      simp only
      cases setup.levels.query available with
      | none => rfl
      | some target =>
          simp only
          split
          · rw [targetCalls, List.flatMap_map]
          · rfl

theorem pid_killAllCalls (now : Seconds) (processes : List ProcessRecord) :
    (service.killAllCalls setup floor now processes).map KillCall.pid =
      processes.map ProcessRecord.pid := by
  induction processes generalizing service with
  | nil => rfl
  | cons process later ih => exact congrArg (process.pid :: ·) ih

/-- The processes that a cycle ends are those of the bundles that it kills. -/
theorem pid_cycleCalls :
    (service.cycleCalls setup).map KillCall.pid =
      (service.cycleSelection setup).flatMap fun bundle =>
        bundle.procs.values.map ProcessRecord.pid := by
  have hpass : ∀ pass : Pass σ, (pass.start.killOneCalls setup pass.floor).map KillCall.pid =
      (pass.choice? setup).toList.flatMap fun bundle =>
        bundle.procs.values.map ProcessRecord.pid := by
    intro pass
    rw [killOneCalls, Pass.choice?]
    cases pass.start.choice? setup pass.floor with
    | none => rfl
    | some bundle =>
        rw [Option.toList_some, List.flatMap_singleton]
        exact pid_killAllCalls _ _
  rw [cycleCalls_eq_flatMap, cycleSelection, List.filterMap_eq_flatMap_toList, List.map_flatMap,
    List.flatMap_assoc]
  simp only [hpass]

/-! ## Reports that the kernel is asked for -/

def asksReport : Event → Bool
  | .wrote path _ _ _ => path = reportTrigger
  | .delivered _ | .selected _ | .killed _ _ => false

/-- How often the kernel was asked to report its memory use. -/
def reportsAsked (service : Service σ) : Nat := service.journal.countP asksReport

theorem reportsAsked_congr (hjournal : after.journal = before.journal) :
    after.reportsAsked = before.reportsAsked :=
  congrArg (List.countP asksReport) hjournal

theorem reportsAsked_record (events : List Event) :
    (service.record events).reportsAsked = service.reportsAsked + events.countP asksReport :=
  List.countP_append

theorem reportsAsked_measure : (service.measure setup).2.reportsAsked = service.reportsAsked :=
  reportsAsked_congr rfl

theorem reportsAsked_publishLevel (level : Nat) :
    (service.publishLevel level).reportsAsked = service.reportsAsked :=
  reportsAsked_congr rfl

theorem reportsAsked_notify (notice : Notice) :
    (service.notify notice).reportsAsked = service.reportsAsked := by
  have hnone : ((service.registry.deliveries notice).map Event.delivered).countP
      asksReport = 0 := by
    rw [List.countP_eq_zero]
    intro event hevent
    obtain ⟨delivery, -, rfl⟩ := List.mem_map.1 hevent
    exact Bool.false_ne_true
  rw [notify, reportsAsked_record, hnone, Nat.add_zero]

theorem reportsAsked_announceLevel (level : Nat) :
    (service.announceLevel level).reportsAsked = service.reportsAsked := by
  rw [announceLevel]
  split
  · exact reportsAsked_notify _
  · rfl

theorem reportsAsked_killAll (processes : List ProcessRecord) :
    (service.killAll setup processes).2.reportsAsked = service.reportsAsked := by
  induction processes generalizing service with
  | nil => rfl
  | cons process later ih =>
      have hhead : (service.killReclaimed setup process).2.reportsAsked =
          service.reportsAsked := by
        rw [killReclaimed, killProcess, reportsAsked_record]
        exact reportsAsked_notify _
      exact ih.trans hhead

theorem reportsAsked_killOne (floor : Priority) :
    (service.killOne setup floor).2.reportsAsked = service.reportsAsked := by
  rw [killOne_eq]
  cases service.choice? setup floor with
  | none => rfl
  | some bundle => exact (reportsAsked_killAll _).trans (reportsAsked_record _)

/-- A pass begins with asking for one report, and asks for no other. -/
theorem reportsAsked_passStart :
    (service.passStart setup).reportsAsked = service.reportsAsked + 1 := by
  have hasks : ∀ succeeded,
      asksReport (.wrote reportTrigger limitedReport .truncate succeeded) = true := by
    intro succeeded
    rw [asksReport, decide_eq_true_eq]
  rw [passStart, echo, reportsAsked_record, List.countP_singleton, if_pos (hasks _),
    reportsAsked_congr]
  rfl

theorem reportsAsked_passEnd (floor : Priority) (start : Service σ) :
    (start.passEnd setup floor).reportsAsked = start.reportsAsked := by
  rw [passEnd, reportsAsked_measure, reportsAsked_killOne]

/-! ## What the choices leave -/

/-- From one service to the other the bundles under `keys` were selected, in this order,
and they are those that have ceased to be active. -/
structure Takes (keys : List BundleKey) (before after : Service σ) : Prop where
  selectedKeys_eq : after.selectedKeys = before.selectedKeys ++ keys
  consistent : before.table.Consistent → after.table.Consistent
  activeKeys_perm : before.table.Consistent →
    (keys ++ after.table.activeKeys).Perm before.table.activeKeys

namespace Takes

variable {keys earlier later : List BundleKey}

theorem quiet (hquiet : Quiet setup before after) : Takes [] before after where
  selectedKeys_eq := hquiet.selectedKeys_eq.trans (List.append_nil _).symm
  consistent hconsistent := hquiet.table_eq ▸ hconsistent
  activeKeys_perm _ := hquiet.table_eq ▸ .refl _

theorem refl : Takes [] service service where
  selectedKeys_eq := (List.append_nil _).symm
  consistent := id
  activeKeys_perm _ := .refl _

theorem trans (hfirst : Takes earlier before middle) (hsecond : Takes later middle after) :
    Takes (earlier ++ later) before after where
  selectedKeys_eq := by
    rw [hsecond.selectedKeys_eq, hfirst.selectedKeys_eq, List.append_assoc]
  consistent hconsistent := hsecond.consistent (hfirst.consistent hconsistent)
  activeKeys_perm hconsistent := by
    rw [List.append_assoc]
    exact ((hsecond.activeKeys_perm (hfirst.consistent hconsistent)).append_left earlier).trans
      (hfirst.activeKeys_perm hconsistent)

theorem quiet_trans (hquiet : Quiet setup before middle) (htakes : Takes keys middle after) :
    Takes keys before after :=
  (quiet hquiet).trans htakes

theorem trans_quiet (htakes : Takes keys before middle) (hquiet : Quiet setup middle after) :
    Takes keys before after := by
  rw [← List.append_nil keys]
  exact htakes.trans (quiet hquiet)

theorem refreshed : Takes [] service (service.refreshed setup) where
  selectedKeys_eq := (List.append_nil _).symm
  consistent hconsistent := (Table.consistent_partsKeep setup.rules).expire hconsistent
  activeKeys_perm _ := .of_eq (Table.activeKeys_expire service.table)

theorem killBundle {bundle : Bundle} {key : BundleKey}
    (hstored : service.table.bundle? key = some bundle) (hactive : bundle.state = .active) :
    Takes [bundle.key] service (service.killBundle setup bundle).2 where
  selectedKeys_eq := selectedKeys_killBundle bundle service
  consistent hconsistent := by
    rw [table_killBundle]
    exact hconsistent.setState _ _
  activeKeys_perm hconsistent := by
    have hmem : bundle.key ∈ service.table.activeKeys := by
      apply List.mem_map_of_mem
      exact List.mem_filter.2 ⟨OrdMap.mem_values.2 ⟨key, hstored⟩, decide_eq_true hactive⟩
    rw [table_killBundle, Table.activeKeys_setState hconsistent]
    exact (List.perm_cons_erase hmem).symm

theorem killOne (floor : Priority) :
    Takes ((service.choice? setup floor).toList.map Bundle.key) service
      (service.killOne setup floor).2 := by
  have hready : Takes [] service (service.atChoice setup) := refreshed.trans_quiet Quiet.clock
  rw [killOne_eq]
  cases hchoice : service.choice? setup floor with
  | none => exact hready
  | some bundle =>
      obtain ⟨⟨key, hstored⟩, -, heligible⟩ := of_choice? hchoice
      rw [Bundle.isEligible, Bool.and_eq_true, decide_eq_true_eq, decide_eq_true_eq] at heligible
      exact hready.trans (killBundle hstored heligible.2)

/-- A pass up to the measurement after its kill. -/
theorem pass (floor : Priority) (service : Service σ) :
    Takes (((service.passStart setup).choice? setup floor).toList.map Bundle.key) service
      ((service.passStart setup).passEnd setup floor) :=
  ((killOne floor).trans_quiet Quiet.measure).quiet_trans (Quiet.echo _ _)

end Takes

/-- What one kill gains comes from the processes of the bundle that was chosen. -/
theorem exists_choice?_of_gained (hgained : (service.killOne setup floor).1 ≠ 0) :
    ∃ bundle, service.choice? setup floor = some bundle := by
  rw [killOne_eq] at hgained
  cases hchoice : service.choice? setup floor with
  | none =>
      rw [hchoice] at hgained
      exact absurd rfl hgained
  | some bundle => exact ⟨bundle, rfl⟩

/-! ## Whole cycles -/

/-- A cycle finds nothing to do, or it announces the level that it found and makes passes
for the target of that level. -/
theorem killCycle_cases (setup : Setup σ) (service : Service σ) :
    let report := (service.killCycle setup).1
    let after := (service.killCycle setup).2
    (report.target = none ∧ report.kills = 0 ∧ service.cyclePasses setup = [] ∧
      Quiet setup service after ∧ after.journal = service.journal) ∨
    ∃ target deficit announced tally,
      report.target = some target ∧ report.kills = tally.kills ∧ report.outcome = tally.outcome ∧
      service.cyclePasses setup =
        (passStarts setup target deficit setup.config.maxKills 0 announced).map
          (⟨target.floor, ·⟩) ∧
      announced.killPasses setup target deficit setup.config.maxKills 0 0 = (tally, after) ∧
      Quiet setup service announced ∧ announced.reportsAsked = service.reportsAsked := by
  have hmeasured : Quiet setup service
      ({ service with cycles := service.cycles + 1 }.measure setup).2 := by
    apply Quiet.trans _ .measure
    exact .of_eq rfl rfl rfl
  have hjournal : ({ service with cycles := service.cycles + 1 }.measure setup).2.journal =
      service.journal := rfl
  intro report after
  unfold report after
  rw [killCycle, cyclePasses]
  cases hmeasure : { service with cycles := service.cycles + 1 }.measure setup with
  | mk reading measured =>
  rw [hmeasure] at hmeasured hjournal
  cases reading with
  | none => exact .inl ⟨rfl, rfl, rfl, hmeasured, hjournal⟩
  | some available =>
      dsimp only
      cases setup.levels.query available with
      | none => exact .inl ⟨rfl, rfl, rfl, hmeasured, hjournal⟩
      | some target =>
          dsimp only
          by_cases hvalid : target.floor.isValid
          · right
            rw [if_pos hvalid, if_pos hvalid]
            refine ⟨target, target.targetBuffer - available,
              (measured.publishLevel target.level).announceLevel target.level, _, rfl, rfl, rfl,
              rfl, rfl, hmeasured.trans (.trans (.publishLevel _) (.announceLevel _)), ?_⟩
            rw [reportsAsked_announceLevel]
            exact reportsAsked_congr hjournal
          · rw [if_neg hvalid, if_neg hvalid]
            exact .inl ⟨rfl, rfl, rfl, hmeasured, hjournal⟩

end MemoryReclaim.Service
