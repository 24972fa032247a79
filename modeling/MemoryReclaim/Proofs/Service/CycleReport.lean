import MemoryReclaim.Host.Scripted
import MemoryReclaim.Proofs.Service.CycleTrace
import MemoryReclaim.Proofs.Service.Gains
import MemoryReclaim.Proofs.Service.Readings

/-!
# The report of a cycle

A report says how a cycle ended, and a level stays published.  Both are told here by what
can be seen of the cycle: the readings that it took and the kills that it made.
-/

namespace MemoryReclaim.Service

variable {σ : Type} {setup : Setup σ} {service : Service σ} {available : Kilobytes}
variable {target : KillTarget}

theorem map_gain_result (passes : List (Pass σ)) :
    (passes.map (Pass.result setup)).map PassResult.gain = passes.map (Pass.gain setup) := by
  rw [List.map_map]
  rfl

theorem target_of_query (hreading : service.firstReading setup = some available)
    (hquery : setup.levels.query available = some target) :
    (service.killCycle setup).1.target = some target := by
  rw [target_killCycle, hreading, Option.bind_some, hquery]

/-- What a report counts is what the passes of its cycle come to. -/
theorem killCycle_course (hreading : service.firstReading setup = some available)
    (hquery : setup.levels.query available = some target) :
    let report := (service.killCycle setup).1
    Course target.targetBuffer (target.targetBuffer - available) setup.config.maxKills 0 0
      ((service.cyclePasses setup).map (Pass.result setup))
      ⟨report.kills, report.freed, report.outcome⟩ := by
  intro report
  obtain ⟨hcycle, hpasses⟩ := killCycle_of_target hreading hquery
  unfold report
  rw [hcycle, hpasses]
  exact killPasses_course setup target _ setup.config.maxKills 0 0 _

theorem counters_killCycle (hreading : service.firstReading setup = some available)
    (hquery : setup.levels.query available = some target) :
    let result := service.killCycle setup
    result.2.cycles = service.cycles + 1 ∧
      result.2.killLevel =
        if result.1.outcome = .recovered ∨ result.1.outcome = .measurementLost then 0
        else target.level := by
  have hannounced : Between setup ((service.begun setup).publishLevel target.level)
      (service.announced setup target) := .announceLevel target.level
  have hcycles : (service.announced setup target).cycles = service.cycles + 1 :=
    hannounced.cycles_eq
  have hlevel : (service.announced setup target).killLevel = target.level :=
    hannounced.killLevel_eq
  have hcounters := counters_killPasses setup target (target.targetBuffer - available)
    setup.config.maxKills 0 0 (service.announced setup target)
  rw [hcycles, hlevel] at hcounters
  rw [(killCycle_of_target hreading hquery).1]
  exact hcounters

/-- With a target, the kills that a cycle lists in the journal add up to what it reports. -/
theorem killCycle_gains (hreading : service.firstReading setup = some available)
    (hquery : setup.levels.query available = some target) :
    let report := (service.killCycle setup).1
    ∃ events, (service.killCycle setup).2.journal = service.journal ++ events ∧
      report.freed = freedIn events ∧
      report.kills = (yields Event.selects events).countP (0 < ·) ∧
      yields asksReport events = (service.cyclePasses setup).map (Pass.gain setup) := by
  intro report
  have hcourse := killCycle_course hreading hquery
  have hkills := hcourse.kills_eq
  have hfreed := hcourse.freed_eq
  rw [map_gain_result, Nat.zero_add] at hkills hfreed
  obtain ⟨level, segments, -, hshows, hjournal, -⟩ :=
    killCycle_shows (target_of_query hreading hquery)
  refine ⟨_, hjournal, ?_, ?_, ?_⟩
  · rw [freedIn_append, Registry.freedIn_told, Nat.zero_add, hshows.gains_eq.1]
    exact hfreed
  · rw [yields_append_of_closed fun event hevent => (Registry.told_closed hevent).2,
      hshows.selections_eq]
    exact hkills
  · rw [yields_append_of_closed fun event hevent => (Registry.told_closed hevent).1,
      hshows.gains_eq.2]

/-- With a target, a cycle ends as the findings at its end say. -/
theorem killCycle_outcome (hreading : service.firstReading setup = some available)
    (hquery : setup.levels.query available = some target) (outcome : CycleOutcome) :
    let report := (service.killCycle setup).1
    report.outcome = outcome ↔ Findings.Bear
      { cap := setup.config.maxKills
        buffer := target.targetBuffer
        deficit := target.targetBuffer - available
        kills := report.kills
        freed := report.freed
        lastReading := (service.rereadings setup).getLast?
        lastGain := ((service.cyclePasses setup).map (Pass.gain setup)).getLast? } outcome := by
  intro report
  have hopen : 0 < target.targetBuffer - available :=
    Nat.sub_pos_of_lt (KillLevels.query_spec (increasing_levels setup) hquery).1
  have houtcome := (killCycle_course hreading hquery).outcome_eq_iff none nofun
    (fun _ => ⟨rfl, hopen⟩) outcome
  rw [Course.findings, map_gain_result, Option.or_none, Nat.zero_add] at houtcome
  exact houtcome

/-- With a target, a cycle ends in none of the ways that the first reading decides alone. -/
theorem outcome_ne_of_query (hreading : service.firstReading setup = some available)
    (hquery : setup.levels.query available = some target) :
    (service.killCycle setup).1.outcome ≠ .memoryUnavailable ∧
      (service.killCycle setup).1.outcome ≠ .noKillNeeded :=
  ⟨fun houtcome => (killCycle_outcome hreading hquery _).1 houtcome,
    fun houtcome => (killCycle_outcome hreading hquery _).1 houtcome⟩

theorem rereadings_of_no_pass (hpasses : service.cyclePasses setup = []) :
    service.rereadings setup = [] := by
  rw [rereadings, hpasses]
  rfl

/-- What the first reading alone tells of the report and of what stays as it was. -/
theorem killCycle_opening (setup : Setup σ) (service : Service σ) :
    let report := (service.killCycle setup).1
    let after := (service.killCycle setup).2
    let first := service.firstReading setup
    report.cycle = service.cycles + 1 ∧ after.cycles = report.cycle ∧ report.available = first ∧
    (report.outcome = .memoryUnavailable ↔ first = none) ∧
    (report.outcome = .noKillNeeded ↔
      ∃ available, first = some available ∧ setup.levels.maxBuffer ≤ available) ∧
    (report.outcome = .memoryUnavailable ∨ report.outcome = .noKillNeeded →
      report.target = none ∧ report.kills = 0 ∧ report.freed = 0 ∧
      service.rereadings setup = [] ∧ after.journal = service.journal ∧
      after.killLevel = service.killLevel) := by
  intro report after first
  have hneeds : ∀ {available}, setup.levels.query available = none ↔
      setup.levels.maxBuffer ≤ available :=
    KillLevels.query_eq_none_iff (increasing_levels setup)
  cases hreading : first with
  | none =>
      obtain ⟨hcycle, hpasses⟩ := killCycle_of_unread hreading
      unfold report after
      rw [hcycle, rereadings_of_no_pass hpasses]
      refine ⟨rfl, rfl, rfl, iff_of_true rfl rfl, ?_, fun _ => ⟨rfl, rfl, rfl, rfl, rfl, rfl⟩⟩
      exact iff_of_false nofun fun ⟨_, hsome, _⟩ => nomatch hsome
  | some available =>
      cases hquery : setup.levels.query available with
      | none =>
          obtain ⟨hcycle, hpasses⟩ := killCycle_of_enough hreading hquery
          unfold report after
          rw [hcycle, rereadings_of_no_pass hpasses]
          refine ⟨rfl, rfl, rfl, iff_of_false nofun nofun, ?_,
            fun _ => ⟨rfl, rfl, rfl, rfl, rfl, rfl⟩⟩
          exact iff_of_true rfl ⟨available, rfl, hneeds.1 hquery⟩
      | some target =>
          have hreport : report.cycle = service.cycles + 1 ∧
              report.available = some available := by
            unfold report
            rw [(killCycle_of_target hreading hquery).1]
            exact ⟨rfl, rfl⟩
          obtain ⟨hread, hneeded⟩ := outcome_ne_of_query hreading hquery
          refine ⟨hreport.1, ?_, hreport.2, iff_of_false hread nofun, iff_of_false hneeded ?_, ?_⟩
          · rw [hreport.1]
            exact (counters_killCycle hreading hquery).1
          · rintro ⟨other, hother, henough⟩
            cases hother
            rw [← hneeds, hquery] at henough
            cases henough
          · rintro (houtcome | houtcome)
            · exact absurd houtcome hread
            · exact absurd houtcome hneeded

/-- One cycle of any service on any host.  Its report numbers it and gives the first reading;
without one, or with one that no threshold is above, it has no target and nothing else
happens.  Otherwise the target is that of the first reading, the freed memory is that of
all kills in the journal, and the kills are the bundles selected there that freed some, at
most as many as the cap.  The outcome is then the one that the findings bear: how the last
reading after a kill compares with what the target asks for, what the last pass gained,
and whether the kills have reached the cap or the freed memory the deficit.  The level of
the target stays published unless the last reading was enough or failed.  Where the host
logs its readings, the log shows the first one and then those after the kills. -/
theorem killCycle_reports_findings (setup : Setup σ) (service : Service σ) :
    let report := (service.killCycle setup).1
    let after := (service.killCycle setup).2
    let first := service.firstReading setup
    let readings := service.rereadings setup
    (∀ log, setup.host.Logs log → log after.host = log service.host ++ first :: readings) ∧
    report.cycle = service.cycles + 1 ∧ after.cycles = report.cycle ∧ report.available = first ∧
    (report.outcome = .memoryUnavailable ↔ first = none) ∧
    (report.outcome = .noKillNeeded ↔
      ∃ available, first = some available ∧ setup.levels.maxBuffer ≤ available) ∧
    (report.outcome = .memoryUnavailable ∨ report.outcome = .noKillNeeded →
      report.target = none ∧ report.kills = 0 ∧ report.freed = 0 ∧ readings = [] ∧
      after.journal = service.journal ∧ after.killLevel = service.killLevel) ∧
    ∀ available, first = some available → available < setup.levels.maxBuffer →
      ∃ target events, setup.levels.query available = some target ∧
        report.target = some target ∧ after.journal = service.journal ++ events ∧
        report.freed = freedIn events ∧
        report.kills = (yields Event.selects events).countP (0 < ·) ∧
        report.kills ≤ setup.config.maxKills ∧
        (∀ outcome, report.outcome = outcome ↔
          Findings.Bear
            { cap := setup.config.maxKills
              buffer := target.targetBuffer
              deficit := target.targetBuffer - available
              kills := report.kills
              freed := report.freed
              lastReading := readings.getLast?
              lastGain := (yields asksReport events).getLast? } outcome) ∧
        after.killLevel =
          if report.outcome = .recovered ∨ report.outcome = .measurementLost then 0
          else target.level := by
  intro report after first readings
  obtain ⟨hnumber, hcycles, hfirst, hunread, henough, hquiet⟩ := killCycle_opening setup service
  refine ⟨fun log hlogs => log_killCycle hlogs service, hnumber, hcycles, hfirst, hunread,
    henough, hquiet, ?_⟩
  intro available hreading hlow
  cases hquery : setup.levels.query available with
  | none =>
      have hreached := (KillLevels.query_eq_none_iff (increasing_levels setup)).1 hquery
      exact absurd hlow (Nat.not_lt_of_le hreached)
  | some target =>
      have hcap := (killCycle_course hreading hquery).kills_le
      rw [Nat.zero_add] at hcap
      obtain ⟨events, hjournal, hfreed, hkills, hgains⟩ := killCycle_gains hreading hquery
      refine ⟨target, events, rfl, target_of_query hreading hquery, hjournal, hfreed, hkills,
        hcap, ?_, (counters_killCycle hreading hquery).2⟩
      rw [hgains]
      exact killCycle_outcome hreading hquery

/-- Two bundles are killed on a host that logs its readings.  The first kill leaves too
little memory and the second one enough, so the level is withdrawn. -/
theorem killCycle_reports_findings_logged :
    let setup : Setup (Script × List (Option Kilobytes)) :=
      ⟨Script.host.logging, .nameless, { Config.default with protection := 0 }, "/proc"⟩
    let script : Script :=
      { Script.start with
        queued := [some 450000, some 470000, some 520000]
        freed := .ofList [(1, 30000), (2, 25000)] }
    let actions : List Action :=
      [.perform ⟨none, ⟨1, 20010001, "browser", 100⟩, .background⟩,
        .perform ⟨none, ⟨2, 20010002, "player", 100⟩, .background⟩]
    let service := (start (script, [])).run setup actions
    let report := (service.killCycle setup).1
    let after := (service.killCycle setup).2
    after.host.2 = [some 450000, some 470000, some 520000] ∧
      report.target = some ⟨512000, 400, 512000, 5⟩ ∧ report.kills = 2 ∧
      report.freed = 55000 ∧ report.outcome = .recovered ∧ after.killLevel = 0 := by
  intro setup script actions service report after
  obtain ⟨hlog, -, -, -, -, -, -, hkilling⟩ := killCycle_reports_findings setup service
  obtain ⟨target, events, hquery, htarget, -, -, -, -, houtcome, hlevel⟩ :=
    hkilling 450000 (by decide) (by decide)
  have hfive : setup.levels.query 450000 = some ⟨512000, 400, 512000, 5⟩ := by decide
  obtain rfl : target = ⟨512000, 400, 512000, 5⟩ := Option.some.inj (hquery.symm.trans hfive)
  have hlast : (service.rereadings setup).getLast? = some (some 520000) := by decide
  have henough : (512000 : Kilobytes) ≤ 520000 := by decide
  have hrecovered : report.outcome = .recovered := by
    rw [houtcome, Findings.Bear]
    dsimp only
    exact ⟨520000, hlast, henough⟩
  have hlogged := hlog Prod.snd (Host.logging_logs Script.host)
  refine ⟨?_, htarget, by decide, by decide, hrecovered, hlevel.trans (if_pos (.inl hrecovered))⟩
  unfold after
  rw [hlogged]
  decide

end MemoryReclaim.Service
