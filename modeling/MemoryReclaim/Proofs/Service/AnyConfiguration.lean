import MemoryReclaim.Host.Scripted
import MemoryReclaim.Proofs.KillLevels.Lookup
import MemoryReclaim.Proofs.Service.CycleReport

/-!
# Cycles under any configuration

A list of kill levels that is no table is never used: the default levels stand in for it.
So whatever is configured, every cycle works on a table.  The floor that it asks for is a
priority, its target is above what is available, and it cannot be content before it has
killed: a deficit that is open at the start is covered only by memory that kills freed.
-/

namespace MemoryReclaim

/-! ## Levels in use -/

namespace KillLevels

variable {entries : List KillLevel}

theorem default_isTable : IsTable default.entries :=
  (ofEntries_eq_ok_iff.1 (rfl : ofEntries default.entries = .ok default)).2

theorem ofConfigured_of_isTable (htable : IsTable entries) :
    ofConfigured entries = ⟨entries⟩ := by
  rw [ofConfigured, ofEntries_eq_ok_iff.2 ⟨rfl, htable⟩]

theorem ofConfigured_of_not_isTable (hnone : ¬ IsTable entries) :
    ofConfigured entries = default := by
  rw [ofConfigured]
  cases hentries : ofEntries entries with
  | ok levels => exact absurd (ofEntries_eq_ok_iff.1 hentries).2 hnone
  | error fault => rfl

theorem ofConfigured_isTable (entries : List KillLevel) :
    IsTable (ofConfigured entries).entries := by
  by_cases htable : IsTable entries
  · rw [ofConfigured_of_isTable htable]
    exact htable
  · rw [ofConfigured_of_not_isTable htable]
    exact default_isTable

/-- The levels in use are the configured ones exactly where these form a table. -/
theorem entries_ofConfigured_eq_iff :
    (ofConfigured entries).entries = entries ↔ IsTable entries := by
  refine ⟨fun heq => ?_, fun htable => ?_⟩
  · have htable := ofConfigured_isTable entries
    rw [heq] at htable
    exact htable
  · rw [ofConfigured_of_isTable htable]

end KillLevels

/-! ## Kills before content -/

/-- A course that began with an open deficit is not content without a kill. -/
theorem Course.kills_pos {buffer deficit freed : Kilobytes} {left kills : Nat}
    {results : List PassResult} {tally : Tally}
    (hcourse : Course buffer deficit left kills freed results tally)
    (hopen : kills = 0 → freed < deficit)
    (hcontent : tally.outcome = .deficitCovered ∨ tally.outcome = .recovered) :
    0 < tally.kills := by
  induction hcourse with
  | cap | nothing | lost => rcases hcontent with houtcome | houtcome <;> cases houtcome
  | covered left kills hcovered =>
      apply Nat.pos_of_ne_zero
      intro hzero
      exact absurd (hopen hzero) (Nat.not_lt_of_le hcovered)
  | recovered => exact Nat.succ_pos _
  | again _ _ _ _ ih => exact ih nofun hcontent

/-- A kill counts only when it gained memory. -/
theorem Course.freed_pos {buffer deficit freed : Kilobytes} {left : Nat}
    {results : List PassResult} {tally : Tally}
    (hcourse : Course buffer deficit left 0 freed results tally) (hkills : 0 < tally.kills) :
    0 < tally.freed := by
  rw [hcourse.kills_eq, Nat.zero_add, List.countP_pos_iff] at hkills
  obtain ⟨gain, hgain, hpos⟩ := hkills
  have hsum : (results.map PassResult.gain).sum ≠ 0 := by
    intro hzero
    rw [List.sum_eq_zero_iff_forall_eq_nat] at hzero
    rw [hzero gain hgain] at hpos
    cases hpos
  rw [hcourse.freed_eq]
  exact Nat.add_pos_right _ (Nat.pos_of_ne_zero hsum)

theorem exists_killed_of_freedIn {events : List Event} (hfreed : 0 < freedIn events) :
    ∃ pid freed, .killed pid freed ∈ events ∧ 0 < freed := by
  by_contra hnone
  apply Nat.ne_of_gt hfreed
  apply List.sum_eq_zero_iff_forall_eq_nat.2
  intro freed hmem
  obtain ⟨event, hevent, rfl⟩ := List.mem_map.1 hmem
  cases event with
  | killed pid freed =>
      exact Nat.eq_zero_of_not_pos fun hpos => hnone ⟨pid, freed, hevent, hpos⟩
  | delivered | selected | wrote => rfl

namespace Service

variable {σ : Type} {setup : Setup σ} {service : Service σ}

theorem levels_isTable (setup : Setup σ) : KillLevels.IsTable setup.levels.entries :=
  KillLevels.ofConfigured_isTable setup.config.killLevels

/-- The branch for a floor that is no priority is never taken. -/
theorem outcome_ne_invalidFloor (setup : Setup σ) (service : Service σ) :
    (service.killCycle setup).1.outcome ≠ .invalidFloor := by
  cases hreading : service.firstReading setup with
  | none =>
      rw [(killCycle_of_unread hreading).1]
      nofun
  | some available =>
      cases hquery : setup.levels.query available with
      | none =>
          rw [(killCycle_of_enough hreading hquery).1]
          nofun
      | some target => exact (killCycle_outcome hreading hquery _).1

/-- A cycle is content only after kills, and the journal has one that freed memory. -/
theorem killed_of_content (hcontent : (service.killCycle setup).1.outcome = .deficitCovered ∨
      (service.killCycle setup).1.outcome = .recovered) :
    0 < (service.killCycle setup).1.kills ∧
      ∃ events pid freed, (service.killCycle setup).2.journal = service.journal ++ events ∧
        .killed pid freed ∈ events ∧ 0 < freed := by
  cases hreading : service.firstReading setup with
  | none =>
      rw [(killCycle_of_unread hreading).1] at hcontent
      rcases hcontent with houtcome | houtcome <;> cases houtcome
  | some available =>
      cases hquery : setup.levels.query available with
      | none =>
          rw [(killCycle_of_enough hreading hquery).1] at hcontent
          rcases hcontent with houtcome | houtcome <;> cases houtcome
      | some target =>
          have hcourse := killCycle_course hreading hquery
          have hopen : 0 < target.targetBuffer - available :=
            Nat.sub_pos_of_lt (KillLevels.query_spec (increasing_levels setup) hquery).1
          have hkills := hcourse.kills_pos (fun _ => hopen) hcontent
          obtain ⟨events, hjournal, hfreed, -⟩ := killCycle_gains hreading hquery
          have hpos : 0 < freedIn events := hfreed ▸ hcourse.freed_pos hkills
          obtain ⟨pid, freed, hkilled, hgain⟩ := exists_killed_of_freedIn hpos
          exact ⟨hkills, events, pid, freed, hjournal, hkilled, hgain⟩

/-- Whatever levels are configured and whatever the host does.  The levels in use form a table;
they are the configured ones exactly where these do, and else the default ones.  What they
ask for at a reading has a number from one on and leaves a deficit.  A cycle never ends for
an invalid floor, the target of its report is the one for its first reading, and where it
covered the deficit or recovered, it has killed and freed memory. -/
theorem killCycle_has_table (setup : Setup σ) (service : Service σ) :
    let configured := setup.config.killLevels
    let report := (service.killCycle setup).1
    let after := (service.killCycle setup).2
    KillLevels.IsTable setup.levels.entries ∧
    (setup.levels.entries = configured ↔ KillLevels.IsTable configured) ∧
    (¬ KillLevels.IsTable configured → setup.levels = .default) ∧
    (∀ available target, setup.levels.query available = some target →
      1 ≤ target.level ∧ 0 < target.targetBuffer - available) ∧
    report.outcome ≠ .invalidFloor ∧
    (∀ target, report.target = some target → ∃ available, report.available = some available ∧
      setup.levels.query available = some target) ∧
    (report.outcome = .deficitCovered ∨ report.outcome = .recovered →
      0 < report.kills ∧ ∃ events pid freed, after.journal = service.journal ++ events ∧
        .killed pid freed ∈ events ∧ 0 < freed) := by
  intro configured report after
  refine ⟨levels_isTable setup, KillLevels.entries_ofConfigured_eq_iff,
    KillLevels.ofConfigured_of_not_isTable, fun available target hquery => ?_,
    outcome_ne_invalidFloor setup service, fun target htarget => ?_, killed_of_content⟩
  · obtain ⟨hbelow, -, hnumber, -⟩ := KillLevels.query_spec (increasing_levels setup) hquery
    exact ⟨hnumber, Nat.sub_pos_of_lt hbelow⟩
  · have hfirst : report.available = service.firstReading setup :=
      (killCycle_opening setup service).2.2.1
    rw [hfirst]
    exact Option.bind_eq_some_iff.1 ((target_killCycle setup service).symm.trans htarget)

/-- Two levels in the wrong order are configured, so the default ones are used.  The reading
asks for the highest of them, and one kill brings the available memory back. -/
theorem killCycle_has_table_unordered :
    let config := Config.default.withKillLevels [⟨300, 0⟩, ⟨200, 100⟩]
    let setup : Setup Script := ⟨Script.host, .nameless, config, "/proc"⟩
    let script : Script :=
      { Script.start with queued := [some 450000, some 600000], freed := OrdMap.empty.insert 7 900 }
    let arrived := (start script).run setup
      [.perform ⟨none, ⟨7, 20010007, "gallery", 100⟩, .createProcess⟩]
    let service := { arrived with host := { arrived.host with clock := 200 } }
    let report := (service.killCycle setup).1
    let target : KillTarget := ⟨512000, 400, 512000, 5⟩
    setup.levels = .default ∧ report.target = some target ∧ 1 ≤ target.level ∧
      0 < target.targetBuffer - 450000 ∧ report.outcome = .recovered ∧ 0 < report.kills ∧
      ∃ events pid freed, (service.killCycle setup).2.journal = service.journal ++ events ∧
        .killed pid freed ∈ events ∧ 0 < freed := by
  intro config setup script arrived service report target
  have hunordered : ¬ KillLevels.IsTable setup.config.killLevels :=
    fun htable => absurd htable.increasing (by decide)
  have houtcome : report.outcome = .recovered := by decide
  obtain ⟨-, -, hdefault, hasks, -, -, hkilled⟩ := killCycle_has_table setup service
  have hquery : setup.levels.query 450000 = some target := by
    rw [hdefault hunordered]
    rfl
  obtain ⟨hnumber, hdeficit⟩ := hasks 450000 target hquery
  exact ⟨hdefault hunordered, by decide, hnumber, hdeficit, houtcome, hkilled (.inr houtcome)⟩

end Service

end MemoryReclaim
