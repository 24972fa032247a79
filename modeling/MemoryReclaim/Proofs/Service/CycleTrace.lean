import MemoryReclaim.Proofs.Service.CycleEvents
import MemoryReclaim.Proofs.Service.FirstReading
import MemoryReclaim.Proofs.Service.KillBounds
import MemoryReclaim.Proofs.Service.RankingWalk
import MemoryReclaim.Proofs.Service.WriteAnswers

/-!
# What collaborators see of a cycle

A cycle with a target announces its level to every subscriber, and then shows one segment for
each pass.  In it a process is killed right after every subscriber was told to reclaim what
it can of it, and nobody is told so of a process that is not killed next.
-/

namespace MemoryReclaim

/-- Where an element stands in one list after another. -/
theorem split_of_append {α : Type} {left right earlier later : List α} {element : α}
    (hsplit : left ++ right = earlier ++ element :: later) :
    (∃ rest, left = earlier ++ element :: rest ∧ later = rest ++ right) ∨
      ∃ before, earlier = left ++ before ∧ right = before ++ element :: later := by
  rcases List.append_eq_append_iff.1 hsplit with ⟨before, hearlier, hright⟩ | ⟨rest, hleft, hrest⟩
  · exact .inr ⟨before, hearlier, hright⟩
  · cases rest with
    | nil => exact .inr ⟨[], by rw [hleft, List.append_nil, List.append_nil], hrest.symm⟩
    | cons first rest =>
        rw [List.cons_append, List.cons.injEq] at hrest
        obtain ⟨rfl, hlater⟩ := hrest
        exact .inl ⟨rest, hleft, hlater⟩

/-- An event that neither kills a process nor tells a subscriber to reclaim one. -/
def Event.isPlain : Event → Bool
  | .killed _ _ | .delivered ⟨_, .forceReclaim _ _⟩ => false
  | _ => true

namespace Registry

variable {registry : Registry} {left right events : List Event}

/-- Every kill comes right after the notices of it, and each such notice is followed by the
rest of them and then by the kill. -/
structure Announces (registry : Registry) (events : List Event) : Prop where
  told_before : ∀ {earlier pid freed later}, events = earlier ++ .killed pid freed :: later →
    ∃ uid, registry.told (.forceReclaim pid uid) <:+ earlier
  killed_after : ∀ {earlier name pid uid later},
    events = earlier ++ .delivered ⟨name, .forceReclaim pid uid⟩ :: later →
      ∃ names freed,
        List.map (fun other => Event.delivered ⟨other, .forceReclaim pid uid⟩) names ++
          [.killed pid freed] <+: later

theorem told_eq (notice : Notice) (registry : Registry) :
    registry.told notice = registry.keys.map fun name => .delivered ⟨name, notice⟩ := by
  rw [told, deliveries, List.map_map]
  rfl

theorem mem_told {notice : Notice} {event : Event} (hevent : event ∈ registry.told notice) :
    ∃ name, event = .delivered ⟨name, notice⟩ := by
  rw [told_eq] at hevent
  obtain ⟨name, -, rfl⟩ := List.mem_map.1 hevent
  exact ⟨name, rfl⟩

/-- Every registered subscriber is told once. -/
theorem count_told {name : SubscriberName} (hregistered : registry.contains name)
    (notice : Notice) : (registry.told notice).count (.delivered ⟨name, notice⟩) = 1 := by
  have hinjective : Function.Injective fun other => Event.delivered ⟨other, notice⟩ := by
    intro one other heq
    rw [Event.delivered.injEq, Delivery.mk.injEq] at heq
    exact heq.1
  have hnodup : (registry.told notice).Nodup := by
    rw [told_eq]
    exact registry.keys_nodup.map hinjective
  apply List.count_eq_one_of_mem hnodup
  rw [told_eq]
  exact List.mem_map_of_mem (OrdMap.mem_keys.2 hregistered)

namespace Announces

theorem append (hleft : registry.Announces left) (hright : registry.Announces right) :
    registry.Announces (left ++ right) where
  told_before hsplit := by
    rcases split_of_append hsplit with ⟨rest, hfirst, -⟩ | ⟨before, hearlier, hsecond⟩
    · exact hleft.told_before hfirst
    · obtain ⟨uid, htold⟩ := hright.told_before hsecond
      exact ⟨uid, hearlier ▸ htold.trans (List.suffix_append _ _)⟩
  killed_after hsplit := by
    rcases split_of_append hsplit with ⟨rest, hfirst, hlater⟩ | ⟨before, -, hsecond⟩
    · obtain ⟨names, freed, hnext⟩ := hleft.killed_after hfirst
      exact ⟨names, freed, hlater ▸ hnext.trans (List.prefix_append _ _)⟩
    · exact hright.killed_after hsecond

theorem of_plain (hplain : ∀ event ∈ events, event.isPlain) : registry.Announces events where
  told_before {earlier pid freed later} hsplit := by
    have hkill := hplain (.killed pid freed) (hsplit ▸ List.mem_append_right _ List.mem_cons_self)
    cases hkill
  killed_after {earlier name pid uid later} hsplit := by
    have htold := hplain (.delivered ⟨name, .forceReclaim pid uid⟩)
      (hsplit ▸ List.mem_append_right _ List.mem_cons_self)
    cases htold

theorem nil : registry.Announces [] :=
  of_plain fun _ hevent => absurd hevent List.not_mem_nil

theorem trim (level : MemoryLevel) : registry.Announces (registry.told (.trim level)) := by
  apply of_plain
  intro event hevent
  obtain ⟨name, rfl⟩ := mem_told hevent
  rfl

theorem ending (process : ProcessRecord) (freed : Kilobytes) :
    registry.Announces (registry.ending process freed) where
  told_before {earlier pid amount later} hsplit := by
    rcases split_of_append hsplit with ⟨rest, hfirst, -⟩ | ⟨before, hearlier, hsecond⟩
    · -- The notices before the kill contain no kill.
      have htold : Event.killed pid amount ∈
          registry.told (.forceReclaim process.pid process.uid) :=
        hfirst ▸ List.mem_append_right earlier List.mem_cons_self
      obtain ⟨name, hname⟩ := mem_told htold
      cases hname
    · rcases List.singleton_eq_append_iff.1 hsecond with ⟨hbefore, hkilled⟩ | ⟨-, hnever⟩
      · rw [List.cons.injEq, Event.killed.injEq] at hkilled
        obtain ⟨⟨rfl, -⟩, -⟩ := hkilled
        rw [hearlier, hbefore, List.append_nil]
        exact ⟨process.uid, List.suffix_rfl⟩
      · cases hnever
  killed_after {earlier name pid uid later} hsplit := by
    rcases split_of_append hsplit with ⟨rest, hfirst, hlater⟩ | ⟨before, -, hsecond⟩
    · rw [told_eq, List.map_eq_append_iff] at hfirst
      obtain ⟨keysBefore, keysAfter, -, -, hkeys⟩ := hfirst
      obtain ⟨other, names, -, hother, rfl⟩ := List.map_eq_cons_iff.1 hkeys
      rw [Event.delivered.injEq, Delivery.mk.injEq, Notice.forceReclaim.injEq] at hother
      obtain ⟨-, rfl, rfl⟩ := hother
      exact ⟨names, freed, hlater ▸ List.prefix_rfl⟩
    · have hmem : Event.delivered ⟨name, .forceReclaim pid uid⟩ ∈
          [Event.killed process.pid freed] := hsecond ▸ List.mem_append_right _ List.mem_cons_self
      cases List.mem_singleton.1 hmem

theorem endings (ends : List (ProcessRecord × Kilobytes)) :
    registry.Announces (registry.endings ends) := by
  induction ends with
  | nil => exact nil
  | cons first later ih => exact (ending first.1 first.2).append ih

end Announces

/-! ## The segment of a pass -/

namespace ShowsPass

variable {choice : Option Bundle} {gained : Kilobytes} {segment : List Event}

theorem announces (hshows : registry.ShowsPass choice gained segment) :
    registry.Announces segment := by
  cases hshows with
  | idle succeeded =>
      apply Announces.of_plain
      intro event hevent
      rw [List.mem_singleton.1 hevent]
      rfl
  | @kill succeeded bundle ends hends =>
      have hopening : registry.Announces
          [.wrote reportTrigger limitedReport .truncate succeeded, .selected bundle.key] := by
        apply Announces.of_plain
        intro event hevent
        rcases List.mem_cons.1 hevent with rfl | hselected
        · rfl
        · rw [List.mem_singleton.1 hselected]
          rfl
      exact hopening.append (.endings ends)

end ShowsPass

end Registry

namespace Service

variable {σ : Type} {setup : Setup σ} {service : Service σ} {target : KillTarget}

theorem Shows.announces {registry : Registry} {passes : List (Pass σ)}
    {segments : List (List Event)} (hshows : Shows setup registry passes segments) :
    registry.Announces segments.flatten := by
  induction hshows with
  | nil => exact .nil
  | cons hpass _ ih =>
      rw [List.flatten_cons]
      exact hpass.announces.append ih

/-! ## Whole cycles -/

theorem announceLevel_eq {level : MemoryLevel} {number : Nat}
    (hlevel : MemoryLevel.ofKillLevel number = some level) (service : Service σ) :
    service.announceLevel number = service.record (service.registry.told (.trim level)) := by
  rw [announceLevel, hlevel]
  rfl

theorem exists_level {number : Nat} (hpositive : 1 ≤ number) :
    ∃ level, MemoryLevel.ofKillLevel number = some level := by
  match number with
  | 1 | 2 => exact ⟨.critical, rfl⟩
  | 3 => exact ⟨.low, rfl⟩
  | more + 4 => exact ⟨.moderate, rfl⟩

/-- A cycle with a target shows the announcement of its level and then its passes. -/
theorem killCycle_shows (htarget : (service.killCycle setup).1.target = some target) :
    ∃ level segments,
      MemoryLevel.ofKillLevel target.level = some level ∧
      Shows setup service.registry (service.cyclePasses setup) segments ∧
      (service.killCycle setup).2.journal =
        service.journal ++ (service.registry.told (.trim level) ++ segments.flatten) ∧
      (service.killCycle setup).2.registry = service.registry := by
  rw [target_killCycle, Option.bind_eq_some_iff] at htarget
  obtain ⟨available, hreading, hquery⟩ := htarget
  obtain ⟨-, -, hpositive, -⟩ := KillLevels.query_spec (increasing_levels setup) hquery
  obtain ⟨level, hlevel⟩ := exists_level hpositive
  obtain ⟨hcycle, hpasses⟩ := killCycle_of_target hreading hquery
  have hannounced : service.announced setup target =
      ((service.begun setup).publishLevel target.level).record
        (service.registry.told (.trim level)) := announceLevel_eq hlevel _
  obtain ⟨segments, hshows, hjournal, hregistry⟩ := killPasses_shows setup target
    (target.targetBuffer - available) setup.config.maxKills 0 0 (service.announced setup target)
  have hsame : (service.announced setup target).registry = service.registry := by
    rw [hannounced]
    rfl
  have hbefore : (service.announced setup target).journal =
      service.journal ++ service.registry.told (.trim level) := by
    rw [hannounced]
    rfl
  rw [hsame] at hshows hregistry
  rw [hbefore, List.append_assoc] at hjournal
  rw [hcycle, hpasses]
  exact ⟨level, segments, hlevel, hshows, hjournal, hregistry⟩

/-- Without a target a cycle shows nothing at all. -/
theorem killCycle_silent (hnone : (service.killCycle setup).1.target = none) :
    (service.killCycle setup).2.journal = service.journal ∧ service.cyclePasses setup = [] ∧
      (service.killCycle setup).2.registry = service.registry := by
  cases hreading : service.firstReading setup with
  | none =>
      obtain ⟨hcycle, hpasses⟩ := killCycle_of_unread hreading
      rw [hcycle]
      exact ⟨rfl, hpasses, rfl⟩
  | some available =>
      cases hquery : setup.levels.query available with
      | none =>
          obtain ⟨hcycle, hpasses⟩ := killCycle_of_enough hreading hquery
          rw [hcycle]
          exact ⟨rfl, hpasses, rfl⟩
      | some target =>
          rw [target_killCycle, hreading, Option.bind_some, hquery] at hnone
          cases hnone

/-- Each pass asks the kernel for one report. -/
theorem reportsAsked_killCycle (setup : Setup σ) (service : Service σ) :
    (service.killCycle setup).2.reportsAsked =
      service.reportsAsked + (service.cyclePasses setup).length := by
  rcases killCycle_cases setup service with
    ⟨-, -, hpasses, -, hjournal⟩ | ⟨target, deficit, announced, tally, -, -, -, hpasses, hresult,
      -, hreports⟩
  · rw [hpasses, reportsAsked_congr hjournal, List.length_nil, Nat.add_zero]
  · have hasked := reportsAsked_killPasses setup target deficit setup.config.maxKills 0 0
      announced
    rw [hresult, hreports] at hasked
    rw [hpasses, List.length_map]
    exact hasked

/-- The bundle that a pass chooses lists its processes by their pids. -/
theorem pids_of_choice? (hconsistent : service.table.Consistent) {pass : Pass σ}
    (hpass : pass ∈ service.cyclePasses setup) {bundle : Bundle}
    (hchoice : pass.choice? setup = some bundle) :
    bundle.procs.values.map ProcessRecord.pid = bundle.procs.keys := by
  obtain ⟨history, htable⟩ := (Advances.killSteps (steps_of_mem_cyclePasses hpass)).table_run
  have hstart : pass.start.table.Consistent := by
    rw [htable]
    exact (Table.consistent_partsKeep setup.rules).run hconsistent history
  have hready : (pass.start.atChoice setup).table.Consistent :=
    (Table.consistent_partsKeep setup.rules).expire hstart
  obtain ⟨⟨key, hstored⟩, -, -⟩ := of_choice? hchoice
  exact (hready.sound hstored).pids_eq

/-- One cycle after any run, as its collaborators see it.  Without a target there is nothing
to see.  With one, each subscriber is told the level of the target once, and then each
pass in order shows one write to the report trigger, which truncates, and for each process
of the bundle that it chose, in the order of their pids, one notice to every subscriber to
reclaim that process, right before its kill.  So nothing is killed without such notices,
none of them is sent without the kill, there are as many writes as passes, and whether the
writes go through makes no difference to anything but their marks. -/
theorem killCycle_shows_passes (setup : Setup σ) (host : σ) (actions : List Action) :
    let service := (start host).run setup actions
    let report := (service.killCycle setup).1
    let after := (service.killCycle setup).2
    let passes := service.cyclePasses setup
    (report.target = none → after.journal = service.journal ∧ passes = []) ∧
    (∀ target, report.target = some target → ∃ level segments,
      MemoryLevel.ofKillLevel target.level = some level ∧
      Shows setup service.registry passes segments ∧
      after.journal =
        service.journal ++ (service.registry.told (.trim level) ++ segments.flatten)) ∧
    (∀ pass ∈ passes, ∀ bundle, pass.choice? setup = some bundle →
      bundle.procs.values.map ProcessRecord.pid = bundle.procs.keys ∧
        bundle.procs.keys.Pairwise (· < ·)) ∧
    (∀ notice name, service.registry.contains name →
      (service.registry.told notice).count (.delivered ⟨name, notice⟩) = 1) ∧
    after.registry = service.registry ∧
    (∃ events, after.journal = service.journal ++ events ∧ service.registry.Announces events) ∧
    after.reportsAsked = service.reportsAsked + passes.length ∧
    ∀ answer, (service.killCycle (setup.answering answer)).1 = report ∧
      (service.killCycle (setup.answering answer)).2.unmarked = after.unmarked := by
  intro service report after passes
  have hconsistent : service.table.Consistent := run_table_consistent setup host actions
  have hshown : after.registry = service.registry ∧
      ∃ events, after.journal = service.journal ++ events ∧
        service.registry.Announces events := by
    cases htarget : report.target with
    | none =>
        obtain ⟨hjournal, -, hregistry⟩ := killCycle_silent htarget
        exact ⟨hregistry, [], hjournal.trans (List.append_nil _).symm, .nil⟩
    | some target =>
        obtain ⟨level, segments, -, hshows, hjournal, hregistry⟩ := killCycle_shows htarget
        exact ⟨hregistry, _, hjournal, (Registry.Announces.trim level).append hshows.announces⟩
  refine ⟨?_, ?_, ?_, fun notice name hregistered => Registry.count_told hregistered notice,
    hshown.1, hshown.2, reportsAsked_killCycle setup service, killCycle_answering setup service⟩
  · intro hnone
    obtain ⟨hjournal, hpasses, -⟩ := killCycle_silent hnone
    exact ⟨hjournal, hpasses⟩
  · intro target htarget
    obtain ⟨level, segments, hlevel, hshows, hjournal, -⟩ := killCycle_shows htarget
    exact ⟨level, segments, hlevel, hshows, hjournal⟩
  · intro pass hpass bundle hchoice
    exact ⟨pids_of_choice? hconsistent hpass hchoice, bundle.pids_ascending⟩

end Service

end MemoryReclaim
