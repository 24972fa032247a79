import MemoryReclaim.Proofs.Table.Evaluation
import MemoryReclaim.Proofs.Table.Representation

/-!
# Stored priorities are up to date

An event comes back to every record that it made stale, so nothing is stale between two
events.  Time alone changes a tier only by closing a grace window, and a reader ends the
windows that have closed; what it then sees is what would be computed from scratch.
-/

namespace MemoryReclaim.Table

variable {rules : Rules} {earlier now : Seconds} {table : Table} {pid : Pid}

/-! ## Whole events -/

theorem boundTargets_eq {after : Table} {change : ProcessRecord → ProcessRecord}
    (hlookup : after.process? pid = (table.process? pid).map change)
    (hbindsTo : ∀ process, (change process).bindsTo = process.bindsTo) :
    after.boundTargets pid = table.boundTargets pid := by
  rw [boundTargets, boundTargets, hlookup]
  cases table.process? pid with
  | none => rfl
  | some process => exact congrArg OrdMap.keys (hbindsTo process)

theorem Touches.boundTargets_foldl {step : Table → Pid → Table}
    {change : (Pid → Bool) → ProcessRecord → ProcessRecord} (htouches : Touches step change)
    (hbindsTo : ∀ view process, (change view process).bindsTo = process.bindsTo)
    (table : Table) (pids : List Pid) (pid : Pid) :
    (pids.foldl step table).boundTargets pid = table.boundTargets pid := by
  have hlookup := htouches.process?_foldl table pids pid
  split at hlookup
  · exact boundTargets_eq hlookup (hbindsTo table.isForeground)
  · rw [boundTargets, hlookup, boundTargets]

theorem noteEvent_of_changesForeground {request : ResolvedRequest}
    (hreason : request.reason.changesForeground) :
    table.noteEvent rules now request =
      (table.ensure rules now request.target).modifyProcess request.target.pid
        (.note request.reason now) := by
  rw [noteEvent, rebind]
  split
  · next hbind _ => rw [hbind] at hreason; cases hreason
  · next hunbind _ => rw [hunbind] at hreason; cases hreason
  · rfl

/-- The event keeps its target's bindings, so the extensions that it makes stale are
those that it comes back to in the end. -/
theorem boundTargets_fresh {request : ResolvedRequest}
    (hreason : request.reason.changesForeground) :
    (((table.noteEvent rules now request).expire rules now).refresh rules now
        request.target.pid).boundTargets request.target.pid =
      (table.ensure rules now request.target).boundTargets request.target.pid := by
  have hrefreshed := (touches_refresh rules now).boundTargets_foldl (fun _ _ => rfl)
    ((table.noteEvent rules now request).expire rules now) [request.target.pid]
    request.target.pid
  have hexpired := (touches_endAbilityStart rules now).boundTargets_foldl (fun _ _ => rfl)
    (table.noteEvent rules now request)
    ((table.noteEvent rules now request).expiredPids rules now) request.target.pid
  have hnoted : (table.noteEvent rules now request).boundTargets request.target.pid =
      (table.ensure rules now request.target).boundTargets request.target.pid := by
    rw [noteEvent_of_changesForeground hreason]
    apply boundTargets_eq
    · rw [process?_modifyProcess, if_pos rfl]
    · intro process
      cases request.reason <;> rfl
  exact hrefreshed.trans (hexpired.trans hnoted)

namespace EvaluatedBut

/-- Any other event leaves at most its target stale. -/
theorem noteEvent (htable : table.EvaluatedBut rules now ∅) (hpaired : table.Paired)
    {request : ResolvedRequest} (hreason : request.reason.changesForeground = false) :
    (table.noteEvent rules now request).EvaluatedBut rules now {request.target.pid} := by
  have htarget : request.target.pid ∈ ({request.target.pid} : Set Pid) :=
    Set.mem_singleton _
  have hensured : (table.ensure rules now request.target).EvaluatedBut rules now
      {request.target.pid} :=
    (htable.ensure hpaired request.target).mono (Set.empty_subset _)
  have hnoted : ((table.ensure rules now request.target).modifyProcess request.target.pid
      (.note request.reason now)).EvaluatedBut rules now {request.target.pid} := by
    apply hensured.modifyProcess
    · exact ProcessRecord.isForeground_note hreason now
    · intro hfresh
      exact absurd htarget hfresh
  have hpairedNoted : ((table.ensure rules now request.target).modifyProcess
      request.target.pid (.note request.reason now)).Paired :=
    ((paired_partsKeep rules).ensure hpaired request.target).note _ _ _
  rw [Table.noteEvent, Table.rebind]
  split
  · exact (hnoted.ensure hpairedNoted _).bind _ htarget
  · exact hnoted.unbind _ htarget
  · exact hnoted

theorem applyLive (htable : table.EvaluatedBut rules now ∅) (hpaired : table.Paired)
    (request : ResolvedRequest) :
    (table.applyLive rules now request).EvaluatedBut rules now ∅ := by
  rw [Table.applyLive]
  split
  · next hreason =>
    have hnoted : (table.noteEvent rules now request).EvaluatedBut rules now
        {other | other = request.target.pid ∨
          other ∈ (table.ensure rules now request.target).boundTargets
            request.target.pid} := by
      rw [noteEvent_of_changesForeground hreason]
      exact (htable.ensure hpaired request.target).modifyForeground
        ((paired_partsKeep rules).ensure hpaired request.target) _ _
    -- The target is refreshed first, and then all that its flag made stale.
    have hrefreshed := hnoted.expire.refresh request.target.pid
    apply (hrefreshed.refreshAll _).mono
    rintro other ⟨⟨hstale, hpid⟩, htarget⟩
    rw [boundTargets_fresh hreason] at htarget
    rcases hstale with heq | hbound
    · exact absurd heq hpid
    · exact absurd hbound htarget
  · next hreason =>
    have hnoted := htable.noteEvent hpaired (Bool.eq_false_of_not_eq_true hreason)
    apply (hnoted.expire.refresh request.target.pid).mono
    rintro other ⟨hstale, hpid⟩
    exact absurd hstale hpid

end EvaluatedBut

/-- What the service keeps true of its table as of the time of its last use. -/
structure Fresh (rules : Rules) (now : Seconds) (table : Table) : Prop where
  consistent : table.Consistent
  paired : table.Paired
  plain : table.All ProcessRecord.PlainUnlessExtension
  evaluated : table.EvaluatedBut rules now ∅

theorem empty_fresh (rules : Rules) : Fresh rules now empty where
  consistent := empty_consistent
  paired := empty_paired
  plain := empty_all _
  evaluated := empty_evaluated

namespace Fresh

theorem wait (hfresh : table.Fresh rules earlier) (hle : earlier ≤ now) :
    table.Fresh rules now where
  consistent := hfresh.consistent
  paired := hfresh.paired
  plain := hfresh.plain
  evaluated := hfresh.evaluated.wait hle

theorem perform (hfresh : table.Fresh rules now) (operation : Operation) :
    (table.perform rules now operation).Fresh rules now where
  consistent := (consistent_partsKeep rules).perform hfresh.consistent now operation
  paired := (paired_partsKeep rules).perform hfresh.paired now operation
  plain := (all_partsKeep (ProcessRecord.plainUnlessExtension_lasting rules)).perform
    hfresh.plain now operation
  evaluated := by
    cases operation with
    | apply request =>
        rw [Table.perform, Table.apply]
        split
        · exact hfresh.evaluated.remove hfresh.paired _
        · exact hfresh.evaluated.expire
        · exact hfresh.evaluated.applyLive hfresh.paired request
    | expire => exact hfresh.evaluated.expire
    | remove pid => exact hfresh.evaluated.remove hfresh.paired pid
    | setState key state => exact hfresh.evaluated.setState key state

theorem run {history : History} (hchronological : history.Chronological now) :
    (empty.run rules history).Fresh rules now :=
  run_chronological (fun hle hfresh => hfresh.wait hle)
    (fun operation hfresh => hfresh.perform operation) (empty_fresh rules) hchronological

end Fresh

/-! ## What a reader sees -/

theorem mem_expiredPids {process : ProcessRecord} (hconsistent : table.Consistent)
    (hprocess : table.process? pid = some process)
    (hexpired : process.abilityStartExpired rules.graceWindow now) :
    pid ∈ table.expiredPids rules now := by
  obtain ⟨key, bundle, -, hbundle, hrecord⟩ := process?_eq_some_iff.1 hprocess
  have hlisted : process ∈ table.processes :=
    List.mem_flatMap.2 ⟨bundle, OrdMap.mem_values.2 ⟨key, hbundle⟩,
      OrdMap.mem_values.2 ⟨pid, hrecord⟩⟩
  rw [expiredPids, List.mem_map]
  exact ⟨process, List.mem_filter.2 ⟨hlisted, hexpired⟩, hconsistent.pid_eq hprocess⟩

theorem of_mem_expiredPids (hconsistent : table.Consistent)
    (hmem : pid ∈ table.expiredPids rules now) :
    ∃ process, table.process? pid = some process ∧
      process.abilityStartExpired rules.graceWindow now := by
  obtain ⟨process, hlisted, rfl⟩ := List.mem_map.1 hmem
  obtain ⟨hstored, hexpired⟩ := List.mem_filter.1 hlisted
  obtain ⟨bundle, hbundle, hrecord⟩ := List.mem_flatMap.1 hstored
  obtain ⟨key, hbundle⟩ := OrdMap.mem_values.1 hbundle
  obtain ⟨pid, hrecord⟩ := OrdMap.mem_values.1 hrecord
  have hprocess : table.process? pid = some process := hconsistent.process?_eq hbundle hrecord
  rw [hconsistent.pid_eq hprocess]
  exact ⟨process, hprocess, hexpired⟩

theorem abilityStartExpired_expire {process : ProcessRecord} (hconsistent : table.Consistent)
    (hprocess : (table.expire rules now).process? pid = some process) :
    process.abilityStartExpired rules.graceWindow now = false := by
  rw [expire, (touches_endAbilityStart rules now).process?_foldl] at hprocess
  split at hprocess
  · obtain ⟨before, -, rfl⟩ := Option.map_eq_some_iff.1 hprocess
    rfl
  · next hpid =>
    apply Bool.eq_false_iff.2
    intro hexpired
    exact hpid (mem_expiredPids hconsistent hprocess hexpired)

/-- Where no window is open that should be closed, ending windows changes nothing. -/
theorem Consistent.expire_eq_self (hconsistent : table.Consistent)
    (hopen : ∀ pid process, table.process? pid = some process →
      process.abilityStartExpired rules.graceWindow now = false) :
    table.expire rules now = table := by
  have hnone : table.expiredPids rules now = [] := by
    rw [List.eq_nil_iff_forall_not_mem]
    intro pid hmem
    obtain ⟨process, hprocess, hexpired⟩ := of_mem_expiredPids hconsistent hmem
    rw [hopen pid process hprocess] at hexpired
    cases hexpired
  rw [expire, hnone]
  rfl

/-- A second look at the same time finds no window to end. -/
theorem Consistent.expire_expire (hconsistent : table.Consistent) :
    (table.expire rules now).expire rules now = table.expire rules now :=
  ((consistent_partsKeep rules).expire hconsistent).expire_eq_self
    fun _ _ hprocess => abilityStartExpired_expire hconsistent hprocess

/-- The binders that an extension lists, as the table has them. -/
def binders (table : Table) (process : ProcessRecord) : List ProcessRecord :=
  process.boundBy.keys.filterMap table.process?

namespace Fresh

theorem binders_eq {process : ProcessRecord} (hfresh : table.Fresh rules now)
    (hprocess : table.process? pid = some process) :
    (table.binders process).map ProcessRecord.pid = process.boundBy.keys ∧
      (table.binders process).map ProcessRecord.isForeground =
        process.boundBy.keys.map table.isForeground := by
  have hbinder : ∀ binder ∈ process.boundBy.keys,
      ∃ consumer, table.process? binder = some consumer ∧ consumer.pid = binder := by
    intro binder hmem
    obtain ⟨consumer, hconsumer, -⟩ :=
      hfresh.paired.exists_binder hprocess (OrdMap.mem_keys.1 hmem)
    exact ⟨consumer, hconsumer, hfresh.consistent.pid_eq hconsumer⟩
  rw [binders]
  generalize process.boundBy.keys = pids at hbinder ⊢
  induction pids with
  | nil => exact ⟨rfl, rfl⟩
  | cons binder later ih =>
      obtain ⟨consumer, hconsumer, hpid⟩ := hbinder binder List.mem_cons_self
      obtain ⟨hpids, hforeground⟩ := ih fun other hother =>
        hbinder other (List.mem_cons_of_mem _ hother)
      rw [List.filterMap_cons_some hconsumer]
      constructor
      · rw [List.map_cons, hpids, hpid]
      · rw [List.map_cons, List.map_cons, hforeground, isForeground, hconsumer]
        rfl

theorem priority_eq {process : ProcessRecord} (hfresh : table.Fresh rules now)
    (hprocess : (table.expire rules now).process? pid = some process) :
    process.priority = process.tier rules.graceWindow now := by
  have hexpired := (hfresh.perform .expire).evaluated (Set.notMem_empty pid) hprocess
  obtain ⟨earlier, hle, hpriority⟩ := hexpired.priority_eq
  rw [hpriority]
  exact process.tier_eq_of_le hle (abilityStartExpired_expire hfresh.consistent hprocess)

end Fresh

/-- After any history in order of time, what a reader sees at `now` is what would be
computed there from scratch: the priority of each process, the bind status of each
extension from the processes that are bound to it, and the priority of each bundle; and
no ability start is left whose grace window has passed. -/
theorem expire_run_upToDate (rules : Rules) (history : History) (now : Seconds)
    (hchronological : history.Chronological now) :
    let table := (empty.run rules history).expire rules now
    ∀ key bundle, table.bundle? key = some bundle →
      (∀ pid process, bundle.process? pid = some process →
        process.priority = process.tier rules.graceWindow now ∧
        (process.isExtension →
          (table.binders process).map ProcessRecord.pid = process.boundBy.keys ∧
          process.bindStatus =
            .ofBinders ((table.binders process).map ProcessRecord.isForeground)) ∧
        (process.isExtension = false →
          process.boundBy.isEmpty ∧ process.bindStatus = .unknown) ∧
        (process.isAbilityStarting → now - process.abilityStart < rules.graceWindow)) ∧
      IsLeast
        {priority | ∃ pid process, bundle.process? pid = some process ∧
          process.tier rules.graceWindow now = priority}
        bundle.priority := by
  intro table key bundle hbundle
  have hbefore : (empty.run rules history).Fresh rules now := .run hchronological
  have hfresh : table.Fresh rules now := hbefore.perform .expire
  have hlookup : ∀ {pid process}, bundle.process? pid = some process →
      table.process? pid = some process := fun hprocess =>
    hfresh.consistent.process?_eq hbundle hprocess
  have hpriority : ∀ {pid process}, bundle.process? pid = some process →
      process.priority = process.tier rules.graceWindow now := fun hprocess =>
    hbefore.priority_eq (hlookup hprocess)
  constructor
  · intro pid process hprocess
    refine ⟨hpriority hprocess, ?_, ?_, ?_⟩
    · intro hextension
      obtain ⟨hpids, hforeground⟩ := hfresh.binders_eq (hlookup hprocess)
      have hevaluated := hfresh.evaluated (Set.notMem_empty pid) (hlookup hprocess)
      refine ⟨hpids, ?_⟩
      rw [← hevaluated.bindStatus_eq, ProcessRecord.currentBindStatus, if_pos hextension,
        hforeground]
    · intro hextension
      obtain ⟨hbound, hstatus⟩ := hfresh.plain (hlookup hprocess) hextension
      rw [hbound]
      exact ⟨rfl, hstatus⟩
    · intro hstarting
      have hopen := abilityStartExpired_expire hbefore.consistent (hlookup hprocess)
      simpa [ProcessRecord.abilityStartExpired, hstarting] using hopen
  · have hset : bundle.priorities =
        {priority | ∃ pid process, bundle.process? pid = some process ∧
          process.tier rules.graceWindow now = priority} := by
      ext priority
      constructor
      · rintro ⟨pid, process, hprocess, heq⟩
        exact ⟨pid, process, hprocess, (hpriority hprocess).symm.trans heq⟩
      · rintro ⟨pid, process, hprocess, heq⟩
        exact ⟨pid, process, hprocess, (hpriority hprocess).trans heq⟩
    rw [← hset]
    exact (hfresh.consistent.sound hbundle).priority_isLeast

/-- An ability started at 1 in an extension that a foreground process is bound to: at 11
the window of ten seconds has passed, and the extension is as important as its binder
makes it. -/
theorem expire_run_upToDate_boundExtension :
    let rules : Rules := ⟨10, .empty⟩
    let binder : ResolvedIdentity := ⟨1, 20010001, "launcher", 100⟩
    let target : ResolvedIdentity := ⟨2, 20010002, "gallery", 100⟩
    let history : History :=
      [(0, .apply ⟨none, binder, .foreground⟩), (1, .apply ⟨none, target, .abilityStart⟩),
        (1, .apply ⟨some binder, target, .bindExtension⟩)]
    let table := (empty.run rules history).expire rules 11
    ∃ bundle process, table.bundle? target.key = some bundle ∧
      bundle.process? target.pid = some process ∧
      process.priority = process.tier rules.graceWindow 11 ∧
      process.priority = .boundFromForeground := by
  intro rules binder target history table
  have hrecord : ((table.bundle? target.key).bind fun bundle =>
      (bundle.process? target.pid).filter fun process =>
        process.tier rules.graceWindow 11 = .boundFromForeground).isSome := by decide
  obtain ⟨process, hsome⟩ := Option.isSome_iff_exists.1 hrecord
  obtain ⟨bundle, hbundle, hfiltered⟩ := Option.bind_eq_some_iff.1 hsome
  obtain ⟨hprocess, htier⟩ := Option.filter_eq_some_iff.1 hfiltered
  have hpriority := ((expire_run_upToDate rules history 11 (by decide) target.key bundle
    hbundle).1 target.pid process hprocess).1
  exact ⟨bundle, process, hbundle, hprocess, hpriority, hpriority.trans (by simpa using htier)⟩

end MemoryReclaim.Table
