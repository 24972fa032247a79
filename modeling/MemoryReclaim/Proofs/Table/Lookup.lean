import MemoryReclaim.Proofs.Bundle
import MemoryReclaim.Table.Update

/-!
# Lookups after the operations of a table

What each operation does to the record found under a pid.  None of these equations
needs a well-formed table, so they hold in the middle of an operation too.  The loops of
a table repeat a step that changes one record by looking at no more of the table than
who is in the foreground; `Touches` states this once for all of them.
-/

namespace MemoryReclaim

namespace ProcessRecord

theorem currentBindStatus_renew (rules : Rules) (now : Seconds) (view : Pid → Bool)
    (process : ProcessRecord) :
    (process.renew rules now view).currentBindStatus view =
      (process.renew rules now view).bindStatus := by
  cases hextension : process.isExtension <;>
    simp [renew, ranked, currentBindStatus, hextension]

theorem renew_renew (rules : Rules) (now : Seconds) (view : Pid → Bool)
    (process : ProcessRecord) :
    (process.renew rules now view).renew rules now view = process.renew rules now view := by
  rw [renew, currentBindStatus_renew]
  rfl

/-- The record of `other` once its peer `gone` under `pid` has ended. -/
def partedFrom (rules : Rules) (now : Seconds) (view : Pid → Bool) (gone : ProcessRecord)
    (pid other : Pid) (peer : ProcessRecord) : ProcessRecord :=
  let unbound := if gone.isBoundBy other then peer.dropBinding pid else peer
  if gone.bindsToPid other then (unbound.dropBinder pid).renew rules now view else unbound

section PartedFrom

variable (rules : Rules) (now : Seconds) (view : Pid → Bool) (gone : ProcessRecord)
variable (pid other third : Pid) (peer : ProcessRecord)

@[simp]
theorem uid_partedFrom : (gone.partedFrom rules now view pid other peer).uid = peer.uid := by
  simp only [partedFrom]
  split <;> split <;> rfl

@[simp]
theorem isForeground_partedFrom :
    (gone.partedFrom rules now view pid other peer).isForeground = peer.isForeground := by
  simp only [partedFrom]
  split <;> split <;> rfl

theorem boundBy_partedFrom :
    (gone.partedFrom rules now view pid other peer).boundBy.get? third =
      if gone.bindsToPid other ∧ pid = third then none else peer.boundBy.get? third := by
  simp only [partedFrom]
  by_cases hbinds : gone.bindsToPid other <;> by_cases hbound : gone.isBoundBy other <;>
    simp [hbinds, hbound, renew, ranked, dropBinder, dropBinding]

theorem bindsTo_partedFrom :
    (gone.partedFrom rules now view pid other peer).bindsTo.get? third =
      if gone.isBoundBy other ∧ pid = third then none else peer.bindsTo.get? third := by
  simp only [partedFrom]
  by_cases hbinds : gone.bindsToPid other <;> by_cases hbound : gone.isBoundBy other <;>
    simp [hbinds, hbound, renew, ranked, dropBinder, dropBinding]

end PartedFrom

end ProcessRecord

namespace Table

variable {rules : Rules} {now : Seconds} {table : Table} {key : BundleKey} {pid other : Pid}

theorem process?_eq_some_iff {process : ProcessRecord} :
    table.process? pid = some process ↔
      ∃ key bundle, table.owners.get? pid = some key ∧ table.bundle? key = some bundle ∧
        bundle.process? pid = some process := by
  simp [process?, Option.bind_eq_some_iff]

theorem process?_of_owner {bundle : Bundle} (howner : table.owners.get? pid = some key)
    (hbundle : table.bundle? key = some bundle) :
    table.process? pid = bundle.process? pid := by
  simp [process?, howner, hbundle]

theorem process?_of_ownerless (hnone : table.owners.get? pid = none) :
    table.process? pid = none := by
  simp [process?, hnone]

/-! ## Changes within a bundle -/

@[simp]
theorem owners_modifyOwner (table : Table) (pid : Pid) (change : Bundle → Bundle) :
    (table.modifyOwner pid change).owners = table.owners := by
  rw [modifyOwner]
  split <;> rfl

theorem bundle?_modifyOwner (table : Table) (pid : Pid) (change : Bundle → Bundle)
    (key : BundleKey) :
    (table.modifyOwner pid change).bundle? key =
      if table.owners.get? pid = some key then (table.bundle? key).map change
      else table.bundle? key := by
  cases howner : table.owners.get? pid with
  | none => simp [modifyOwner, howner]
  | some found => simp [modifyOwner, howner, bundle?]

theorem bundle?_modifyOwner_eq_map (table : Table) (pid : Pid) (change : Bundle → Bundle)
    (key : BundleKey) :
    (table.modifyOwner pid change).bundle? key =
      (table.bundle? key).map
        (if table.owners.get? pid = some key then change else id) := by
  rw [bundle?_modifyOwner]
  split <;> simp

theorem process?_modifyOwner {change : Bundle → Bundle}
    {record : ProcessRecord → ProcessRecord}
    (hchange : ∀ bundle other, (change bundle).process? other =
      if pid = other then (bundle.process? other).map record else bundle.process? other)
    (table : Table) (other : Pid) :
    (table.modifyOwner pid change).process? other =
      if pid = other then (table.process? other).map record else table.process? other := by
  cases howner : table.owners.get? other with
  | none => simp [process?, howner]
  | some key =>
      simp only [process?, owners_modifyOwner, howner, bundle?_modifyOwner,
        Option.bind_eq_bind, Option.bind_some]
      by_cases hother : pid = other
      · subst hother
        simp [howner, hchange, Option.map_bind, Option.bind_map]
      · by_cases hshared : table.owners.get? pid = some key
        · simp [hshared, hchange, hother, Option.bind_map]
        · simp [hshared, hother]

theorem process?_modifyProcess (table : Table) (pid : Pid)
    (change : ProcessRecord → ProcessRecord) (other : Pid) :
    (table.modifyProcess pid change).process? other =
      if pid = other then (table.process? other).map change else table.process? other :=
  process?_modifyOwner (fun bundle other => bundle.process?_modifyProcess pid other change)
    table other

@[simp]
theorem owners_modifyProcess (table : Table) (pid : Pid)
    (change : ProcessRecord → ProcessRecord) :
    (table.modifyProcess pid change).owners = table.owners :=
  owners_modifyOwner _ _ _

@[simp]
theorem modifyProcess_id (table : Table) (pid : Pid) : table.modifyProcess pid id = table := by
  have hbundle : Bundle.modifyProcess pid id = id := by
    funext bundle
    rw [Bundle.modifyProcess, OrdMap.modify_id, id]
  rw [modifyProcess, hbundle, modifyOwner]
  split
  · rfl
  · rw [OrdMap.modify_id]

theorem process?_refresh (rules : Rules) (now : Seconds) (table : Table) (pid other : Pid) :
    (table.refresh rules now pid).process? other =
      if pid = other then (table.process? other).map (.renew rules now table.isForeground)
      else table.process? other := by
  rw [refresh]
  split
  · next hnone =>
    by_cases hother : pid = other
    · simp [← hother, hnone]
    · simp [hother]
  · exact process?_modifyOwner (fun bundle other => by
      rw [Bundle.process?_updatePriority, Bundle.process?_modifyProcess]) table other

@[simp]
theorem owners_refresh (rules : Rules) (now : Seconds) (table : Table) (pid : Pid) :
    (table.refresh rules now pid).owners = table.owners := by
  rw [refresh]
  split
  · rfl
  · exact owners_modifyOwner _ _ _

theorem isForeground_modifyProcess {change : ProcessRecord → ProcessRecord}
    (hforeground : ∀ process, (change process).isForeground = process.isForeground)
    (table : Table) (pid : Pid) :
    (table.modifyProcess pid change).isForeground = table.isForeground := by
  funext other
  rw [isForeground, process?_modifyProcess, isForeground]
  split
  · cases table.process? other with
    | none => rfl
    | some process => exact hforeground process
  · rfl

/-! ## Loops over pids -/

/-- A step for one pid changes that record only, and looks only at who is in the
foreground to do so. -/
structure Touches (step : Table → Pid → Table)
    (change : (Pid → Bool) → ProcessRecord → ProcessRecord) : Prop where
  owners_step : ∀ table pid, (step table pid).owners = table.owners
  process?_step : ∀ table pid other, (step table pid).process? other =
    if pid = other then (table.process? other).map (change table.isForeground)
    else table.process? other
  isForeground_change : ∀ view process, (change view process).isForeground = process.isForeground
  change_change : ∀ view process, change view (change view process) = change view process

namespace Touches

variable {step : Table → Pid → Table} {change : (Pid → Bool) → ProcessRecord → ProcessRecord}

theorem owners_foldl (htouches : Touches step change) (table : Table) (pids : List Pid) :
    (pids.foldl step table).owners = table.owners := by
  induction pids generalizing table with
  | nil => rfl
  | cons pid later ih => rw [List.foldl_cons, ih, htouches.owners_step]

theorem isForeground_step (htouches : Touches step change) (table : Table) (pid : Pid) :
    (step table pid).isForeground = table.isForeground := by
  funext other
  simp only [isForeground, htouches.process?_step]
  split
  · cases table.process? other with
    | none => rfl
    | some process => simp [htouches.isForeground_change]
  · rfl

theorem isForeground_foldl (htouches : Touches step change) (table : Table)
    (pids : List Pid) : (pids.foldl step table).isForeground = table.isForeground := by
  induction pids generalizing table with
  | nil => rfl
  | cons pid later ih => rw [List.foldl_cons, ih, htouches.isForeground_step]

/-- A loop changes each record whose pid it comes across, however often it does. -/
theorem process?_foldl (htouches : Touches step change) (table : Table) (pids : List Pid)
    (other : Pid) :
    (pids.foldl step table).process? other =
      if other ∈ pids then (table.process? other).map (change table.isForeground)
      else table.process? other := by
  induction pids generalizing table with
  | nil => simp
  | cons pid later ih =>
      rw [List.foldl_cons, ih, htouches.isForeground_step, htouches.process?_step]
      by_cases hpid : pid = other
      · subst hpid
        simp [Function.comp_def, htouches.change_change]
      · simp [hpid, Ne.symm hpid]

end Touches

/-- Changing a record and then refreshing it, as two of the loops do. -/
theorem process?_refresh_modifyProcess {change : ProcessRecord → ProcessRecord}
    (hforeground : ∀ process, (change process).isForeground = process.isForeground)
    (table : Table) (pid other : Pid) :
    ((table.modifyProcess pid change).refresh rules now pid).process? other =
      if pid = other then
        (table.process? other).map fun process =>
          (change process).renew rules now table.isForeground
      else table.process? other := by
  rw [process?_refresh, process?_modifyProcess, isForeground_modifyProcess hforeground]
  split <;> simp [Function.comp_def]

theorem touches_refresh (rules : Rules) (now : Seconds) :
    Touches (refresh rules now) (ProcessRecord.renew rules now) where
  owners_step := owners_refresh rules now
  process?_step := process?_refresh rules now
  isForeground_change _ _ := rfl
  change_change view process := process.renew_renew rules now view

theorem touches_releaseBinder (pid : Pid) :
    Touches (releaseBinder pid) fun _ => ProcessRecord.dropBinding pid where
  owners_step table binder := owners_modifyProcess table binder _
  process?_step table binder := process?_modifyProcess table binder _
  isForeground_change _ _ := rfl
  change_change _ process := by simp [ProcessRecord.dropBinding]

theorem touches_releaseTarget (rules : Rules) (now : Seconds) (pid : Pid) :
    Touches (releaseTarget rules now pid) fun view process =>
      (process.dropBinder pid).renew rules now view where
  owners_step table target := by simp [releaseTarget]
  process?_step := process?_refresh_modifyProcess fun _ => rfl
  isForeground_change _ _ := rfl
  change_change view process := by
    have hdropped : ((process.dropBinder pid).renew rules now view).dropBinder pid =
        (process.dropBinder pid).renew rules now view := by
      simp [ProcessRecord.dropBinder, ProcessRecord.renew, ProcessRecord.ranked]
    rw [hdropped, ProcessRecord.renew_renew]

theorem touches_endAbilityStart (rules : Rules) (now : Seconds) :
    Touches (endAbilityStart rules now) fun view process =>
      process.endAbilityStart.renew rules now view where
  owners_step table pid := by simp [endAbilityStart]
  process?_step := process?_refresh_modifyProcess fun _ => rfl
  isForeground_change _ _ := rfl
  change_change view process := by
    have hended : (process.endAbilityStart.renew rules now view).endAbilityStart =
        process.endAbilityStart.renew rules now view := rfl
    rw [hended, ProcessRecord.renew_renew]

/-! ## Processes that come and go -/

theorem owners_detach (table : Table) (key : BundleKey) (pid : Pid) :
    (table.detach key pid).owners = table.owners.erase pid := by
  rw [detach]
  cases table.bundle? key <;> rfl

/-- The bundle that loses a process goes with its last one. -/
theorem bundle?_detach (table : Table) (key found : BundleKey) (pid : Pid) :
    (table.detach key pid).bundle? found =
      if key = found then
        ((table.bundle? found).map (Bundle.removeProcess pid)).filter
          fun rest => !rest.procs.isEmpty
      else table.bundle? found := by
  rw [detach]
  cases hbundle : table.bundle? key with
  | none =>
      by_cases hkey : key = found
      · subst hkey
        simp [bundle?] at hbundle
        simp [bundle?, hbundle]
      · simp [bundle?, hkey]
  | some bundle =>
      by_cases hkey : key = found
      · subst hkey
        rw [hbundle]
        by_cases hempty : (bundle.removeProcess pid).procs.isEmpty <;>
          simp [hempty, bundle?, Option.filter]
      · by_cases hempty : (bundle.removeProcess pid).procs.isEmpty <;>
          simp [hempty, bundle?, hkey]

theorem process?_detach (table : Table) (key : BundleKey) (pid other : Pid) :
    (table.detach key pid).process? other =
      if pid = other then none else table.process? other := by
  by_cases hother : pid = other
  · simp [process?, owners_detach, hother]
  cases howner : table.owners.get? other with
  | none => simp [process?, owners_detach, howner]
  | some found =>
      simp only [process?, owners_detach, OrdMap.get?_erase, bundle?_detach, hother, howner,
        if_false, Option.bind_eq_bind, Option.bind_some]
      by_cases hkey : key = found
      · cases hbundle : table.bundle? found with
        | none => simp
        | some bundle =>
            have hrest := bundle.process?_removeProcess pid other
            rw [if_neg hother] at hrest
            by_cases hempty : (bundle.removeProcess pid).procs.isEmpty
            · have hnone : (bundle.removeProcess pid).process? other = none :=
                OrdMap.isEmpty_eq_true_iff.1 hempty other
              simp [hkey, hempty, Option.filter, ← hrest, hnone]
            · simp [hkey, hempty, Option.filter, hrest]
      · simp [hkey]

theorem isForeground_detach (table : Table) (key : BundleKey) (pid other : Pid) :
    (table.detach key pid).isForeground other =
      if pid = other then false else table.isForeground other := by
  simp only [isForeground, process?_detach]
  split <;> rfl

theorem owners_track (identity : ResolvedIdentity) (table : Table) (other : Pid) :
    (table.track rules now identity).owners.get? other =
      if identity.pid = other then some identity.key else table.owners.get? other := by
  simp [track]

theorem bundle?_track (identity : ResolvedIdentity) (table : Table) (found : BundleKey) :
    (table.track rules now identity).bundle? found =
      if identity.key = found then
        some ((table.hostBundle now identity).putProcess
          (.newcomer rules now (table.hostBundle now identity).name identity.pid identity.uid))
      else table.bundle? found := by
  simp [track, bundle?]

theorem process?_track (identity : ResolvedIdentity) (table : Table) (other : Pid) :
    (table.track rules now identity).process? other =
      if identity.pid = other then
        some (.newcomer rules now (table.hostBundle now identity).name identity.pid identity.uid)
      else table.process? other := by
  by_cases hother : identity.pid = other
  · subst hother
    simp only [process?, owners_track, if_true, bundle?_track, Option.bind_eq_bind,
      Option.bind_some, Bundle.process?_putProcess]
    exact if_pos rfl
  cases howner : table.owners.get? other with
  | none => simp [process?, owners_track, hother, howner]
  | some key =>
      simp only [process?, owners_track, hother, if_false, howner, bundle?_track,
        Option.bind_eq_bind, Option.bind_some]
      by_cases hkey : identity.key = key
      · subst hkey
        have hput := (table.hostBundle now identity).process?_putProcess (.newcomer rules now
          (table.hostBundle now identity).name identity.pid identity.uid) other
        rw [if_neg (by exact hother)] at hput
        simp only [if_true, Option.bind_some, hput]
        cases hbundle : table.bundle? identity.key with
        | none =>
            simp only [hostBundle, hbundle, Option.getD_none, Option.bind_none]
            rfl
        | some bundle => simp [hostBundle, hbundle]
      · simp [hkey]

theorem owners_remove (table : Table) (pid other : Pid) :
    (table.remove rules now pid).owners.get? other =
      if pid = other then none else table.owners.get? other := by
  rw [remove]
  cases howner : table.owners.get? pid with
  | none =>
      by_cases hother : pid = other
      · simp [← hother, howner]
      · simp [hother]
  | some key =>
      cases table.process? pid with
      | none => simp [owners_detach]
      | some process =>
          simp only
          rw [(touches_releaseTarget rules now pid).owners_foldl,
            (touches_releaseBinder pid).owners_foldl, owners_detach, OrdMap.get?_erase]

/-- Who is in the foreground once `pid` has ended. -/
def isForegroundWithout (table : Table) (pid other : Pid) : Bool :=
  if pid = other then false else table.isForeground other

theorem process?_remove {gone : ProcessRecord} (hgone : table.process? pid = some gone)
    (other : Pid) :
    (table.remove rules now pid).process? other =
      if pid = other then none
      else (table.process? other).map
        (gone.partedFrom rules now (table.isForegroundWithout pid) pid other) := by
  obtain ⟨key, bundle, howner, -, -⟩ := process?_eq_some_iff.1 hgone
  have hview : (table.detach key pid).isForeground = table.isForegroundWithout pid :=
    funext fun other => isForeground_detach table key pid other
  simp only [remove, howner, hgone]
  rw [(touches_releaseTarget rules now pid).process?_foldl,
    (touches_releaseBinder pid).process?_foldl, (touches_releaseBinder pid).isForeground_foldl,
    process?_detach, hview]
  have hbinder : other ∈ gone.boundBy.keys ↔ gone.isBoundBy other := OrdMap.mem_keys
  have htarget : other ∈ gone.bindsTo.keys ↔ gone.bindsToPid other := OrdMap.mem_keys
  simp only [hbinder, htarget]
  by_cases hother : pid = other
  · simp [hother]
  cases table.process? other with
  | none => simp [hother]
  | some peer =>
      by_cases hbound : gone.isBoundBy other <;> by_cases hbinds : gone.bindsToPid other <;>
        simp [ProcessRecord.partedFrom, hother, hbound, hbinds]

theorem process?_remove_untracked (hnone : table.process? pid = none) (other : Pid) :
    (table.remove rules now pid).process? other = table.process? other := by
  rw [remove]
  cases table.owners.get? pid with
  | none => rfl
  | some key =>
      simp only [hnone, process?_detach]
      split
      · next hother => rw [← hother, hnone]
      · rfl

theorem isForeground_remove (table : Table) (pid : Pid) :
    (table.remove rules now pid).isForeground = table.isForegroundWithout pid := by
  funext other
  rw [isForegroundWithout, isForeground, isForeground]
  cases hgone : table.process? pid with
  | none =>
      rw [process?_remove_untracked hgone]
      split
      · next hother => rw [← hother, hgone]; rfl
      · rfl
  | some gone =>
      rw [process?_remove hgone]
      split
      · rfl
      · cases table.process? other with
        | none => rfl
        | some peer => simp

/-- A process that is known under the given identity is left alone; any other identity
starts afresh. -/
theorem ensure_eq (identity : ResolvedIdentity) (table : Table) :
    table.ensure rules now identity =
      if table.owners.get? identity.pid = some identity.key then table
      else (table.remove rules now identity.pid).track rules now identity := by
  rw [ensure]
  cases howner : table.owners.get? identity.pid with
  | none => simp [remove, howner]
  | some key => simp

/-! ## Bindings and states -/

theorem process?_bind {binder target : Pid} {consumer extension : ProcessRecord}
    (hbinder : table.process? binder = some consumer)
    (htarget : table.process? target = some extension) (other : Pid) :
    (table.bind binder target).process? other =
      (table.process? other).map fun process =>
        let marked :=
          if target = other then
            { process with isExtension := true }.addBinder binder consumer.uid
          else process
        if binder = other then marked.addBinding target extension.uid else marked := by
  simp only [bind, hbinder, htarget, process?_modifyProcess]
  by_cases hconsumer : binder = other <;> by_cases hextension : target = other <;>
    simp [hconsumer, hextension, Function.comp_def]

theorem bind_of_untracked {binder target : Pid}
    (hnone : table.process? binder = none ∨ table.process? target = none) :
    table.bind binder target = table := by
  rw [bind]
  rcases hnone with hnone | hnone
  · rw [hnone]
  · rw [hnone]
    cases table.process? binder <;> rfl

theorem process?_unbind (binder target other : Pid) (table : Table) :
    (table.unbind binder target).process? other =
      (table.process? other).map fun process =>
        let released := if target = other then process.dropBinder binder else process
        if binder = other then released.dropBinding target else released := by
  simp only [unbind, process?_modifyProcess]
  by_cases hconsumer : binder = other <;> by_cases hextension : target = other <;>
    simp [hconsumer, hextension, Function.comp_def]

theorem bundle?_setState (key found : BundleKey) (state : BundleState) (table : Table) :
    (table.setState key state).2.bundle? found =
      if key = found then (table.bundle? found).map (Bundle.withState state)
      else table.bundle? found := by
  simp [setState, bundle?]

@[simp]
theorem process?_setState (key : BundleKey) (state : BundleState) (table : Table)
    (other : Pid) : (table.setState key state).2.process? other = table.process? other := by
  have howners : (table.setState key state).2.owners = table.owners := rfl
  simp only [process?, howners, bundle?_setState]
  cases howner : table.owners.get? other with
  | none => rfl
  | some found =>
      by_cases hkey : key = found
      · simp [hkey, Option.bind_map, Function.comp_def]
      · simp [hkey]

/-! ## Events -/

theorem apply_of_live {request : ResolvedRequest} (hgoing : request.reason ≠ .processTerminated)
    (hlive : request.reason ≠ .abilityStartTimeout) (table : Table) :
    (table.apply rules now request).2 = table.applyLive rules now request := by
  rw [apply]
  split
  · contradiction
  · contradiction
  · rfl

end Table

end MemoryReclaim
