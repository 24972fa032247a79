import MemoryReclaim.Proofs.Table.Facts

/-!
# Events that undo each other

Six states of a process are each started by one event and ended by another, and so is a
binding.  The first event of such a pair may move the priorities of many processes.  But
priorities follow from facts, so a second event that brings back the facts brings back the
table.  A binding leaves one fact behind, that its target is an extension, and that fact by
itself moves no priority.
-/

namespace MemoryReclaim

/-- A state of a process that one event starts and another one ends. -/
inductive Phase
  | foreground
  | visible
  | backgroundRunning
  | suspendDelay
  | eventStart
  | distDevice
  deriving DecidableEq

namespace Phase

def start : Phase → Reason
  | .foreground => .foreground
  | .visible => .visible
  | .backgroundRunning => .backgroundRunningStart
  | .suspendDelay => .suspendDelayStart
  | .eventStart => .eventStart
  | .distDevice => .distDeviceConnected

def finish : Phase → Reason
  | .foreground => .background
  | .visible => .invisible
  | .backgroundRunning => .backgroundRunningEnd
  | .suspendDelay => .suspendDelayEnd
  | .eventStart => .eventEnd
  | .distDevice => .distDeviceDisconnected

def isOn (process : ProcessRecord) : Phase → Bool
  | .foreground => process.isForeground
  | .visible => process.isVisible
  | .backgroundRunning => process.isBackgroundRunning
  | .suspendDelay => process.isSuspendDelay
  | .eventStart => process.isEventStart
  | .distDevice => process.isDistDevice

theorem start_live (phase : Phase) :
    phase.start ≠ .processTerminated ∧ phase.start ≠ .abilityStartTimeout := by
  cases phase <;> decide

theorem finish_live (phase : Phase) :
    phase.finish ≠ .processTerminated ∧ phase.finish ≠ .abilityStartTimeout := by
  cases phase <;> decide

theorem note_finish_start {phase : Phase} {process : ProcessRecord}
    (hoff : phase.isOn process = false) (now : Seconds) :
    (process.note phase.start now).note phase.finish now = process := by
  cases phase <;> cases process <;> cases hoff <;> rfl

end Phase

namespace ProcessRecord

variable {rules : Rules} {window now : Seconds} {view : Pid → Bool} {process : ProcessRecord}

/-- What the bindings of a process come to. -/
def standing (process : ProcessRecord) : OrdMap Pid Uid × OrdMap Pid Uid × Priority :=
  (process.boundBy, process.bindsTo, process.priority)

/-- The record of a process that is an extension from now on, if it was none before. -/
def asExtension (process : ProcessRecord) : ProcessRecord :=
  { process with
    isExtension := true
    bindStatus := if process.isExtension then process.bindStatus else .unbound }

theorem tier_asExtension (hplain : process.PlainUnlessExtension) (window now : Seconds) :
    process.asExtension.tier window now = process.tier window now := by
  cases hextension : process.isExtension with
  | true =>
      have hsame : process.asExtension.bindStatus = process.bindStatus := by
        rw [asExtension, hextension]
        rfl
      rw [tier, tier, stateTier, stateTier, hsame]
      rfl
  | false =>
      have hunbound : process.asExtension.bindStatus = .unbound := by
        rw [asExtension, hextension]
        rfl
      rw [tier, tier, stateTier, stateTier, hunbound, (hplain hextension).2]
      rfl

theorem Evaluated.asExtension (hevaluated : process.Evaluated rules now view)
    (hplain : process.PlainUnlessExtension) : process.asExtension.Evaluated rules now view where
  bindStatus_eq := by
    cases hextension : process.isExtension with
    | true =>
        have hstatus := hevaluated.bindStatus_eq
        rw [currentBindStatus, if_pos hextension] at hstatus
        rw [ProcessRecord.asExtension, hextension]
        exact hstatus
    | false =>
        rw [ProcessRecord.asExtension, hextension, currentBindStatus, (hplain hextension).1]
        rfl
  priority_eq := by
    obtain ⟨last, hle, hpriority⟩ := hevaluated.priority_eq
    exact ⟨last, hle, hpriority.trans (tier_asExtension hplain _ _).symm⟩

end ProcessRecord

namespace Table

variable {rules : Rules} {now : Seconds} {table after : Table} {pid : Pid}
variable {target binder : ResolvedIdentity} {first second request : ResolvedRequest}

/-! ## What two events leave -/

theorem Settled.refresh (hsettled : table.Settled rules now) (later : Seconds) (pid : Pid) :
    (table.refresh rules later pid).Settled rules now :=
  All.mapAt hsettled (process?_refresh rules later table pid) id

theorem applyLive_settled (hconsistent : table.Consistent) :
    (table.applyLive rules now request).Settled rules now := by
  have hexpired : ((table.noteEvent rules now request).expire rules now).Settled rules now :=
    expire_settled ((consistent_partsKeep rules).noteEvent hconsistent request)
  rw [applyLive]
  split
  · exact foldl_invariant (fun pid hsettled => hsettled.refresh now pid)
      (hexpired.refresh now _) _
  · exact hexpired.refresh now _

/-- What two events note decides the facts that they lead to. -/
theorem noteEvent_noteEvent_apply (hconsistent : table.Consistent)
    (hfirst : first.reason ≠ .processTerminated ∧ first.reason ≠ .abilityStartTimeout)
    (hsecond : second.reason ≠ .processTerminated ∧ second.reason ≠ .abilityStartTimeout) :
    SameFacts rules now ((table.noteEvent rules now first).noteEvent rules now second)
      ((table.apply rules now first).2.apply rules now second).2 := by
  have hkeep := consistent_partsKeep rules
  have happlied : (table.applyLive rules now first).Consistent :=
    hkeep.applyLive hconsistent first
  have hone : SameFacts rules now (table.noteEvent rules now first)
      (table.applyLive rules now first) := .noteEvent_applyLive hconsistent
  rw [apply_of_live hfirst.1 hfirst.2, apply_of_live hsecond.1 hsecond.2]
  exact (hone.noteEvent (hkeep.noteEvent hconsistent first) happlied).trans
    (.noteEvent_applyLive happlied)

/-- Two events leave the table that is up to date and has the facts that they noted. -/
theorem Fresh.apply_apply_eq (hfresh : table.Fresh rules now)
    (hfirst : first.reason ≠ .processTerminated ∧ first.reason ≠ .abilityStartTimeout)
    (hsecond : second.reason ≠ .processTerminated ∧ second.reason ≠ .abilityStartTimeout)
    (hafter : after.Fresh rules now) (hsettled : after.Settled rules now)
    (hsame : SameFacts rules now ((table.noteEvent rules now first).noteEvent rules now second)
      after) :
    ((table.apply rules now first).2.apply rules now second).2 = after := by
  have hone : (table.apply rules now first).2.Fresh rules now := hfresh.perform (.apply first)
  have htwo : ((table.apply rules now first).2.apply rules now second).2.Fresh rules now :=
    hone.perform (.apply second)
  apply htwo.eq_of_sameFacts hafter _ hsettled
  · exact (noteEvent_noteEvent_apply hfresh.consistent hfirst hsecond).symm.trans hsame
  · rw [apply_of_live hsecond.1 hsecond.2]
    exact applyLive_settled hone.consistent

/-! ## Phases -/

theorem ensure_of_tracked {identity : ResolvedIdentity}
    (htracked : table.owners.get? identity.pid = some identity.key) :
    table.ensure rules now identity = table := by
  rw [ensure_eq, if_pos htracked]

theorem noteEvent_phase (htracked : table.owners.get? target.pid = some target.key)
    (phase : Phase) (caller : Option ResolvedIdentity) :
    table.noteEvent rules now ⟨caller, target, phase.start⟩ =
        table.modifyProcess target.pid (.note phase.start now) ∧
      table.noteEvent rules now ⟨caller, target, phase.finish⟩ =
        table.modifyProcess target.pid (.note phase.finish now) := by
  rw [noteEvent, noteEvent, ensure_of_tracked htracked]
  cases phase <;> exact ⟨rfl, rfl⟩

/-- Where the facts of each process come back to what they were, the facts are the same. -/
theorem SameFacts.of_process? (hconsistent : table.Consistent) (hafter : after.Consistent)
    (hinherits : ∀ key, Inherits key table after) (howners : after.owners = table.owners)
    (hprocess : ∀ pid, after.process? pid = table.process? pid) :
    SameFacts rules now after table := by
  apply SameFacts.inherit SameFacts.refl hinherits (fun _ => .refl) hafter hconsistent
  · intro pid
    rw [howners]
  · intro pid
    rw [hprocess]

/-- A phase that is started and finished at once leaves the table as a reader finds it. -/
theorem Fresh.finish_start_eq (hfresh : table.Fresh rules now)
    (htracked : table.owners.get? target.pid = some target.key) {phase : Phase}
    (hoff : ∀ process, table.process? target.pid = some process → phase.isOn process = false)
    (starter finisher : Option ResolvedIdentity) :
    ((table.apply rules now ⟨starter, target, phase.start⟩).2.apply rules now
      ⟨finisher, target, phase.finish⟩).2 = table.expire rules now := by
  have hconsistent := hfresh.consistent
  let started := table.modifyProcess target.pid (.note phase.start now)
  let finished := started.modifyProcess target.pid (.note phase.finish now)
  have hstarted : started.Consistent :=
    hconsistent.modifyProcess (ProcessRecord.keepsPlace_note phase.start now)
  have hfinished : finished.Consistent :=
    hstarted.modifyProcess (ProcessRecord.keepsPlace_note phase.finish now)
  have htrackedStill : started.owners.get? target.pid = some target.key := by
    rw [owners_modifyProcess, htracked]
  have hrestored : SameFacts rules now finished table := by
    apply SameFacts.of_process? hconsistent hfinished
    · exact fun key => (Inherits.modifyProcess target.pid _).trans (.modifyProcess target.pid _)
    · rw [owners_modifyProcess, owners_modifyProcess]
    · intro pid
      rw [process?_modifyProcess, process?_modifyProcess]
      split
      · next hpid =>
        cases hprocess : table.process? pid with
        | none => rfl
        | some process =>
            exact congrArg some (Phase.note_finish_start (hoff process (hpid ▸ hprocess)) now)
      · rfl
  apply hfresh.apply_apply_eq _ _ (hfresh.perform .expire) (expire_settled hconsistent)
  · rw [(noteEvent_phase htracked phase starter).1,
      (noteEvent_phase htrackedStill phase finisher).2]
    exact hrestored.trans (.expire hconsistent (Nat.le_refl now))
  · exact phase.start_live
  · exact phase.finish_live

/-! ## Bindings -/

theorem modifyProcess_asExtension_settled (hsettled : table.Settled rules now) :
    (table.modifyProcess pid .asExtension).Settled rules now :=
  All.mapAt hsettled (process?_modifyProcess table pid _) id

theorem Fresh.asExtension (hfresh : table.Fresh rules now) (pid : Pid) :
    (table.modifyProcess pid .asExtension).Fresh rules now where
  consistent := hfresh.consistent.modifyProcess ⟨fun _ => rfl, fun _ => rfl, fun _ => rfl⟩
  paired := hfresh.paired.mapIf (process?_modifyProcess table pid _)
    ⟨fun _ => rfl, fun _ => rfl, fun _ => rfl⟩
  plain := hfresh.plain.mapAt (process?_modifyProcess table pid _) fun _ hnone => nomatch hnone
  evaluated := by
    intro other process hother hprocess
    have hforeground : ∀ process : ProcessRecord,
        process.asExtension.isForeground = process.isForeground := fun _ => rfl
    rw [isForeground_modifyProcess hforeground]
    rw [process?_modifyProcess] at hprocess
    split at hprocess
    · obtain ⟨before, hbefore, rfl⟩ := Option.map_eq_some_iff.1 hprocess
      exact (hfresh.evaluated hother hbefore).asExtension (hfresh.plain hbefore)
    · exact hfresh.evaluated hother hprocess

theorem noteEvent_bind (htarget : table.owners.get? target.pid = some target.key)
    (hbinder : table.owners.get? binder.pid = some binder.key) :
    table.noteEvent rules now ⟨some binder, target, .bindExtension⟩ =
      table.bind binder.pid target.pid := by
  have hnoted : table.modifyProcess target.pid (.note .bindExtension now) = table :=
    modifyProcess_id table target.pid
  rw [noteEvent, ensure_of_tracked htarget, hnoted, rebind_of_binder rfl,
    ensure_of_tracked hbinder]

theorem noteEvent_unbind (htarget : table.owners.get? target.pid = some target.key) :
    table.noteEvent rules now ⟨some binder, target, .unbindExtension⟩ =
      table.unbind binder.pid target.pid := by
  have hnoted : table.modifyProcess target.pid (.note .unbindExtension now) = table :=
    modifyProcess_id table target.pid
  rw [noteEvent, ensure_of_tracked htarget, hnoted, rebind]

/-- A binding that is made and ended leaves behind that its target is an extension. -/
theorem process?_unbind_bind (hpaired : table.Paired) {one other : Pid} (hne : one ≠ other)
    {consumer extension : ProcessRecord} (hone : table.process? one = some consumer)
    (hother : table.process? other = some extension) (hunbound : extension.isBoundBy one = false)
    (pid : Pid) :
    ((table.bind one other).unbind one other).process? pid =
      if other = pid then
        (table.process? pid).map fun process => { process with isExtension := true }
      else table.process? pid := by
  have hbinder : table.binderUser? one other = none := by
    rw [binderUser?, hother, Option.bind_some, ← Option.not_isSome_iff_eq_none]
    exact Bool.eq_false_iff.1 hunbound
  have htarget : table.targetUser? one other = none := by
    rw [← Option.not_isSome_iff_eq_none, ← hpaired.isSome_iff, hbinder]
    exact Bool.false_ne_true
  rw [binderUser?, hother, Option.bind_some] at hbinder
  rw [targetUser?, hone, Option.bind_some] at htarget
  rw [process?_unbind, process?_bind hone hother, Option.map_map]
  by_cases hpid : other = pid
  · subst hpid
    rw [if_pos rfl, hother, Option.map_some, Option.map_some]
    simp [hne, ProcessRecord.addBinder, ProcessRecord.dropBinder, OrdMap.erase_insert hbinder]
  · rw [if_neg hpid]
    by_cases hself : one = pid
    · subst hself
      rw [hone, Option.map_some]
      simp [hpid, ProcessRecord.addBinding, ProcessRecord.dropBinding,
        OrdMap.erase_insert htarget]
    · simp [hpid, hself, Function.comp_def]

theorem owners_bind (table : Table) (one other : Pid) :
    (table.bind one other).owners = table.owners := by
  rw [bind]
  split
  · rw [owners_modifyProcess, owners_modifyProcess]
  · rfl

/-- A binding that is made and ended at once leaves the table as a reader finds it, except
that the target is an extension from then on. -/
theorem Fresh.unbind_bind_eq (hfresh : table.Fresh rules now) (hne : binder.pid ≠ target.pid)
    (htarget : table.owners.get? target.pid = some target.key)
    (hbinder : table.owners.get? binder.pid = some binder.key)
    (hunbound : ∀ process, table.process? target.pid = some process →
      process.isBoundBy binder.pid = false) :
    ((table.apply rules now ⟨some binder, target, .bindExtension⟩).2.apply rules now
        ⟨some binder, target, .unbindExtension⟩).2 =
      (table.expire rules now).modifyProcess target.pid .asExtension := by
  have hconsistent := hfresh.consistent
  have hbindLive : Reason.bindExtension ≠ .processTerminated ∧
      Reason.bindExtension ≠ .abilityStartTimeout := by decide
  have hunbindLive : Reason.unbindExtension ≠ .processTerminated ∧
      Reason.unbindExtension ≠ .abilityStartTimeout := by decide
  have hkeeps : ProcessRecord.KeepsPlace .asExtension :=
    ⟨fun _ => rfl, fun _ => rfl, fun _ => rfl⟩
  obtain ⟨home, consumer, hone, hconsumer⟩ := hconsistent.exists_process hbinder
  obtain ⟨host, extension, hother, hextension⟩ := hconsistent.exists_process htarget
  have hfoundBinder := hconsistent.process?_eq hone hconsumer
  have hfoundTarget := hconsistent.process?_eq hother hextension
  have hbound : (table.bind binder.pid target.pid).owners.get? target.pid = some target.key := by
    rw [owners_bind, htarget]
  have hrestored : SameFacts rules now
      ((table.bind binder.pid target.pid).unbind binder.pid target.pid)
      (table.modifyProcess target.pid .asExtension) := by
    apply SameFacts.inherit SameFacts.refl
      (fun _ => (Inherits.bind binder.pid target.pid).trans (.unbind binder.pid target.pid))
      (fun _ => .modifyProcess target.pid _)
      ((hconsistent.bind binder.pid target.pid).unbind binder.pid target.pid)
      (hconsistent.modifyProcess hkeeps)
    · intro pid
      rw [unbind, owners_modifyProcess, owners_modifyProcess, owners_bind, owners_modifyProcess]
    · intro pid
      rw [process?_unbind_bind hfresh.paired hne hfoundBinder hfoundTarget
        (hunbound extension hfoundTarget), process?_modifyProcess]
      split
      · rw [Option.map_map, Option.map_map]
        rfl
      · rfl
  have hexpired : SameFacts rules now (table.modifyProcess target.pid .asExtension)
      ((table.expire rules now).modifyProcess target.pid .asExtension) :=
    (SameFacts.expire hconsistent (Nat.le_refl now)).modifyProcess hkeeps hconsistent
      (hfresh.perform .expire).consistent
      (congrArg fun process : ProcessRecord => { process with isExtension := true })
  apply hfresh.apply_apply_eq _ _ (Fresh.asExtension (hfresh.perform .expire) target.pid)
    (modifyProcess_asExtension_settled (expire_settled hconsistent))
  · rw [noteEvent_bind htarget hbinder, noteEvent_unbind hbound]
    exact hrestored.trans hexpired
  · exact hbindLive
  · exact hunbindLive

/-- After any history in order of time, starting and at once finishing a phase that a tracked
process is not in leaves the table as a reader finds it.  Making and at once ending a binding
that was not there leaves every binding and every priority. -/
theorem start_and_end_restore (rules : Rules) (history : History) (now : Seconds)
    (target : ResolvedIdentity) (hchronological : history.Chronological now)
    (htracked : (empty.run rules history).owners.get? target.pid = some target.key) :
    let table := empty.run rules history
    let seen := table.expire rules now
    (∀ phase : Phase,
      (∀ process, table.process? target.pid = some process → phase.isOn process = false) →
      ∀ starter finisher : Option ResolvedIdentity,
        ((table.apply rules now ⟨starter, target, phase.start⟩).2.apply rules now
          ⟨finisher, target, phase.finish⟩).2 = seen) ∧
    (∀ binder : ResolvedIdentity, binder.pid ≠ target.pid →
      table.owners.get? binder.pid = some binder.key →
      (∀ process, table.process? target.pid = some process →
        process.isBoundBy binder.pid = false) →
      let after := ((table.apply rules now ⟨some binder, target, .bindExtension⟩).2.apply rules now
        ⟨some binder, target, .unbindExtension⟩).2
      (∀ pid, (after.process? pid).map ProcessRecord.standing =
        (seen.process? pid).map ProcessRecord.standing) ∧
      (∀ key, (after.bundle? key).map Bundle.priority = (seen.bundle? key).map Bundle.priority) ∧
      after.expire rules now = after) ∧
    seen.expire rules now = seen := by
  intro table seen
  have hfresh : table.Fresh rules now := .run hchronological
  refine ⟨fun phase hoff starter finisher => hfresh.finish_start_eq htracked hoff starter finisher,
    fun binder hne hbinder hunbound => ?_, hfresh.consistent.expire_expire⟩
  rw [hfresh.unbind_bind_eq hne htracked hbinder hunbound]
  refine ⟨fun pid => ?_, fun key => ?_, ?_⟩
  · rw [process?_modifyProcess]
    split
    · rw [Option.map_map]
      rfl
    · rfl
  · rw [modifyProcess, bundle?_modifyOwner]
    split
    · rw [Option.map_map]
      rfl
    · rfl
  · exact (Fresh.asExtension (hfresh.perform .expire) target.pid).consistent.expire_eq_self
      (modifyProcess_asExtension_settled (expire_settled hfresh.consistent))

/-- A launcher that comes to the foreground lifts the gallery bound to it.  Back in the
background it leaves no trace, nor does a player that binds the gallery in passing. -/
theorem start_and_end_restore_boundGallery :
    let rules : Rules := ⟨10, .empty⟩
    let launcher : ResolvedIdentity := ⟨1, 20010001, "launcher", 100⟩
    let gallery : ResolvedIdentity := ⟨2, 20010002, "gallery", 100⟩
    let player : ResolvedIdentity := ⟨3, 20010003, "player", 100⟩
    let history : History :=
      [(0, .apply ⟨none, player, .foreground⟩), (1, .apply ⟨none, gallery, .abilityStart⟩),
        (2, .apply ⟨some launcher, gallery, .bindExtension⟩)]
    let table := empty.run rules history
    let raised := (table.apply rules 20 ⟨none, launcher, .foreground⟩).2
    let lowered := (raised.apply rules 20 ⟨none, launcher, .background⟩).2
    let bound := (table.apply rules 20 ⟨some player, gallery, .bindExtension⟩).2
    let unbound := (bound.apply rules 20 ⟨some player, gallery, .unbindExtension⟩).2
    history.Chronological 20 ∧ table.owners.get? 1 = some launcher.key ∧
      table.owners.get? 2 = some gallery.key ∧
      (raised.process? 2).map ProcessRecord.priority = some .boundFromForeground ∧
      lowered = table.expire rules 20 ∧
      (bound.process? 2).map ProcessRecord.priority = some .boundFromForeground ∧
      (unbound.process? 2).map ProcessRecord.standing =
        ((table.expire rules 20).process? 2).map ProcessRecord.standing := by
  intro rules launcher gallery player history table raised lowered bound unbound
  have hchronological : history.Chronological 20 := by decide
  have hlauncher : table.owners.get? 1 = some launcher.key := by decide
  have hgallery : table.owners.get? 2 = some gallery.key := by decide
  obtain ⟨hphases, -⟩ :=
    start_and_end_restore rules history 20 launcher hchronological hlauncher
  obtain ⟨-, hbindings, -⟩ :=
    start_and_end_restore rules history 20 gallery hchronological hgallery
  obtain ⟨hstanding, -⟩ := hbindings player (by decide) (by decide) (by decide)
  exact ⟨hchronological, hlauncher, hgallery, by decide,
    hphases .foreground (by decide) none none, by decide, hstanding 2⟩

end Table

end MemoryReclaim
