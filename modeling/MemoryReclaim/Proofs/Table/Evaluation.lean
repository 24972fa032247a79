import MemoryReclaim.Proofs.Table.Bindings

/-!
# Evaluated records

The bind status and the priority of a process are stored, while what they are computed
from changes with other processes and with the time.  `Evaluated` says that a record is
as its last evaluation left it, at some time in the past, and that nothing but the time
has changed since.  In the middle of an event a few records are not; `EvaluatedBut`
names them, and each part of an event is followed by what it adds to them and what it
takes away.
-/

namespace MemoryReclaim

namespace ProcessRecord

/-- The stored status is the current one, and the stored priority was right at some time
up to `now`. -/
structure Evaluated (rules : Rules) (now : Seconds) (view : Pid → Bool)
    (process : ProcessRecord) : Prop where
  bindStatus_eq : process.currentBindStatus view = process.bindStatus
  priority_eq : ∃ earlier, earlier ≤ now ∧
    process.priority = process.tier rules.graceWindow earlier

variable {rules : Rules} {earlier now : Seconds} {view other : Pid → Bool}
variable {process : ProcessRecord}

theorem currentBindStatus_congr
    (hview : ∀ binder, process.isBoundBy binder → view binder = other binder) :
    process.currentBindStatus view = process.currentBindStatus other := by
  rw [currentBindStatus, currentBindStatus]
  split
  · congr 1
    apply List.map_congr_left
    intro binder hbinder
    exact hview binder (OrdMap.mem_keys.1 hbinder)
  · rfl

theorem renew_evaluated : (process.renew rules now view).Evaluated rules now view :=
  ⟨currentBindStatus_renew rules now view process, now, Nat.le_refl now, rfl⟩

theorem newcomer_evaluated {name : String} {pid : Pid} {uid : Uid} :
    (newcomer rules now name pid uid).Evaluated rules now view :=
  ⟨rfl, now, Nat.le_refl now, rfl⟩

namespace Evaluated

theorem mono (hevaluated : process.Evaluated rules earlier view) (hle : earlier ≤ now) :
    process.Evaluated rules now view := by
  obtain ⟨last, hlast, hpriority⟩ := hevaluated.priority_eq
  exact ⟨hevaluated.bindStatus_eq, last, Nat.le_trans hlast hle, hpriority⟩

theorem congr (hevaluated : process.Evaluated rules now view)
    (hview : ∀ binder, process.isBoundBy binder → other binder = view binder) :
    process.Evaluated rules now other where
  bindStatus_eq := (currentBindStatus_congr hview).trans hevaluated.bindStatus_eq
  priority_eq := hevaluated.priority_eq

theorem addBinding (hevaluated : process.Evaluated rules now view) (pid : Pid) (uid : Uid) :
    (process.addBinding pid uid).Evaluated rules now view :=
  ⟨hevaluated.bindStatus_eq, hevaluated.priority_eq⟩

theorem dropBinding (hevaluated : process.Evaluated rules now view) (pid : Pid) :
    (process.dropBinding pid).Evaluated rules now view :=
  ⟨hevaluated.bindStatus_eq, hevaluated.priority_eq⟩

/-- The end of a process evaluates those that it was bound to; the status of no other one
depends on it. -/
theorem partedFrom (hevaluated : process.Evaluated rules now view) {gone : ProcessRecord}
    {pid third : Pid} (hbound : process.isBoundBy pid → gone.bindsToPid third)
    (hview : ∀ binder, binder ≠ pid → other binder = view binder) :
    (gone.partedFrom rules now other pid third process).Evaluated rules now other := by
  simp only [ProcessRecord.partedFrom]
  split
  · exact renew_evaluated
  · next hfree =>
    have hsame : process.Evaluated rules now other := by
      apply hevaluated.congr
      intro binder hbinder
      apply hview
      rintro rfl
      exact hfree (hbound hbinder)
    split
    · exact hsame.dropBinding pid
    · exact hsame

end Evaluated

theorem isForeground_note {reason : Reason} (hreason : reason.changesForeground = false)
    (now : Seconds) (process : ProcessRecord) :
    (process.note reason now).isForeground = process.isForeground := by
  cases reason with
  | foreground => cases hreason
  | background => cases hreason
  | _ => rfl

end ProcessRecord

namespace Table

variable {rules : Rules} {earlier now : Seconds} {table : Table} {pid : Pid} {stale : Set Pid}

/-- Every record is as its last evaluation left it, but those of the pids in `stale`. -/
def EvaluatedBut (rules : Rules) (now : Seconds) (stale : Set Pid) (table : Table) : Prop :=
  ∀ ⦃pid process⦄, pid ∉ stale → table.process? pid = some process →
    process.Evaluated rules now table.isForeground

theorem empty_evaluated : EvaluatedBut rules now ∅ empty := by
  intro pid process _ hprocess
  cases hprocess

namespace EvaluatedBut

theorem mono {more : Set Pid} (htable : table.EvaluatedBut rules now stale)
    (hsubset : stale ⊆ more) : table.EvaluatedBut rules now more := by
  intro pid process hpid hprocess
  exact htable (fun hstale => hpid (hsubset hstale)) hprocess

theorem wait (htable : table.EvaluatedBut rules earlier stale) (hle : earlier ≤ now) :
    table.EvaluatedBut rules now stale := by
  intro pid process hpid hprocess
  exact (htable hpid hprocess).mono hle

/-- A loop that evaluates what it comes across leaves nothing stale of that. -/
theorem foldl {step : Table → Pid → Table}
    {change : (Pid → Bool) → ProcessRecord → ProcessRecord}
    (htable : table.EvaluatedBut rules now stale) (htouches : Touches step change)
    (hchange : ∀ view process, (change view process).Evaluated rules now view)
    (pids : List Pid) :
    (pids.foldl step table).EvaluatedBut rules now {pid | pid ∈ stale ∧ pid ∉ pids} := by
  intro pid process hpid hprocess
  rw [htouches.isForeground_foldl]
  rw [htouches.process?_foldl] at hprocess
  split at hprocess
  · obtain ⟨before, -, rfl⟩ := Option.map_eq_some_iff.1 hprocess
    exact hchange _ _
  · next hother => exact htable (fun hstale => hpid ⟨hstale, hother⟩) hprocess

theorem refreshAll (htable : table.EvaluatedBut rules now stale) (pids : List Pid) :
    (table.refreshAll rules now pids).EvaluatedBut rules now
      {pid | pid ∈ stale ∧ pid ∉ pids} :=
  htable.foldl (touches_refresh rules now) (fun _ _ => ProcessRecord.renew_evaluated) pids

theorem refresh (htable : table.EvaluatedBut rules now stale) (pid : Pid) :
    (table.refresh rules now pid).EvaluatedBut rules now
      {other | other ∈ stale ∧ other ≠ pid} := by
  have hset : {other | other ∈ stale ∧ other ≠ pid} =
      {other | other ∈ stale ∧ other ∉ [pid]} := by
    simp only [List.mem_singleton, ne_eq]
  rw [hset]
  exact htable.refreshAll [pid]

theorem expire (htable : table.EvaluatedBut rules now stale) :
    (table.expire rules now).EvaluatedBut rules now stale := by
  have hloop := htable.foldl (touches_endAbilityStart rules now)
    (fun _ _ => ProcessRecord.renew_evaluated) (table.expiredPids rules now)
  exact hloop.mono fun _ hpid => hpid.1

theorem setState (htable : table.EvaluatedBut rules now stale) (key : BundleKey)
    (state : BundleState) : (table.setState key state).2.EvaluatedBut rules now stale := by
  have hview : (table.setState key state).2.isForeground = table.isForeground := by
    funext pid
    rw [isForeground, process?_setState, isForeground]
  intro pid process hpid hprocess
  rw [hview]
  rw [process?_setState] at hprocess
  exact htable hpid hprocess

/-- A changed record is stale unless the change keeps what it was evaluated to. -/
theorem modifyProcess {change : ProcessRecord → ProcessRecord}
    (htable : table.EvaluatedBut rules now stale)
    (hforeground : ∀ process, (change process).isForeground = process.isForeground)
    (hchange : pid ∉ stale → ∀ {view process}, process.Evaluated rules now view →
      (change process).Evaluated rules now view) :
    (table.modifyProcess pid change).EvaluatedBut rules now stale := by
  intro other process hother hprocess
  rw [isForeground_modifyProcess hforeground]
  rw [process?_modifyProcess] at hprocess
  split at hprocess
  · next hpid =>
    obtain ⟨before, hbefore, rfl⟩ := Option.map_eq_some_iff.1 hprocess
    exact hchange (hpid ▸ hother) (htable hother hbefore)
  · exact htable hother hprocess

/-- A process that enters or leaves the foreground makes the extensions stale that it is
bound to. -/
theorem modifyForeground (htable : table.EvaluatedBut rules now ∅) (hpaired : table.Paired)
    (pid : Pid) (change : ProcessRecord → ProcessRecord) :
    (table.modifyProcess pid change).EvaluatedBut rules now
      {other | other = pid ∨ other ∈ table.boundTargets pid} := by
  intro other process hother hprocess
  have hpid : pid ≠ other := fun heq => hother (.inl heq.symm)
  rw [process?_modifyProcess, if_neg hpid] at hprocess
  -- The view differs at `pid` only, and `pid` lists every extension that lists it.
  apply (htable (Set.notMem_empty other) hprocess).congr
  intro binder hbinder
  have hne : pid ≠ binder := by
    rintro rfl
    obtain ⟨consumer, hconsumer, hbinds⟩ := hpaired.exists_binder hprocess hbinder
    apply hother
    right
    rw [boundTargets, hconsumer]
    exact OrdMap.mem_keys.2 hbinds
  rw [isForeground, process?_modifyProcess, if_neg hne, isForeground]

theorem remove (htable : table.EvaluatedBut rules now stale) (hpaired : table.Paired)
    (pid : Pid) : (table.remove rules now pid).EvaluatedBut rules now stale := by
  intro other process hother hprocess
  have hview : ∀ binder, binder ≠ pid →
      table.isForegroundWithout pid binder = table.isForeground binder := by
    intro binder hbinder
    rw [isForegroundWithout, if_neg hbinder.symm]
  rw [isForeground_remove]
  cases hgone : table.process? pid with
  | none =>
      rw [process?_remove_untracked hgone] at hprocess
      apply (htable hother hprocess).congr
      intro binder hbinder
      apply hview
      rintro rfl
      obtain ⟨consumer, hconsumer, -⟩ := hpaired.exists_binder hprocess hbinder
      rw [hgone] at hconsumer
      cases hconsumer
  | some gone =>
      rw [process?_remove hgone] at hprocess
      split at hprocess
      · contradiction
      · obtain ⟨peer, hpeer, rfl⟩ := Option.map_eq_some_iff.1 hprocess
        apply (htable hother hpeer).partedFrom _ hview
        intro hbound
        obtain ⟨consumer, hconsumer, hbinds⟩ := hpaired.exists_binder hpeer hbound
        rwa [Option.some.inj (hgone.symm.trans hconsumer)]

theorem track (htable : table.EvaluatedBut rules now stale) {identity : ResolvedIdentity}
    (huntracked : table.process? identity.pid = none) :
    (table.track rules now identity).EvaluatedBut rules now stale := by
  have hview : (table.track rules now identity).isForeground = table.isForeground := by
    funext other
    rw [isForeground, process?_track, isForeground]
    split
    · next hother => rw [← hother, huntracked]; rfl
    · rfl
  intro other process hother hprocess
  rw [process?_track] at hprocess
  split at hprocess
  · rw [← Option.some.inj hprocess]
    exact ProcessRecord.newcomer_evaluated
  · rw [hview]
    exact htable hother hprocess

theorem ensure (htable : table.EvaluatedBut rules now stale) (hpaired : table.Paired)
    (identity : ResolvedIdentity) :
    (table.ensure rules now identity).EvaluatedBut rules now stale := by
  rw [ensure_eq]
  split
  · exact htable
  · apply (htable.remove hpaired identity.pid).track
    apply process?_of_ownerless
    simp [owners_remove]

/-- Bindings are part of what an extension is evaluated from, and not of what its binder
is. -/
theorem bind (htable : table.EvaluatedBut rules now stale) (binder : Pid) {target : Pid}
    (htarget : target ∈ stale) : (table.bind binder target).EvaluatedBut rules now stale := by
  rw [Table.bind]
  split
  · apply modifyProcess
    · apply htable.modifyProcess
      · intro process
        rfl
      · intro hfresh
        exact absurd htarget hfresh
    · intro process
      rfl
    · intro _ view process hevaluated
      exact hevaluated.addBinding _ _
  · exact htable

theorem unbind (htable : table.EvaluatedBut rules now stale) (binder : Pid) {target : Pid}
    (htarget : target ∈ stale) :
    (table.unbind binder target).EvaluatedBut rules now stale := by
  rw [Table.unbind]
  apply modifyProcess
  · apply htable.modifyProcess
    · intro process
      rfl
    · intro hfresh
      exact absurd htarget hfresh
  · intro process
    rfl
  · intro _ view process hevaluated
    exact hevaluated.dropBinding _

end EvaluatedBut

end Table

end MemoryReclaim
