import MemoryReclaim.Proofs.Table.Departures
import MemoryReclaim.Proofs.Table.Freshness

/-!
# Bystanders of an event

An event changes the record of its target and of its caller, takes out the records whose
pids were reused, and changes those of their peers; then it ends the grace windows that
have passed.  All others are bystanders.  `Leaves` says that a process keeps its owner and
its record; every part of an event leaves alone whom it is not about, and so an event leaves
all its bystanders.
-/

namespace MemoryReclaim

namespace ProcessRecord

theorem outlive_of_unbound {process : ProcessRecord} {pid : Pid}
    (hbound : process.isBoundBy pid = false) (hbinds : process.bindsToPid pid = false)
    (rules : Rules) (now : Seconds) (view : Pid → Bool) :
    process.outlive rules now view pid = process := by
  have hunbound : process.bindsTo.get? pid = none := by
    rw [← Option.not_isSome_iff_eq_none]
    exact Bool.eq_false_iff.1 hbinds
  rw [outlive, dropBinding_of_unbound hunbound, hbound]
  rfl

end ProcessRecord

namespace Table

variable {rules : Rules} {now : Seconds} {table before middle after : Table}
variable {pid other : Pid} {identity : ResolvedIdentity} {request : ResolvedRequest}

/-- Whether a binding, in either direction, is on the record found under `other`. -/
def IsPeer (table : Table) (pid other : Pid) : Prop :=
  ∃ process, table.process? other = some process ∧
    (process.isBoundBy pid ∨ process.bindsToPid pid)

/-- A process that an event is not about: neither its target nor its caller, nor bound with
its target or with a process whose pid the event shows to be reused, and without a grace
window that has passed. -/
structure Bystander (rules : Rules) (now : Seconds) (request : ResolvedRequest) (table : Table)
    (pid : Pid) : Prop where
  ne_target : request.target.pid ≠ pid
  ne_caller : ∀ caller ∈ request.caller, caller.pid ≠ pid
  not_peer : ¬ table.IsPeer pid request.target.pid
  not_peer_reused : ∀ identity ∈ request.ensured, ∀ key,
    table.owners.get? identity.pid = some key → key ≠ identity.key →
      ¬ table.IsPeer pid identity.pid
  not_expired : ∀ process, table.process? pid = some process →
    process.abilityStartExpired rules.graceWindow now = false

/-- A process keeps its owner and its record. -/
structure Leaves (pid : Pid) (before after : Table) : Prop where
  owner_eq : after.owners.get? pid = before.owners.get? pid
  process?_eq : after.process? pid = before.process? pid

/-- The record found under `pid` has no binding with `other`. -/
def Apart (pid other : Pid) (table : Table) : Prop :=
  ∀ ⦃process⦄, table.process? pid = some process →
    process.isBoundBy other = false ∧ process.bindsToPid other = false

/-- As bindings are kept on both sides, either record tells who is a peer. -/
theorem Paired.apart (hpaired : table.Paired) (hpeer : ¬ table.IsPeer pid other) :
    table.Apart pid other := by
  intro process hprocess
  constructor
  · apply Bool.eq_false_iff.2
    intro hbound
    obtain ⟨consumer, hconsumer, hbinds⟩ := hpaired.exists_binder hprocess hbound
    exact hpeer ⟨consumer, hconsumer, .inr hbinds⟩
  · apply Bool.eq_false_iff.2
    intro hbinds
    have htarget : (table.targetUser? pid other).isSome := by
      rw [targetUser?, hprocess]
      exact hbinds
    have hbinder := (hpaired.isSome_iff pid other).2 htarget
    rw [binderUser?, Option.isSome_bind, Option.any_eq_true] at hbinder
    obtain ⟨extension, hextension, hbound⟩ := hbinder
    exact hpeer ⟨extension, hextension, .inl hbound⟩

namespace Leaves

theorem refl : Leaves pid table table := ⟨rfl, rfl⟩

theorem trans (hfirst : Leaves pid before middle) (hsecond : Leaves pid middle after) :
    Leaves pid before after :=
  ⟨hsecond.owner_eq.trans hfirst.owner_eq, hsecond.process?_eq.trans hfirst.process?_eq⟩

/-- Who is apart from a peer stays so while left alone, whatever becomes of the peer. -/
theorem apart (hleaves : Leaves pid before after) (hapart : before.Apart pid other) :
    after.Apart pid other := by
  intro process hprocess
  rw [hleaves.process?_eq] at hprocess
  exact hapart hprocess

/-! ## The parts of an event -/

theorem modifyProcess (hne : other ≠ pid) (change : ProcessRecord → ProcessRecord) :
    Leaves pid table (table.modifyProcess other change) where
  owner_eq := by rw [owners_modifyProcess]
  process?_eq := by rw [process?_modifyProcess, if_neg hne]

theorem foldl {step : Table → Pid → Table} {change : (Pid → Bool) → ProcessRecord → ProcessRecord}
    (htouches : Touches step change) {pids : List Pid} (hnot : pid ∉ pids) :
    Leaves pid table (pids.foldl step table) where
  owner_eq := by rw [htouches.owners_foldl]
  process?_eq := by rw [htouches.process?_foldl, if_neg hnot]

theorem refresh (hne : other ≠ pid) : Leaves pid table (table.refresh rules now other) where
  owner_eq := by rw [owners_refresh]
  process?_eq := by rw [process?_refresh, if_neg hne]

theorem expire (hconsistent : table.Consistent)
    (hopen : ∀ process, table.process? pid = some process →
      process.abilityStartExpired rules.graceWindow now = false) :
    Leaves pid table (table.expire rules now) := by
  apply foldl (touches_endAbilityStart rules now)
  intro hmem
  obtain ⟨process, hprocess, hexpired⟩ := of_mem_expiredPids hconsistent hmem
  exact absurd hexpired (Bool.eq_false_iff.1 (hopen process hprocess))

theorem remove (hpaired : table.Paired) (hne : other ≠ pid) (hapart : table.Apart pid other) :
    Leaves pid table (table.remove rules now other) where
  owner_eq := by rw [owners_remove, if_neg hne]
  process?_eq := by
    rw [hpaired.process?_remove, if_neg hne]
    cases hprocess : table.process? pid with
    | none => rfl
    | some process =>
        obtain ⟨hbound, hbinds⟩ := hapart hprocess
        rw [Option.map_some, ProcessRecord.outlive_of_unbound hbound hbinds]

theorem track (hne : identity.pid ≠ pid) : Leaves pid table (table.track rules now identity) where
  owner_eq := by rw [owners_track, if_neg hne]
  process?_eq := by rw [process?_track, if_neg hne]

/-- Making sure of a process leaves the others, except for peers of one whose pid it took. -/
theorem ensure (hpaired : table.Paired) (hne : identity.pid ≠ pid)
    (hapart : table.owners.get? identity.pid ≠ some identity.key → table.Apart pid identity.pid) :
    Leaves pid table (table.ensure rules now identity) := by
  rw [ensure_eq]
  split
  · exact refl
  · next huntracked => exact (remove hpaired hne (hapart huntracked)).trans (track hne)

theorem bind {binder target : Pid} (hbinder : binder ≠ pid) (htarget : target ≠ pid) :
    Leaves pid table (table.bind binder target) := by
  rw [Table.bind]
  split
  · exact (modifyProcess htarget _).trans (modifyProcess hbinder _)
  · exact refl

theorem unbind {binder target : Pid} (hbinder : binder ≠ pid) (htarget : target ≠ pid) :
    Leaves pid table (table.unbind binder target) :=
  (modifyProcess htarget _).trans (modifyProcess hbinder _)

end Leaves

/-! ## Whole events -/

/-- The table with the target of an event found or created, and the new state noted in it. -/
def noteTarget (rules : Rules) (now : Seconds) (request : ResolvedRequest) (table : Table) :
    Table :=
  (table.ensure rules now request.target).modifyProcess request.target.pid
    (.note request.reason now)

theorem noteEvent_eq (rules : Rules) (now : Seconds) (request : ResolvedRequest) (table : Table) :
    table.noteEvent rules now request =
      (table.noteTarget rules now request).rebind rules now request := rfl

theorem noteTarget_paired (hpaired : table.Paired) :
    (table.noteTarget rules now request).Paired :=
  ((paired_partsKeep rules).ensure hpaired request.target).note _ _ _

theorem noteTarget_consistent (hconsistent : table.Consistent) :
    (table.noteTarget rules now request).Consistent :=
  ((consistent_partsKeep rules).ensure hconsistent request.target).modifyProcess
    (ProcessRecord.keepsPlace_note request.reason now)

/-- The extensions that an event comes back to are peers of its target from before. -/
theorem not_mem_boundTargets (hpeer : ¬ table.IsPeer pid request.target.pid) :
    pid ∉ (table.ensure rules now request.target).boundTargets request.target.pid := by
  intro hmem
  rw [ensure_eq] at hmem
  split at hmem
  · rw [boundTargets] at hmem
    split at hmem
    · next process hprocess => exact hpeer ⟨process, hprocess, .inr (OrdMap.mem_keys.1 hmem)⟩
    · cases hmem
  · -- A process that is tracked anew has no bindings.
    rw [boundTargets, process?_track, if_pos rfl] at hmem
    cases hmem

namespace Bystander

theorem apart_target (hbystander : table.Bystander rules now request pid)
    (hpaired : table.Paired) : table.Apart pid request.target.pid :=
  hpaired.apart hbystander.not_peer

theorem apart_reused (hbystander : table.Bystander rules now request pid)
    (hpaired : table.Paired) (hmem : identity ∈ request.ensured)
    (hreused : table.owners.get? identity.pid ≠ some identity.key) :
    table.Apart pid identity.pid := by
  apply hpaired.apart
  rintro ⟨process, hprocess, hbinding⟩
  obtain ⟨key, bundle, howner, -, -⟩ := process?_eq_some_iff.1 hprocess
  have hother : key ≠ identity.key := fun hkey => hreused (hkey ▸ howner)
  exact hbystander.not_peer_reused identity hmem key howner hother ⟨process, hprocess, hbinding⟩

theorem noteTarget (hbystander : table.Bystander rules now request pid)
    (hpaired : table.Paired) : Leaves pid table (table.noteTarget rules now request) :=
  (Leaves.ensure hpaired hbystander.ne_target fun _ => hbystander.apart_target hpaired).trans
    (.modifyProcess hbystander.ne_target _)

/-- A pid that is both the target's and the binder's has a record without bindings by the
time of the second removal; any other is tracked then as it was before. -/
theorem apart_binder (hbystander : table.Bystander rules now request pid)
    (hpaired : table.Paired) (hmem : identity ∈ request.ensured)
    (hreused : (table.noteTarget rules now request).owners.get? identity.pid ≠
      some identity.key) :
    (table.noteTarget rules now request).Apart pid identity.pid := by
  apply (hbystander.noteTarget hpaired).apart
  by_cases hsame : request.target.pid = identity.pid
  · rw [← hsame]
    exact hbystander.apart_target hpaired
  · apply hbystander.apart_reused hpaired hmem
    rwa [Table.noteTarget, owners_modifyProcess, owners_ensure, if_neg hsame] at hreused

theorem noteEvent (hbystander : table.Bystander rules now request pid) (hpaired : table.Paired)
    (hensured : ∀ binder ∈ request.binder?, binder ∈ request.ensured) :
    Leaves pid table (table.noteEvent rules now request) := by
  have hnoted := hbystander.noteTarget hpaired
  have hpairedNoted : (table.noteTarget rules now request).Paired := noteTarget_paired hpaired
  rw [noteEvent_eq]
  apply hnoted.trans
  cases hbinder : request.binder? with
  | some binder =>
      have hne : binder.pid ≠ pid := by
        rw [ResolvedRequest.binder?] at hbinder
        split at hbinder
        · exact hbystander.ne_caller binder hbinder
        · cases hbinder
      rw [rebind_of_binder hbinder]
      apply Leaves.trans _ (.bind hne hbystander.ne_target)
      exact .ensure hpairedNoted hne fun hreused =>
        hbystander.apart_binder hpaired (hensured binder hbinder) hreused
  | none =>
      rw [rebind]
      split
      · next hreason hcaller =>
        rw [ResolvedRequest.binder?, if_pos hreason, hcaller] at hbinder
        cases hbinder
      · next caller _ hcaller =>
        exact .unbind (hbystander.ne_caller caller hcaller) hbystander.ne_target
      · exact .refl

theorem applyLive (hbystander : table.Bystander rules now request pid)
    (hconsistent : table.Consistent) (hpaired : table.Paired)
    (hensured : ∀ binder ∈ request.binder?, binder ∈ request.ensured) :
    Leaves pid table (table.applyLive rules now request) := by
  have hnoted := hbystander.noteEvent hpaired hensured
  have hfresh : Leaves pid table (((table.noteEvent rules now request).expire rules now).refresh
      rules now request.target.pid) := by
    apply (hnoted.trans _).trans (.refresh hbystander.ne_target)
    apply Leaves.expire ((consistent_partsKeep rules).noteEvent hconsistent request)
    intro process hprocess
    rw [hnoted.process?_eq] at hprocess
    exact hbystander.not_expired process hprocess
  rw [Table.applyLive]
  split
  · next hreason =>
    rw [boundTargets_fresh hreason]
    exact hfresh.trans
      (.foldl (touches_refresh rules now) (not_mem_boundTargets hbystander.not_peer))
  · exact hfresh

theorem apply (hbystander : table.Bystander rules now request pid)
    (hconsistent : table.Consistent) (hpaired : table.Paired) :
    Leaves pid table (table.apply rules now request).2 := by
  rw [Table.apply]
  split
  · exact .remove hpaired hbystander.ne_target (hbystander.apart_target hpaired)
  · exact .expire hconsistent hbystander.not_expired
  · next hgoing hlive =>
    apply hbystander.applyLive hconsistent hpaired
    intro binder hbinder
    rw [ResolvedRequest.ensured_of_live hgoing hlive]
    exact List.mem_cons_of_mem _ (Option.mem_toList.2 hbinder)

end Bystander

end Table

end MemoryReclaim
