import MemoryReclaim.Proofs.Table.Records
import MemoryReclaim.Proofs.Table.Representation

/-!
# Floors

A process takes its floor from the name of the bundle that it joins, and keeps it for as
long as it is tracked.  Its priority is the tier of its states held down to the floor, and
so nothing but a floor takes a priority out of the range of the tiers.
-/

namespace MemoryReclaim

namespace ProcessRecord

variable {rules : Rules} {process : ProcessRecord} {floor : Priority}

/-- The priority is that of some tier, held at or below the floor where there is one. -/
def Held (process : ProcessRecord) : Prop :=
  ∃ tier : Priority, .foreground ≤ tier ∧ tier ≤ .background ∧
    process.priority = process.floor.elim tier (min tier)

theorem stateTier_range (window now : Seconds) (process : ProcessRecord) :
    .foreground ≤ process.stateTier window now ∧ process.stateTier window now ≤ .background := by
  rw [stateTier]
  split_ifs <;> decide

theorem held_ranked (rules : Rules) (now : Seconds) (process : ProcessRecord) :
    (process.ranked rules now).Held := by
  obtain ⟨hlower, hupper⟩ := process.stateTier_range rules.graceWindow now
  refine ⟨process.stateTier rules.graceWindow now, hlower, hupper, ?_⟩
  rw [ranked, tier]
  cases process.floor <;> rfl

theorem held_lasting (rules : Rules) : Lasting rules Held where
  newcomer _ _ _ _ := held_ranked _ _ _
  note {process} reason now hheld := by
    cases reason <;> exact hheld
  renew _ _ _ := held_ranked _ _ _
  endAbilityStart hheld := hheld
  addBinder _ _ hheld := hheld
  dropBinder _ hheld := hheld
  addBinding _ _ hheld := hheld
  dropBinding _ hheld := hheld

namespace Held

theorem le_floor (hheld : process.Held) (hfloor : process.floor = some floor) :
    process.priority ≤ floor := by
  obtain ⟨tier, -, -, hpriority⟩ := hheld
  rw [hpriority, hfloor]
  exact Int.min_le_right _ _

/-- A priority is valid unless a floor below the range holds it there. -/
theorem isValid_iff (hheld : process.Held) :
    process.priority.isValid ↔ ∀ floor, process.floor = some floor → .lowest ≤ floor := by
  obtain ⟨tier, hlower, hupper, hpriority⟩ := hheld
  rw [hpriority, Priority.isValid, Bool.and_eq_true, decide_eq_true_eq, decide_eq_true_eq]
  have hrange : Priority.lowest ≤ tier ∧ tier ≤ .highest :=
    ⟨Int.le_trans (by decide) hlower, Int.le_trans hupper (by decide)⟩
  cases process.floor with
  | none => simpa using hrange
  | some floor =>
      simp only [Option.elim_some, Option.some.injEq, forall_eq']
      exact ⟨fun hvalid => Int.le_trans hvalid.1 (Int.min_le_right _ _), fun hfloor =>
        ⟨Int.le_min.2 ⟨hrange.1, hfloor⟩, Int.le_trans (Int.min_le_left _ _) hrange.2⟩⟩

end Held

theorem floor_note (reason : Reason) (now : Seconds) (process : ProcessRecord) :
    (process.note reason now).floor = process.floor := by
  cases reason <;> rfl

end ProcessRecord

namespace Bundle

variable {rules : Rules} {bundle : Bundle} {pid : Pid}

/-- Each process has the floor that is configured for the name of its bundle. -/
def Floored (rules : Rules) (bundle : Bundle) : Prop :=
  ∀ ⦃pid process⦄, bundle.process? pid = some process →
    process.floor = rules.floors.get? bundle.name

namespace Floored

theorem withState (hfloored : bundle.Floored rules) (state : BundleState) :
    (bundle.withState state).Floored rules := hfloored

theorem modifyProcess (hfloored : bundle.Floored rules) {change : ProcessRecord → ProcessRecord}
    (hkeeps : ∀ process, (change process).floor = process.floor) :
    (bundle.modifyProcess pid change).Floored rules := by
  intro other process hprocess
  rw [process?_modifyProcess] at hprocess
  split at hprocess
  · obtain ⟨former, hformer, rfl⟩ := Option.map_eq_some_iff.1 hprocess
    exact (hkeeps former).trans (hfloored hformer)
  · exact hfloored hprocess

theorem removeProcess (hfloored : bundle.Floored rules) (pid : Pid) :
    (bundle.removeProcess pid).Floored rules := by
  have hname : (bundle.removeProcess pid).name = bundle.name := by
    rw [Bundle.removeProcess]
    split <;> rfl
  intro other process hprocess
  rw [process?_removeProcess] at hprocess
  split at hprocess
  · cases hprocess
  · exact (hfloored hprocess).trans (congrArg _ hname.symm)

/-- A new process is given the floor of the bundle that it joins. -/
theorem putProcess (hfloored : bundle.Floored rules) (now : Seconds) (pid : Pid) (uid : Uid) :
    (bundle.putProcess (.newcomer rules now bundle.name pid uid)).Floored rules := by
  intro other process hprocess
  rw [process?_putProcess] at hprocess
  split at hprocess
  · rw [← Option.some.inj hprocess]
    rfl
  · exact hfloored hprocess

end Floored

end Bundle

namespace Table

variable {rules : Rules} {now : Seconds} {table : Table} {pid : Pid}

def Floored (rules : Rules) (table : Table) : Prop :=
  ∀ ⦃key bundle⦄, table.bundle? key = some bundle → bundle.Floored rules

theorem empty_floored (rules : Rules) : empty.Floored rules := by
  intro key bundle hbundle
  cases hbundle

namespace Floored

theorem modifyOwner (hfloored : table.Floored rules) {change : Bundle → Bundle}
    (hchange : ∀ {bundle}, bundle.Floored rules → (change bundle).Floored rules) :
    (table.modifyOwner pid change).Floored rules := by
  intro key bundle hbundle
  rw [bundle?_modifyOwner] at hbundle
  split at hbundle
  · obtain ⟨former, hformer, rfl⟩ := Option.map_eq_some_iff.1 hbundle
    exact hchange (hfloored hformer)
  · exact hfloored hbundle

theorem modifyProcess (hfloored : table.Floored rules) {change : ProcessRecord → ProcessRecord}
    (hkeeps : ∀ process, (change process).floor = process.floor) :
    (table.modifyProcess pid change).Floored rules :=
  hfloored.modifyOwner fun hbundle => hbundle.modifyProcess hkeeps

theorem refresh (hfloored : table.Floored rules) (pid : Pid) :
    (table.refresh rules now pid).Floored rules := by
  rw [Table.refresh]
  split
  · exact hfloored
  · exact hfloored.modifyOwner fun hbundle => hbundle.modifyProcess fun _ => rfl

theorem releaseBinder (hfloored : table.Floored rules) (pid binder : Pid) :
    (table.releaseBinder pid binder).Floored rules :=
  hfloored.modifyProcess fun _ => rfl

theorem releaseTarget (hfloored : table.Floored rules) (pid target : Pid) :
    (table.releaseTarget rules now pid target).Floored rules := by
  apply refresh
  exact hfloored.modifyProcess fun _ => rfl

theorem endAbilityStart (hfloored : table.Floored rules) (pid : Pid) :
    (table.endAbilityStart rules now pid).Floored rules := by
  apply refresh
  exact hfloored.modifyProcess fun _ => rfl

theorem detach (hfloored : table.Floored rules) (key : BundleKey) (pid : Pid) :
    (table.detach key pid).Floored rules := by
  intro found rest hrest
  rcases Consistent.bundle?_of_detach hrest with ⟨bundle, hbundle, -, rfl, -⟩ | ⟨hbundle, -⟩
  · exact (hfloored hbundle).removeProcess pid
  · exact hfloored hbundle

theorem remove (hfloored : table.Floored rules) (pid : Pid) :
    (table.remove rules now pid).Floored rules := by
  rw [Table.remove]
  cases table.owners.get? pid with
  | none => exact hfloored
  | some key =>
      have hdetached := hfloored.detach key pid
      cases table.process? pid with
      | none => exact hdetached
      | some process =>
          have hreleased := foldl_invariant (motive := Floored rules)
            (fun binder hstep => hstep.releaseBinder pid binder) hdetached process.boundBy.keys
          exact foldl_invariant (motive := Floored rules)
            (fun target hstep => hstep.releaseTarget pid target) hreleased process.bindsTo.keys

theorem track (hfloored : table.Floored rules) (identity : ResolvedIdentity) :
    (table.track rules now identity).Floored rules := by
  have hhost : (table.hostBundle now identity).Floored rules := by
    rw [hostBundle]
    cases hbundle : table.bundle? identity.key with
    | none =>
        intro pid process hprocess
        cases hprocess
    | some bundle => exact (hfloored hbundle).withState .active
  intro key bundle hbundle
  rw [bundle?_track] at hbundle
  split at hbundle
  · rw [← Option.some.inj hbundle]
    exact hhost.putProcess now identity.pid identity.uid
  · exact hfloored hbundle

theorem bind (hfloored : table.Floored rules) (binder target : Pid) :
    (table.bind binder target).Floored rules := by
  rw [Table.bind]
  split
  · apply modifyProcess
    · apply modifyProcess hfloored
      exact fun _ => rfl
    · exact fun _ => rfl
  · exact hfloored

theorem unbind (hfloored : table.Floored rules) (binder target : Pid) :
    (table.unbind binder target).Floored rules := by
  apply modifyProcess
  · apply modifyProcess hfloored
    exact fun _ => rfl
  · exact fun _ => rfl

theorem setState (hfloored : table.Floored rules) (key : BundleKey) (state : BundleState) :
    (table.setState key state).2.Floored rules := by
  intro found bundle hbundle
  rw [bundle?_setState] at hbundle
  split at hbundle
  · obtain ⟨former, hformer, rfl⟩ := Option.map_eq_some_iff.1 hbundle
    exact (hfloored hformer).withState state
  · exact hfloored hbundle

end Floored

theorem floored_partsKeep (rules : Rules) : PartsKeep rules (Floored rules) where
  remove _ pid hfloored := hfloored.remove pid
  track _ identity _ hfloored := hfloored.track identity
  note reason now _ hfloored := hfloored.modifyProcess (ProcessRecord.floor_note reason now)
  bind binder target hfloored := hfloored.bind binder target
  unbind binder target hfloored := hfloored.unbind binder target
  refresh _ pid hfloored := hfloored.refresh pid
  endAbilityStart _ pid hfloored := hfloored.endAbilityStart pid
  setState key state hfloored := hfloored.setState key state

end Table

end MemoryReclaim
