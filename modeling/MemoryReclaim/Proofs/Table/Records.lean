import MemoryReclaim.Proofs.Table.History

/-!
# Properties of every record

Many facts about a table are facts about each record in it by itself.  Such a fact holds
after every history once no change of a record ends it; the changes are few, and
`ProcessRecord.Lasting` lists them.
-/

namespace MemoryReclaim

namespace ProcessRecord

/-- A property of records that a new record has and no change of a record ends. -/
structure Lasting (rules : Rules) (holds : ProcessRecord → Prop) : Prop where
  newcomer : ∀ now name pid uid, holds (.newcomer rules now name pid uid)
  note : ∀ {process} reason now, holds process → holds (process.note reason now)
  renew : ∀ {process} now view, holds process → holds (process.renew rules now view)
  endAbilityStart : ∀ {process}, holds process → holds process.endAbilityStart
  addBinder : ∀ {process} pid uid, holds process →
    holds ({ process with isExtension := true }.addBinder pid uid)
  dropBinder : ∀ {process} pid, holds process → holds (process.dropBinder pid)
  addBinding : ∀ {process} pid uid, holds process → holds (process.addBinding pid uid)
  dropBinding : ∀ {process} pid, holds process → holds (process.dropBinding pid)

theorem Lasting.partedFrom {rules : Rules} {holds : ProcessRecord → Prop}
    (hlasting : Lasting rules holds) {peer : ProcessRecord} (hpeer : holds peer)
    (now : Seconds) (view : Pid → Bool) (gone : ProcessRecord) (pid other : Pid) :
    holds (gone.partedFrom rules now view pid other peer) := by
  have hunbound : holds (if gone.isBoundBy other then peer.dropBinding pid else peer) := by
    split
    · exact hlasting.dropBinding pid hpeer
    · exact hpeer
  simp only [ProcessRecord.partedFrom]
  split
  · exact hlasting.renew now view (hlasting.dropBinder pid hunbound)
  · exact hunbound

/-- Only an extension is ever bound or has a bind status. -/
def PlainUnlessExtension (process : ProcessRecord) : Prop :=
  process.isExtension = false → process.boundBy = .empty ∧ process.bindStatus = .unknown

theorem plainUnlessExtension_lasting (rules : Rules) :
    Lasting rules PlainUnlessExtension where
  newcomer _ _ _ _ _ := ⟨rfl, rfl⟩
  note {process} reason now hplain := by
    cases reason <;> exact hplain
  renew {process} now view hplain hextension := by
    have hbefore : process.isExtension = false := hextension
    have hstatus : (process.renew rules now view).bindStatus = process.bindStatus := by
      simp [ProcessRecord.renew, ranked, currentBindStatus, hbefore]
    exact ⟨(hplain hbefore).1, hstatus.trans (hplain hbefore).2⟩
  endAbilityStart hplain := hplain
  addBinder _ _ _ hextension := by cases hextension
  dropBinder {process} pid hplain hextension := by
    have hbefore := hplain hextension
    refine ⟨?_, hbefore.2⟩
    rw [ProcessRecord.dropBinder, hbefore.1]
    rfl
  addBinding _ _ hplain := hplain
  dropBinding _ hplain := hplain

end ProcessRecord

namespace Table

variable {rules : Rules} {holds : ProcessRecord → Prop} {table after : Table}

/-- Every record of a table has a property. -/
def All (holds : ProcessRecord → Prop) (table : Table) : Prop :=
  ∀ ⦃pid process⦄, table.process? pid = some process → holds process

theorem empty_all (holds : ProcessRecord → Prop) : All holds empty := by
  intro pid process hprocess
  cases hprocess

theorem All.map (hall : table.All holds) (change : Pid → ProcessRecord → ProcessRecord)
    (hlookup : ∀ pid, after.process? pid = (table.process? pid).map (change pid))
    (hchange : ∀ pid {process}, holds process → holds (change pid process)) :
    after.All holds := by
  intro pid process hprocess
  rw [hlookup] at hprocess
  obtain ⟨before, hbefore, rfl⟩ := Option.map_eq_some_iff.1 hprocess
  exact hchange pid (hall hbefore)

/-- The same for a change of the one record found under `pid`. -/
theorem All.mapAt {pid : Pid} (hall : table.All holds) {change : ProcessRecord → ProcessRecord}
    (hlookup : ∀ other, after.process? other =
      if pid = other then (table.process? other).map change else table.process? other)
    (hchange : ∀ {process}, holds process → holds (change process)) : after.All holds := by
  apply hall.map fun other => if pid = other then change else id
  · intro other
    rw [hlookup]
    split <;> simp
  · intro other process hprocess
    split
    · exact hchange hprocess
    · exact hprocess

/-- What lasts in each record is kept by every part of an operation. -/
theorem all_partsKeep (hlasting : ProcessRecord.Lasting rules holds) :
    PartsKeep rules (All holds) where
  remove {table} now pid hall := by
    intro other process hprocess
    cases hgone : table.process? pid with
    | none =>
        rw [process?_remove_untracked hgone] at hprocess
        exact hall hprocess
    | some gone =>
        rw [process?_remove hgone] at hprocess
        split at hprocess
        · contradiction
        · obtain ⟨peer, hpeer, rfl⟩ := Option.map_eq_some_iff.1 hprocess
          exact hlasting.partedFrom (hall hpeer) _ _ _ _ _
  track {table} now identity _ hall := by
    intro other process hprocess
    rw [process?_track] at hprocess
    split at hprocess
    · rw [← Option.some.inj hprocess]
      exact hlasting.newcomer _ _ _ _
    · exact hall hprocess
  note {table} reason now pid hall :=
    hall.mapAt (process?_modifyProcess table pid _) (hlasting.note reason now)
  bind {table} binder target hall := by
    cases hbinder : table.process? binder with
    | none => rwa [bind_of_untracked (.inl hbinder)]
    | some consumer =>
        cases htarget : table.process? target with
        | none => rwa [bind_of_untracked (.inr htarget)]
        | some extension =>
            apply hall.map _ (process?_bind hbinder htarget)
            intro other process hprocess
            have hmarked : holds (if target = other then
                { process with isExtension := true }.addBinder binder consumer.uid
                else process) := by
              split
              · exact hlasting.addBinder _ _ hprocess
              · exact hprocess
            simp only
            split
            · exact hlasting.addBinding _ _ hmarked
            · exact hmarked
  unbind {table} binder target hall := by
    apply hall.map _ fun other => process?_unbind binder target other table
    intro other process hprocess
    have hreleased : holds (if target = other then process.dropBinder binder else process) := by
      split
      · exact hlasting.dropBinder _ hprocess
      · exact hprocess
    simp only
    split
    · exact hlasting.dropBinding _ hreleased
    · exact hreleased
  refresh {table} now pid hall :=
    hall.mapAt (process?_refresh rules now table pid) (hlasting.renew now _)
  endAbilityStart {table} now pid hall :=
    hall.mapAt ((touches_endAbilityStart rules now).process?_step table pid)
      fun hprocess => hlasting.renew now _ (hlasting.endAbilityStart hprocess)
  setState {table} key state hall := by
    intro pid process hprocess
    rw [process?_setState] at hprocess
    exact hall hprocess

theorem run_all (hlasting : ProcessRecord.Lasting rules holds) (history : History) :
    (empty.run rules history).All holds :=
  (all_partsKeep hlasting).run (empty_all holds) history

end Table

end MemoryReclaim
