import MemoryReclaim.Proofs.Table.Records

/-!
# Both sides of a binding

A binding between two processes is kept in both records, each with the user of the peer.
Seen as functions of a pair of pids, the two sides change together: an operation either
leaves both alone, makes or ends one pair on both, or drops every pair that a process
belongs to.  So they always name the same pairs, and only processes that exist.
-/

namespace MemoryReclaim

/-- A change that leaves alone what bindings are made of. -/
structure ProcessRecord.KeepsBindings (change : ProcessRecord → ProcessRecord) : Prop where
  uid_eq : ∀ process, (change process).uid = process.uid
  boundBy_eq : ∀ process, (change process).boundBy = process.boundBy
  bindsTo_eq : ∀ process, (change process).bindsTo = process.bindsTo

namespace Table

variable {rules : Rules} {now : Seconds} {table after : Table} {pid binder target : Pid}

def user? (table : Table) (pid : Pid) : Option Uid :=
  (table.process? pid).map ProcessRecord.uid

/-- The user that `target` has on record for a process bound to it. -/
def binderUser? (table : Table) (binder target : Pid) : Option Uid :=
  (table.process? target).bind fun extension => extension.boundBy.get? binder

/-- The user that `binder` has on record for an extension that it is bound to. -/
def targetUser? (table : Table) (binder target : Pid) : Option Uid :=
  (table.process? binder).bind fun consumer => consumer.bindsTo.get? target

/-- The two sides name the same pairs, and each the user that the peer has now. -/
structure Paired (table : Table) : Prop where
  isSome_iff : ∀ binder target,
    (table.binderUser? binder target).isSome ↔ (table.targetUser? binder target).isSome
  binder_uid : ∀ {binder target uid}, table.binderUser? binder target = some uid →
    table.user? binder = some uid
  target_uid : ∀ {binder target uid}, table.targetUser? binder target = some uid →
    table.user? target = some uid

theorem empty_paired : Paired empty := by
  constructor <;> simp [empty, binderUser?, targetUser?, process?]

namespace Paired

theorem congr (hpaired : table.Paired) (huser : after.user? = table.user?)
    (hbinder : after.binderUser? = table.binderUser?)
    (htarget : after.targetUser? = table.targetUser?) : after.Paired where
  isSome_iff := by rw [hbinder, htarget]; exact hpaired.isSome_iff
  binder_uid := by rw [hbinder, huser]; exact hpaired.binder_uid
  target_uid := by rw [htarget, huser]; exact hpaired.target_uid

/-- Whoever is bound to an extension is tracked, and has the other side of the binding. -/
theorem exists_binder (hpaired : table.Paired) {extension : ProcessRecord}
    (hextension : table.process? target = some extension)
    (hbound : extension.isBoundBy binder) :
    ∃ consumer, table.process? binder = some consumer ∧ consumer.bindsToPid target := by
  have hbinder : (table.binderUser? binder target).isSome := by
    rw [binderUser?, hextension]
    exact hbound
  have htarget := (hpaired.isSome_iff binder target).1 hbinder
  rw [targetUser?, Option.isSome_bind, Option.any_eq_true] at htarget
  exact htarget

/-- Changes of other parts of records do not matter to bindings. -/
theorem map (hpaired : table.Paired) (change : Pid → ProcessRecord → ProcessRecord)
    (hkeeps : ∀ pid, ProcessRecord.KeepsBindings (change pid))
    (hlookup : ∀ pid, after.process? pid = (table.process? pid).map (change pid)) :
    after.Paired := by
  apply hpaired.congr
  · funext pid
    simp [user?, hlookup, Function.comp_def, (hkeeps pid).uid_eq]
  · funext binder target
    simp [binderUser?, hlookup, Option.bind_map, (hkeeps target).boundBy_eq]
  · funext binder target
    simp [targetUser?, hlookup, Option.bind_map, (hkeeps binder).bindsTo_eq]

/-- The same for a change of those records only whose pids satisfy a condition. -/
theorem mapIf (hpaired : table.Paired) {condition : Pid → Prop} [DecidablePred condition]
    {change : ProcessRecord → ProcessRecord}
    (hlookup : ∀ pid, after.process? pid =
      if condition pid then (table.process? pid).map change else table.process? pid)
    (hkeeps : ProcessRecord.KeepsBindings change) : after.Paired := by
  apply hpaired.map fun pid => if condition pid then change else id
  · intro pid
    split
    · exact hkeeps
    · exact ⟨fun _ => rfl, fun _ => rfl, fun _ => rfl⟩
  · intro pid
    rw [hlookup]
    split <;> simp

theorem note (hpaired : table.Paired) (reason : Reason) (now : Seconds) (pid : Pid) :
    (table.modifyProcess pid (ProcessRecord.note reason now)).Paired :=
  hpaired.mapIf (process?_modifyProcess table pid _)
    ⟨fun _ => by cases reason <;> rfl, fun _ => by cases reason <;> rfl,
      fun _ => by cases reason <;> rfl⟩

theorem refresh (hpaired : table.Paired) : (table.refresh rules now pid).Paired :=
  hpaired.mapIf (process?_refresh rules now table pid) ⟨fun _ => rfl, fun _ => rfl, fun _ => rfl⟩

theorem endAbilityStart (hpaired : table.Paired) (pid : Pid) :
    (table.endAbilityStart rules now pid).Paired :=
  hpaired.mapIf ((touches_endAbilityStart rules now).process?_step table pid)
    ⟨fun _ => rfl, fun _ => rfl, fun _ => rfl⟩

theorem setState (hpaired : table.Paired) (key : BundleKey) (state : BundleState) :
    (table.setState key state).2.Paired := by
  apply hpaired.congr
  · funext pid
    simp [user?]
  · funext binder target
    simp [binderUser?]
  · funext binder target
    simp [targetUser?]

/-! ## Processes that come and go -/

theorem user?_remove (table : Table) (pid other : Pid) :
    (table.remove rules now pid).user? other =
      if pid = other then none else table.user? other := by
  rw [user?, user?]
  cases hgone : table.process? pid with
  | none =>
      rw [process?_remove_untracked hgone]
      split
      · next hother => rw [← hother, hgone]; rfl
      · rfl
  | some gone =>
      rw [process?_remove hgone]
      split
      · rfl
      · simp [Function.comp_def]

/-- A pid that is not tracked is on no side of a binding. -/
theorem unbound_of_untracked (hpaired : table.Paired) (habsent : table.process? pid = none)
    (hpid : pid = binder ∨ pid = target) :
    table.binderUser? binder target = none ∧ table.targetUser? binder target = none := by
  have hboth := hpaired.isSome_iff binder target
  rcases hpid with rfl | rfl
  · have htarget : table.targetUser? pid target = none := by simp [targetUser?, habsent]
    simpa [htarget] using hboth
  · have hbinder : table.binderUser? binder pid = none := by simp [binderUser?, habsent]
    simpa [hbinder] using hboth.symm

/-- The end of a process ends its bindings on the side of every extension. -/
theorem binderUser?_remove (hpaired : table.Paired) (pid binder target : Pid) :
    (table.remove rules now pid).binderUser? binder target =
      if pid = binder ∨ pid = target then none else table.binderUser? binder target := by
  cases hgone : table.process? pid with
  | none =>
      rw [binderUser?, process?_remove_untracked hgone]
      split
      · next hpid => exact (hpaired.unbound_of_untracked hgone hpid).1
      · rfl
  | some gone =>
      rw [binderUser?, process?_remove hgone]
      by_cases htarget : pid = target
      · simp [htarget]
      by_cases hbinder : pid = binder
      · subst hbinder
        cases hextension : table.process? target with
        | none => simp
        | some extension =>
            have hboth := hpaired.isSome_iff pid target
            simp only [binderUser?, targetUser?, hgone, hextension, Option.bind_some] at hboth
            by_cases hbinds : gone.bindsToPid target
            · simp [htarget, ProcessRecord.boundBy_partedFrom, hbinds]
            · have hnone : extension.boundBy.get? pid = none := by
                rw [← Option.not_isSome_iff_eq_none, hboth]
                exact hbinds
              simp [htarget, ProcessRecord.boundBy_partedFrom, hnone]
      · simp [binderUser?, htarget, hbinder, Option.bind_map, ProcessRecord.boundBy_partedFrom]

/-- The end of a process ends its bindings on the side of every binder. -/
theorem targetUser?_remove (hpaired : table.Paired) (pid binder target : Pid) :
    (table.remove rules now pid).targetUser? binder target =
      if pid = binder ∨ pid = target then none else table.targetUser? binder target := by
  cases hgone : table.process? pid with
  | none =>
      rw [targetUser?, process?_remove_untracked hgone]
      split
      · next hpid => exact (hpaired.unbound_of_untracked hgone hpid).2
      · rfl
  | some gone =>
      rw [targetUser?, process?_remove hgone]
      by_cases hbinder : pid = binder
      · simp [hbinder]
      by_cases htarget : pid = target
      · subst htarget
        cases hconsumer : table.process? binder with
        | none => simp
        | some consumer =>
            have hboth := hpaired.isSome_iff binder pid
            simp only [binderUser?, targetUser?, hgone, hconsumer, Option.bind_some] at hboth
            by_cases hbound : gone.isBoundBy binder
            · simp [hbinder, ProcessRecord.bindsTo_partedFrom, hbound]
            · have hnone : consumer.bindsTo.get? pid = none := by
                rw [← Option.not_isSome_iff_eq_none, ← hboth]
                exact hbound
              simp [hbinder, ProcessRecord.bindsTo_partedFrom, hnone]
      · simp [targetUser?, htarget, hbinder, Option.bind_map, ProcessRecord.bindsTo_partedFrom]

theorem remove (hpaired : table.Paired) (pid : Pid) : (table.remove rules now pid).Paired where
  isSome_iff binder target := by
    rw [hpaired.binderUser?_remove, hpaired.targetUser?_remove]
    split
    · rfl
    · exact hpaired.isSome_iff binder target
  binder_uid {binder target uid} hbound := by
    rw [hpaired.binderUser?_remove] at hbound
    rw [user?_remove]
    split at hbound
    · contradiction
    · next hpid =>
      rw [if_neg fun hbinder => hpid (.inl hbinder)]
      exact hpaired.binder_uid hbound
  target_uid {binder target uid} hbound := by
    rw [hpaired.targetUser?_remove] at hbound
    rw [user?_remove]
    split at hbound
    · contradiction
    · next hpid =>
      rw [if_neg fun htarget => hpid (.inr htarget)]
      exact hpaired.target_uid hbound

/-- A new process has no bindings, and none were left for its pid. -/
theorem track (hpaired : table.Paired) {identity : ResolvedIdentity}
    (huntracked : table.process? identity.pid = none) :
    (table.track rules now identity).Paired := by
  have hbinder : (table.track rules now identity).binderUser? = table.binderUser? := by
    funext binder target
    rw [binderUser?, binderUser?, process?_track]
    split
    · next htarget => rw [← htarget, huntracked]; rfl
    · rfl
  have htarget : (table.track rules now identity).targetUser? = table.targetUser? := by
    funext binder target
    rw [targetUser?, targetUser?, process?_track]
    split
    · next hbinder => rw [← hbinder, huntracked]; rfl
    · rfl
  have huser : ∀ {pid uid}, table.user? pid = some uid →
      (table.track rules now identity).user? pid = some uid := by
    intro pid uid hpid
    rw [user?, process?_track, if_neg]
    · exact hpid
    · rintro rfl
      simp [user?, huntracked] at hpid
  refine ⟨?_, ?_, ?_⟩
  · rw [hbinder, htarget]
    exact hpaired.isSome_iff
  · intro binder target uid hbound
    rw [hbinder] at hbound
    exact huser (hpaired.binder_uid hbound)
  · intro binder target uid hbound
    rw [htarget] at hbound
    exact huser (hpaired.target_uid hbound)

/-! ## Bindings that are made and ended -/

/-- A binding that is made is made on both sides, with the users as they are. -/
theorem views_bind {consumer extension : ProcessRecord}
    (hbinder : table.process? binder = some consumer)
    (htarget : table.process? target = some extension) (first second : Pid) :
    (table.bind binder target).user? first = table.user? first ∧
    (table.bind binder target).binderUser? first second =
      (if binder = first ∧ target = second then some consumer.uid
        else table.binderUser? first second) ∧
    (table.bind binder target).targetUser? first second =
      (if binder = first ∧ target = second then some extension.uid
        else table.targetUser? first second) := by
  have hlookup := process?_bind hbinder htarget
  refine ⟨?_, ?_, ?_⟩
  · rw [user?, user?, hlookup, Option.map_map]
    congr 1
    funext process
    simp only [Function.comp_def]
    split <;> split <;> rfl
  · rw [binderUser?, binderUser?, hlookup]
    by_cases hsecond : target = second
    · subst hsecond
      rw [htarget]
      by_cases hself : binder = target
      · simp [hself, ProcessRecord.addBinder, ProcessRecord.addBinding]
      · simp [hself, ProcessRecord.addBinder]
    · cases table.process? second with
      | none => simp [hsecond]
      | some process =>
          by_cases hself : binder = second <;>
            simp [hsecond, hself, ProcessRecord.addBinding]
  · rw [targetUser?, targetUser?, hlookup]
    by_cases hfirst : binder = first
    · subst hfirst
      rw [hbinder]
      by_cases hself : target = binder
      · simp [hself, ProcessRecord.addBinder, ProcessRecord.addBinding]
      · simp [hself, ProcessRecord.addBinding]
    · cases table.process? first with
      | none => simp [hfirst]
      | some process =>
          by_cases hself : target = first <;>
            simp [hfirst, hself, ProcessRecord.addBinder]

/-- Setting both sides of one pair, to the users as they are or to none, keeps the rest. -/
theorem setPair (hpaired : table.Paired) {left right : Option Uid}
    (hboth : left.isSome ↔ right.isSome)
    (hleft : ∀ {uid}, left = some uid → table.user? binder = some uid)
    (hright : ∀ {uid}, right = some uid → table.user? target = some uid)
    (hviews : ∀ first second,
      after.user? first = table.user? first ∧
      after.binderUser? first second =
        (if binder = first ∧ target = second then left else table.binderUser? first second) ∧
      after.targetUser? first second =
        (if binder = first ∧ target = second then right
          else table.targetUser? first second)) : after.Paired where
  isSome_iff first second := by
    obtain ⟨-, hbinder, htarget⟩ := hviews first second
    rw [hbinder, htarget]
    split
    · exact hboth
    · exact hpaired.isSome_iff first second
  binder_uid {first second uid} hbound := by
    obtain ⟨huser, hbinder, -⟩ := hviews first second
    rw [hbinder] at hbound
    rw [huser]
    split at hbound
    · next hpair =>
      rw [← hpair.1]
      exact hleft hbound
    · exact hpaired.binder_uid hbound
  target_uid {first second uid} hbound := by
    obtain ⟨-, -, htarget⟩ := hviews first second
    rw [htarget] at hbound
    rw [(hviews second first).1]
    split at hbound
    · next hpair =>
      rw [← hpair.2]
      exact hright hbound
    · exact hpaired.target_uid hbound

theorem bind (hpaired : table.Paired) (binder target : Pid) :
    (table.bind binder target).Paired := by
  cases hbinder : table.process? binder with
  | none => rwa [bind_of_untracked (.inl hbinder)]
  | some consumer =>
      cases htarget : table.process? target with
      | none => rwa [bind_of_untracked (.inr htarget)]
      | some extension =>
          apply hpaired.setPair _ _ _ (views_bind hbinder htarget)
          · exact iff_of_true rfl rfl
          · intro uid huid
            rw [user?, hbinder]
            exact huid
          · intro uid huid
            rw [user?, htarget]
            exact huid

/-- A binding that is ended is ended on both sides. -/
theorem views_unbind (table : Table) (binder target first second : Pid) :
    (table.unbind binder target).user? first = table.user? first ∧
    (table.unbind binder target).binderUser? first second =
      (if binder = first ∧ target = second then none else table.binderUser? first second) ∧
    (table.unbind binder target).targetUser? first second =
      (if binder = first ∧ target = second then none
        else table.targetUser? first second) := by
  refine ⟨?_, ?_, ?_⟩
  · rw [user?, user?, process?_unbind, Option.map_map]
    congr 1
    funext process
    simp only [Function.comp_def]
    split <;> split <;> rfl
  · rw [binderUser?, binderUser?, process?_unbind]
    cases table.process? second with
    | none => simp
    | some process =>
        by_cases hsecond : target = second <;> by_cases hself : binder = second <;>
          simp [hsecond, hself, ProcessRecord.dropBinder, ProcessRecord.dropBinding]
  · rw [targetUser?, targetUser?, process?_unbind]
    cases table.process? first with
    | none => simp
    | some process =>
        by_cases hfirst : binder = first <;> by_cases hself : target = first <;>
          simp [hfirst, hself, ProcessRecord.dropBinder, ProcessRecord.dropBinding]

theorem unbind (hpaired : table.Paired) (binder target : Pid) :
    (table.unbind binder target).Paired := by
  apply hpaired.setPair _ _ _ (views_unbind table binder target)
  · exact Iff.rfl
  · intro uid huid
    cases huid
  · intro uid huid
    cases huid

end Paired

theorem paired_partsKeep (rules : Rules) : PartsKeep rules Paired where
  remove _ pid hpaired := hpaired.remove pid
  track _ _ huntracked hpaired := hpaired.track (process?_of_ownerless huntracked)
  note reason now pid hpaired := hpaired.note reason now pid
  bind binder target hpaired := hpaired.bind binder target
  unbind binder target hpaired := hpaired.unbind binder target
  refresh _ _ hpaired := hpaired.refresh
  endAbilityStart _ pid hpaired := hpaired.endAbilityStart pid
  setState key state hpaired := hpaired.setState key state

theorem run_paired (rules : Rules) (history : History) : (empty.run rules history).Paired :=
  (paired_partsKeep rules).run empty_paired history

/-- After any history, whatever its times, an extension lists a binder exactly when the
binder lists the extension; every peer that a record names is tracked and has the user on
record; and only extensions are bound. -/
theorem bindings_symmetric (rules : Rules) (history : History) :
    let table := empty.run rules history
    (∀ target binder,
      (∃ extension, table.process? target = some extension ∧ extension.isBoundBy binder) ↔
        ∃ consumer, table.process? binder = some consumer ∧ consumer.bindsToPid target) ∧
    (∀ pid process peer uid, table.process? pid = some process →
      process.boundBy.get? peer = some uid ∨ process.bindsTo.get? peer = some uid →
        ∃ other, table.process? peer = some other ∧ other.uid = uid) ∧
    ∀ pid process, table.process? pid = some process →
      process.boundBy.isEmpty = false → process.isExtension := by
  intro table
  have hpaired : table.Paired := run_paired rules history
  have hplain : table.All ProcessRecord.PlainUnlessExtension :=
    run_all (ProcessRecord.plainUnlessExtension_lasting rules) history
  constructor
  · intro target binder
    have hbinder : (table.binderUser? binder target).isSome ↔
        ∃ extension, table.process? target = some extension ∧ extension.isBoundBy binder := by
      rw [binderUser?, Option.isSome_bind, Option.any_eq_true]
      rfl
    have htarget : (table.targetUser? binder target).isSome ↔
        ∃ consumer, table.process? binder = some consumer ∧ consumer.bindsToPid target := by
      rw [targetUser?, Option.isSome_bind, Option.any_eq_true]
      rfl
    rw [← hbinder, ← htarget]
    exact hpaired.isSome_iff binder target
  constructor
  · intro pid process peer uid hprocess hpeer
    have huser : table.user? peer = some uid := by
      rcases hpeer with hbound | hbinds
      · have hbinder : table.binderUser? peer pid = some uid := by
          rw [binderUser?, hprocess]
          exact hbound
        exact hpaired.binder_uid hbinder
      · have htarget : table.targetUser? pid peer = some uid := by
          rw [targetUser?, hprocess]
          exact hbinds
        exact hpaired.target_uid htarget
    exact Option.map_eq_some_iff.1 huser
  · intro pid process hprocess hbound
    by_contra hextension
    have hempty := (hplain hprocess (by simpa using hextension)).1
    rw [hempty] at hbound
    cases hbound

end Table

end MemoryReclaim
