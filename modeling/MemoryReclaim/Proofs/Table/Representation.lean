import MemoryReclaim.Proofs.Table.History

/-!
# Bundles and owners agree

A table knows the owner of a process twice: the bundle holds the record, and the index of
owners holds the key of the bundle.  `Consistent` says that the two agree and that every
stored bundle is well formed.  Every operation keeps it at every time, and so no lookup
of a table ever ends half way: a pid with an owner has a record.
-/

namespace MemoryReclaim

theorem Bundle.contains_removeProcess (bundle : Bundle) (pid other : Pid) :
    (bundle.removeProcess pid).procs.contains other ↔
      pid ≠ other ∧ bundle.procs.contains other := by
  rw [contains_procs, contains_procs, process?_removeProcess]
  by_cases hother : pid = other <;> simp [hother]

namespace Table

variable {rules : Rules} {now : Seconds} {table after : Table} {key : BundleKey} {pid : Pid}

structure Consistent (table : Table) : Prop where
  owner_iff : ∀ {pid key}, table.owners.get? pid = some key ↔
    ∃ bundle, table.bundle? key = some bundle ∧ bundle.procs.contains pid
  key_eq : ∀ {key bundle}, table.bundle? key = some bundle → bundle.key = key
  sound : ∀ {key bundle}, table.bundle? key = some bundle → bundle.Sound

theorem empty_consistent : Consistent empty where
  owner_iff := by simp [empty, bundle?]
  key_eq := by simp [empty, bundle?]
  sound := by simp [empty, bundle?]

namespace Consistent

/-- A stored record is the one found under its pid. -/
theorem process?_eq {bundle : Bundle} {process : ProcessRecord} (hconsistent : table.Consistent)
    (hbundle : table.bundle? key = some bundle) (hprocess : bundle.process? pid = some process) :
    table.process? pid = some process := by
  have howner : table.owners.get? pid = some key :=
    hconsistent.owner_iff.2 ⟨bundle, hbundle, by simp [Bundle.contains_procs, hprocess]⟩
  rw [process?_of_owner howner hbundle, hprocess]

theorem exists_process (hconsistent : table.Consistent)
    (howner : table.owners.get? pid = some key) :
    ∃ bundle process, table.bundle? key = some bundle ∧ bundle.process? pid = some process := by
  obtain ⟨bundle, hbundle, hcontains⟩ := hconsistent.owner_iff.1 howner
  obtain ⟨process, hprocess⟩ := Option.isSome_iff_exists.1 hcontains
  exact ⟨bundle, process, hbundle, hprocess⟩

theorem pid_eq {process : ProcessRecord} (hconsistent : table.Consistent)
    (hprocess : table.process? pid = some process) : process.pid = pid := by
  obtain ⟨key, bundle, -, hbundle, hrecord⟩ := process?_eq_some_iff.1 hprocess
  exact ((hconsistent.sound hbundle).fits hrecord).pid_eq

/-! ## Changes within a bundle -/

/-- Bundles may change by themselves, as long as each stays sound, under its key and with
the same pids. -/
theorem mapBundles (hconsistent : table.Consistent) {change : BundleKey → Bundle → Bundle}
    (howners : after.owners = table.owners)
    (hlookup : ∀ key, after.bundle? key = (table.bundle? key).map (change key))
    (hsound : ∀ key {bundle : Bundle}, bundle.Sound → (change key bundle).Sound)
    (hkey : ∀ key bundle, (change key bundle).key = bundle.key)
    (hcontains : ∀ key bundle other,
      (change key bundle).procs.contains other = bundle.procs.contains other) :
    after.Consistent where
  owner_iff {pid key} := by
    rw [howners, hconsistent.owner_iff, hlookup]
    simp [hcontains]
  key_eq {key bundle} hbundle := by
    rw [hlookup] at hbundle
    obtain ⟨before, hbefore, rfl⟩ := Option.map_eq_some_iff.1 hbundle
    rw [hkey, hconsistent.key_eq hbefore]
  sound {key bundle} hbundle := by
    rw [hlookup] at hbundle
    obtain ⟨before, hbefore, rfl⟩ := Option.map_eq_some_iff.1 hbundle
    exact hsound key (hconsistent.sound hbefore)

theorem modifyOwner {change : Bundle → Bundle} (hconsistent : table.Consistent)
    (hsound : ∀ {bundle : Bundle}, bundle.Sound → (change bundle).Sound)
    (hkey : ∀ bundle, (change bundle).key = bundle.key)
    (hcontains : ∀ bundle other,
      (change bundle).procs.contains other = bundle.procs.contains other) :
    (table.modifyOwner pid change).Consistent := by
  apply hconsistent.mapBundles (owners_modifyOwner table pid change)
    (bundle?_modifyOwner_eq_map table pid change)
  · intro key bundle hbundle
    split
    · exact hsound hbundle
    · exact hbundle
  · intro key bundle
    split
    · exact hkey bundle
    · rfl
  · intro key bundle other
    split
    · exact hcontains bundle other
    · rfl

theorem contains_modifyProcess (bundle : Bundle) (pid other : Pid)
    (change : ProcessRecord → ProcessRecord) :
    (bundle.modifyProcess pid change).procs.contains other = bundle.procs.contains other := by
  rw [Bundle.contains_procs, Bundle.contains_procs, Bundle.process?_modifyProcess]
  split <;> simp

theorem modifyProcess {change : ProcessRecord → ProcessRecord} (hconsistent : table.Consistent)
    (hkeeps : ProcessRecord.KeepsPlace change) : (table.modifyProcess pid change).Consistent :=
  hconsistent.modifyOwner (fun hsound => hsound.modifyProcess hkeeps) (fun _ => rfl)
    (fun bundle other => contains_modifyProcess bundle pid other change)

theorem refresh (hconsistent : table.Consistent) : (table.refresh rules now pid).Consistent := by
  rw [Table.refresh]
  split
  · exact hconsistent
  · exact hconsistent.modifyOwner
      (fun hsound => hsound.updatePriority_modifyProcess fun hfits =>
        hfits.renew rules now table.isForeground)
      (fun _ => rfl) (fun bundle other => contains_modifyProcess bundle pid other _)

theorem releaseBinder (hconsistent : table.Consistent) (pid binder : Pid) :
    (table.releaseBinder pid binder).Consistent :=
  hconsistent.modifyProcess (ProcessRecord.keepsPlace_dropBinding pid)

theorem releaseTarget (hconsistent : table.Consistent) (pid target : Pid) :
    (table.releaseTarget rules now pid target).Consistent :=
  (hconsistent.modifyProcess (ProcessRecord.keepsPlace_dropBinder pid)).refresh

theorem endAbilityStart (hconsistent : table.Consistent) (pid : Pid) :
    (table.endAbilityStart rules now pid).Consistent :=
  (hconsistent.modifyProcess ProcessRecord.keepsPlace_endAbilityStart).refresh

/-! ## Processes that come and go -/

/-- A bundle that is still there has lost `pid`, or never was the one to lose it. -/
theorem bundle?_of_detach {found : BundleKey} {rest : Bundle}
    (hrest : (table.detach key pid).bundle? found = some rest) :
    (∃ bundle, table.bundle? found = some bundle ∧ key = found ∧
      bundle.removeProcess pid = rest ∧ rest.procs.isEmpty = false) ∨
    (table.bundle? found = some rest ∧ key ≠ found) := by
  rw [bundle?_detach] at hrest
  split at hrest
  · next hfound =>
    obtain ⟨hsome, hnonempty⟩ := Option.filter_eq_some_iff.1 hrest
    obtain ⟨bundle, hbundle, hremoved⟩ := Option.map_eq_some_iff.1 hsome
    exact .inl ⟨bundle, hbundle, hfound, hremoved, by simpa using hnonempty⟩
  · next hfound => exact .inr ⟨hrest, hfound⟩

theorem contains_detach (hconsistent : table.Consistent)
    (howner : table.owners.get? pid = some key) {found : BundleKey} {other : Pid} :
    (∃ rest, (table.detach key pid).bundle? found = some rest ∧ rest.procs.contains other) ↔
      pid ≠ other ∧ ∃ bundle, table.bundle? found = some bundle ∧
        bundle.procs.contains other := by
  constructor
  · rintro ⟨rest, hrest, hcontains⟩
    rcases bundle?_of_detach hrest with ⟨bundle, hbundle, -, rfl, -⟩ | ⟨hbundle, hfound⟩
    · obtain ⟨hpid, hbefore⟩ := (bundle.contains_removeProcess pid other).1 hcontains
      exact ⟨hpid, bundle, hbundle, hbefore⟩
    · have hother := hconsistent.owner_iff.2 ⟨rest, hbundle, hcontains⟩
      have hpid : pid ≠ other := by
        rintro rfl
        exact hfound (Option.some.inj (howner.symm.trans hother))
      exact ⟨hpid, rest, hbundle, hcontains⟩
  · rintro ⟨hpid, bundle, hbundle, hcontains⟩
    rw [bundle?_detach]
    by_cases hfound : key = found
    · have hrest := (bundle.contains_removeProcess pid other).2 ⟨hpid, hcontains⟩
      have hnonempty : (bundle.removeProcess pid).procs.isEmpty = false :=
        OrdMap.isEmpty_eq_false_iff.2 ⟨other, Option.isSome_iff_exists.1 hrest⟩
      exact ⟨bundle.removeProcess pid, by simp [hfound, hbundle, hnonempty], hrest⟩
    · exact ⟨bundle, by simp [hfound, hbundle], hcontains⟩

/-- The record, the index entry and, with the last record, the bundle go together. -/
theorem detach (hconsistent : table.Consistent) (howner : table.owners.get? pid = some key) :
    (table.detach key pid).Consistent where
  owner_iff {other found} := by
    rw [owners_detach, OrdMap.get?_erase, hconsistent.contains_detach howner,
      ← hconsistent.owner_iff]
    by_cases hpid : pid = other <;> simp [hpid]
  key_eq {found rest} hrest := by
    rcases bundle?_of_detach hrest with ⟨bundle, hbundle, -, rfl, -⟩ | ⟨hbundle, -⟩
    · rw [← hconsistent.key_eq hbundle, Bundle.removeProcess]
      split <;> rfl
    · exact hconsistent.key_eq hbundle
  sound {found rest} hrest := by
    rcases bundle?_of_detach hrest with ⟨bundle, hbundle, -, rfl, hnonempty⟩ | ⟨hbundle, -⟩
    · exact (hconsistent.sound hbundle).removeProcess hnonempty
    · exact hconsistent.sound hbundle

theorem remove (hconsistent : table.Consistent) (pid : Pid) :
    (table.remove rules now pid).Consistent := by
  rw [Table.remove]
  cases howner : table.owners.get? pid with
  | none => exact hconsistent
  | some key =>
      have hdetached := hconsistent.detach howner
      cases table.process? pid with
      | none => exact hdetached
      | some process =>
          have hreleased := foldl_invariant (motive := Consistent)
            (fun binder hstep => hstep.releaseBinder pid binder) hdetached process.boundBy.keys
          exact foldl_invariant (motive := Consistent)
            (fun target hstep => hstep.releaseTarget pid target) hreleased process.bindsTo.keys

variable {identity : ResolvedIdentity}

theorem hostBundle_key (hconsistent : table.Consistent) :
    (table.hostBundle now identity).key = identity.key := by
  rw [hostBundle]
  cases hbundle : table.bundle? identity.key with
  | none => rfl
  | some bundle =>
      have hkey : bundle.key = identity.key := hconsistent.key_eq hbundle
      exact hkey

theorem hostBundle_fits (hconsistent : table.Consistent) {other : Pid} {record : ProcessRecord}
    (hrecord : (table.hostBundle now identity).process? other = some record) :
    record.Fits other (table.hostBundle now identity).uid := by
  rw [hostBundle] at hrecord ⊢
  cases hbundle : table.bundle? identity.key with
  | none => rw [hbundle] at hrecord; cases hrecord
  | some bundle =>
      rw [hbundle] at hrecord
      exact (hconsistent.sound hbundle).fits hrecord

theorem hostBundle_contains (hconsistent : table.Consistent) (other : Pid) :
    (table.hostBundle now identity).procs.contains other ↔
      table.owners.get? other = some identity.key := by
  rw [hconsistent.owner_iff]
  rw [hostBundle]
  cases hbundle : table.bundle? identity.key with
  | none =>
      simp only [Option.getD_none, reduceCtorEq, false_and, exists_false, iff_false]
      exact Bool.false_ne_true
  | some bundle =>
      simp only [Option.getD_some, Option.some.injEq, exists_eq_left']
      rfl

theorem hostBundle_put_sound (hconsistent : table.Consistent) (name : String) :
    ((table.hostBundle now identity).putProcess
      (.newcomer rules now name identity.pid identity.uid)).Sound := by
  have huid : (table.hostBundle now identity).uid = identity.uid :=
    congrArg BundleKey.uid hconsistent.hostBundle_key
  apply Bundle.Sound.putProcess
  · rw [huid]
    exact ProcessRecord.newcomer_fits _ _ _ _ _
  · exact hconsistent.hostBundle_fits

/-- A pid that has no owner yet can be given one. -/
theorem track (hconsistent : table.Consistent)
    (huntracked : table.owners.get? identity.pid = none) :
    (table.track rules now identity).Consistent where
  owner_iff {other found} := by
    rw [owners_track, bundle?_track]
    by_cases hfound : identity.key = found
    · subst hfound
      simp only [if_true, Option.some.injEq, exists_eq_left', Bundle.contains_procs,
        Bundle.process?_putProcess]
      by_cases hother : identity.pid = other
      · rw [if_pos hother, if_pos (by exact hother)]
        simp
      · rw [if_neg hother, if_neg (by exact hother), ← Bundle.contains_procs,
          hconsistent.hostBundle_contains]
    · rw [if_neg hfound, ← hconsistent.owner_iff]
      by_cases hother : identity.pid = other
      · simp [← hother, huntracked, hfound]
      · rw [if_neg hother]
  key_eq {found bundle} hbundle := by
    rw [bundle?_track] at hbundle
    split at hbundle
    · next hfound =>
      have hkey : (table.hostBundle now identity).key = identity.key :=
        hconsistent.hostBundle_key
      rw [← Option.some.inj hbundle, ← hfound]
      exact hkey
    · exact hconsistent.key_eq hbundle
  sound {found bundle} hbundle := by
    rw [bundle?_track] at hbundle
    split at hbundle
    · rw [← Option.some.inj hbundle]
      exact hconsistent.hostBundle_put_sound _
    · exact hconsistent.sound hbundle

/-! ## Bindings and states -/

theorem bind (hconsistent : table.Consistent) (binder target : Pid) :
    (table.bind binder target).Consistent := by
  rw [Table.bind]
  split
  · refine modifyProcess (modifyProcess hconsistent ?_) ?_ <;>
      exact ⟨fun _ => rfl, fun _ => rfl, fun _ => rfl⟩
  · exact hconsistent

theorem unbind (hconsistent : table.Consistent) (binder target : Pid) :
    (table.unbind binder target).Consistent :=
  (hconsistent.modifyProcess (ProcessRecord.keepsPlace_dropBinder binder)).modifyProcess
    (ProcessRecord.keepsPlace_dropBinding target)

theorem setState (hconsistent : table.Consistent) (key : BundleKey) (state : BundleState) :
    (table.setState key state).2.Consistent := by
  have hlookup : ∀ found, (table.setState key state).2.bundle? found =
      (table.bundle? found).map (if key = found then Bundle.withState state else id) := by
    intro found
    rw [bundle?_setState]
    split <;> simp
  have howners : (table.setState key state).2.owners = table.owners := rfl
  apply hconsistent.mapBundles howners hlookup
  · intro found bundle hbundle
    split
    · exact hbundle.withState state
    · exact hbundle
  · intro found bundle
    split <;> rfl
  · intro found bundle other
    split <;> rfl

end Consistent

theorem consistent_partsKeep (rules : Rules) : PartsKeep rules Consistent where
  remove _ pid hconsistent := hconsistent.remove pid
  track _ _ huntracked hconsistent := hconsistent.track huntracked
  note reason now _ hconsistent :=
    hconsistent.modifyProcess (ProcessRecord.keepsPlace_note reason now)
  bind binder target hconsistent := hconsistent.bind binder target
  unbind binder target hconsistent := hconsistent.unbind binder target
  refresh _ _ hconsistent := hconsistent.refresh
  endAbilityStart _ pid hconsistent := hconsistent.endAbilityStart pid
  setState key state hconsistent := hconsistent.setState key state

theorem run_consistent (rules : Rules) (history : History) :
    (empty.run rules history).Consistent :=
  (consistent_partsKeep rules).run empty_consistent history

/-- After any history, whatever its times, each tracked process is in one bundle, the one
that the index names; and each stored bundle has its own key, at least one process,
records that carry their pid and its user, and the lowest priority among them. -/
theorem bundles_match_owners (rules : Rules) (history : History) :
    let table := empty.run rules history
    (∀ pid key, table.owners.get? pid = some key ↔
      ∃ bundle, table.bundle? key = some bundle ∧ bundle.procs.contains pid) ∧
    (∀ pid key other bundle elsewhere,
      table.bundle? key = some bundle → bundle.procs.contains pid →
      table.bundle? other = some elsewhere → elsewhere.procs.contains pid → other = key) ∧
    ∀ key bundle, table.bundle? key = some bundle →
      bundle.key = key ∧
      bundle.procs.isEmpty = false ∧
      (∀ pid process, bundle.process? pid = some process →
        process.pid = pid ∧ process.uid = bundle.uid) ∧
      IsLeast bundle.priorities bundle.priority ∧
      bundle.priority ≠ .unknown := by
  intro table
  have hconsistent : table.Consistent := run_consistent rules history
  refine ⟨fun pid key => hconsistent.owner_iff, ?_, ?_⟩
  · intro pid key other bundle elsewhere hbundle hcontains helsewhere hagain
    have howner := hconsistent.owner_iff.2 ⟨bundle, hbundle, hcontains⟩
    have hother := hconsistent.owner_iff.2 ⟨elsewhere, helsewhere, hagain⟩
    exact Option.some.inj (hother.symm.trans howner)
  · intro key bundle hbundle
    have hsound := hconsistent.sound hbundle
    refine ⟨hconsistent.key_eq hbundle, ?_, ?_, hsound.priority_isLeast,
      hsound.priority_ne_unknown⟩
    · exact OrdMap.isEmpty_eq_false_iff.2 hsound.exists_process
    · intro pid process hprocess
      exact ⟨(hsound.fits hprocess).pid_eq, (hsound.fits hprocess).uid_eq⟩

end Table

end MemoryReclaim
