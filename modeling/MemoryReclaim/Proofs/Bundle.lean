import Mathlib.Order.Bounds.Basic
import MemoryReclaim.Proofs.Tier
import MemoryReclaim.Table

/-!
# Well-formed bundles

A bundle is as important as the most important of its processes.  `Sound` says this of
the stored priority, together with what the records of a bundle must carry; it is kept
by every change of a bundle that the table makes.
-/

namespace MemoryReclaim

namespace ProcessRecord

/-- What a record must carry to be stored under `pid` in a bundle of user `uid`. -/
structure Fits (pid : Pid) (uid : Uid) (process : ProcessRecord) : Prop where
  pid_eq : process.pid = pid
  uid_eq : process.uid = uid
  le_background : process.priority ≤ .background

theorem Fits.renew {pid : Pid} {uid : Uid} {process : ProcessRecord}
    (hfits : process.Fits pid uid) (rules : Rules) (now : Seconds) (view : Pid → Bool) :
    (process.renew rules now view).Fits pid uid :=
  ⟨hfits.pid_eq, hfits.uid_eq, tier_le_background _ _ _⟩

theorem newcomer_fits (rules : Rules) (now : Seconds) (name : String) (pid : Pid) (uid : Uid) :
    (newcomer rules now name pid uid).Fits pid uid :=
  ⟨rfl, rfl, tier_le_background _ _ _⟩

/-- A change that leaves alone what the bundle of a record relies on. -/
structure KeepsPlace (change : ProcessRecord → ProcessRecord) : Prop where
  pid_eq : ∀ process, (change process).pid = process.pid
  uid_eq : ∀ process, (change process).uid = process.uid
  priority_eq : ∀ process, (change process).priority = process.priority

theorem KeepsPlace.fits {change : ProcessRecord → ProcessRecord} (hkeeps : KeepsPlace change)
    {pid : Pid} {uid : Uid} {process : ProcessRecord} (hfits : process.Fits pid uid) :
    (change process).Fits pid uid where
  pid_eq := (hkeeps.pid_eq process).trans hfits.pid_eq
  uid_eq := (hkeeps.uid_eq process).trans hfits.uid_eq
  le_background := (hkeeps.priority_eq process).trans_le hfits.le_background

theorem keepsPlace_note (reason : Reason) (now : Seconds) : KeepsPlace (note reason now) where
  pid_eq _ := by cases reason <;> rfl
  uid_eq _ := by cases reason <;> rfl
  priority_eq _ := by cases reason <;> rfl

theorem keepsPlace_dropBinder (pid : Pid) : KeepsPlace (dropBinder pid) :=
  ⟨fun _ => rfl, fun _ => rfl, fun _ => rfl⟩

theorem keepsPlace_dropBinding (pid : Pid) : KeepsPlace (dropBinding pid) :=
  ⟨fun _ => rfl, fun _ => rfl, fun _ => rfl⟩

theorem keepsPlace_endAbilityStart : KeepsPlace endAbilityStart :=
  ⟨fun _ => rfl, fun _ => rfl, fun _ => rfl⟩

end ProcessRecord

namespace Bundle

variable {bundle : Bundle} {pid : Pid} {process : ProcessRecord}

@[simp]
theorem process?_updatePriority (bundle : Bundle) (other : Pid) :
    bundle.updatePriority.process? other = bundle.process? other := rfl

@[simp]
theorem process?_withState (bundle : Bundle) (state : BundleState) (other : Pid) :
    (bundle.withState state).process? other = bundle.process? other := rfl

theorem process?_modifyProcess (bundle : Bundle) (pid other : Pid)
    (change : ProcessRecord → ProcessRecord) :
    (bundle.modifyProcess pid change).process? other =
      if pid = other then (bundle.process? other).map change else bundle.process? other := by
  simp [modifyProcess, process?]

theorem process?_putProcess (bundle : Bundle) (process : ProcessRecord) (other : Pid) :
    (bundle.putProcess process).process? other =
      if process.pid = other then some process else bundle.process? other := by
  simp [putProcess, process?, updatePriority]

theorem process?_removeProcess (bundle : Bundle) (pid other : Pid) :
    (bundle.removeProcess pid).process? other =
      if pid = other then none else bundle.process? other := by
  rw [removeProcess]
  split
  · simp [process?, updatePriority]
  · next habsent =>
    by_cases hother : pid = other
    · subst hother
      simpa [process?, OrdMap.contains] using habsent
    · simp [hother]

theorem contains_procs (bundle : Bundle) (pid : Pid) :
    bundle.procs.contains pid = (bundle.process? pid).isSome := rfl

/-- The priorities of the processes in a bundle. -/
def priorities (bundle : Bundle) : Set Priority :=
  {priority | ∃ pid process, bundle.process? pid = some process ∧ process.priority = priority}

theorem lowestPriority_isLeast {processes : List ProcessRecord} (hne : processes ≠ []) :
    IsLeast {priority | ∃ process ∈ processes, process.priority = priority}
      (lowestPriority processes) := by
  cases processes with
  | nil => contradiction
  | cons head rest =>
      have hmin : ((head :: rest).map ProcessRecord.priority).min? =
          some (lowestPriority (head :: rest)) := by
        rw [List.map_cons, List.min?_cons', List.foldl_map, lowestPriority]
      obtain ⟨hmem, hle⟩ := List.min?_eq_some_iff.1 hmin
      constructor
      · exact List.mem_map.1 hmem
      · rintro priority ⟨process, hprocess, rfl⟩
        exact hle _ (List.mem_map_of_mem hprocess)

theorem minProcessPriority_isLeast (hmem : bundle.process? pid = some process) :
    IsLeast bundle.priorities bundle.minProcessPriority := by
  have hvalue : ∀ other, other ∈ bundle.procs.values ↔
      ∃ pid, bundle.process? pid = some other := fun other => OrdMap.mem_values
  have hset : bundle.priorities =
      {priority | ∃ process ∈ bundle.procs.values, process.priority = priority} := by
    ext priority
    simp only [priorities, Set.mem_ofPred_eq, hvalue]
    constructor
    · rintro ⟨pid, process, hprocess, hpriority⟩
      exact ⟨process, ⟨pid, hprocess⟩, hpriority⟩
    · rintro ⟨process, ⟨pid, hprocess⟩, hpriority⟩
      exact ⟨pid, process, hprocess, hpriority⟩
  rw [hset]
  exact lowestPriority_isLeast (List.ne_nil_of_mem ((hvalue process).2 ⟨pid, hmem⟩))

/-- What the table keeps true of every bundle that it stores. -/
structure Sound (bundle : Bundle) : Prop where
  fits : ∀ {pid process}, bundle.process? pid = some process → process.Fits pid bundle.uid
  priority_isLeast : IsLeast bundle.priorities bundle.priority

theorem updatePriority_sound (hmem : bundle.process? pid = some process)
    (hfits : ∀ {other record}, bundle.process? other = some record →
      record.Fits other bundle.uid) : bundle.updatePriority.Sound :=
  ⟨hfits, minProcessPriority_isLeast hmem⟩

namespace Sound

theorem exists_process (hsound : bundle.Sound) :
    ∃ pid process, bundle.process? pid = some process := by
  obtain ⟨⟨pid, process, hprocess, -⟩, -⟩ := hsound.priority_isLeast
  exact ⟨pid, process, hprocess⟩

/-- The priority of a bundle without processes lies above every tier. -/
theorem priority_ne_unknown (hsound : bundle.Sound) : bundle.priority ≠ .unknown := by
  obtain ⟨⟨pid, process, hprocess, hpriority⟩, -⟩ := hsound.priority_isLeast
  have hle := (hsound.fits hprocess).le_background
  rw [← hpriority]
  intro heq
  rw [heq] at hle
  exact absurd hle (by decide)

theorem withState (hsound : bundle.Sound) (state : BundleState) :
    (bundle.withState state).Sound :=
  ⟨hsound.fits, hsound.priority_isLeast⟩

theorem putProcess (hfits : process.Fits process.pid bundle.uid)
    (hothers : ∀ {other record}, bundle.process? other = some record →
      record.Fits other bundle.uid) : (bundle.putProcess process).Sound := by
  have hlookup := process?_putProcess bundle process
  have hmem : (bundle.putProcess process).process? process.pid = some process :=
    (hlookup process.pid).trans (if_pos rfl)
  apply updatePriority_sound hmem
  intro other record hrecord
  have hrecord' := (hlookup other).symm.trans hrecord
  by_cases hother : process.pid = other
  · simp only [hother, if_true, Option.some.injEq] at hrecord'
    rw [← hother, ← hrecord']
    exact hfits
  · rw [if_neg hother] at hrecord'
    exact hothers hrecord'

/-- A bundle that has lost a process is sound as long as another one is left. -/
theorem removeProcess (hsound : bundle.Sound)
    (hrest : (bundle.removeProcess pid).procs.isEmpty = false) :
    (bundle.removeProcess pid).Sound := by
  have hfits : ∀ {other record}, (bundle.removeProcess pid).process? other = some record →
      record.Fits other bundle.uid := by
    intro other record hrecord
    rw [process?_removeProcess] at hrecord
    split at hrecord
    · contradiction
    · exact hsound.fits hrecord
  obtain ⟨other, record, hrecord⟩ := OrdMap.isEmpty_eq_false_iff.1 hrest
  by_cases hpresent : bundle.procs.contains pid
  · rw [Bundle.removeProcess, if_pos hpresent] at hrecord hfits ⊢
    exact updatePriority_sound hrecord hfits
  · rwa [Bundle.removeProcess, if_neg hpresent]

variable {change : ProcessRecord → ProcessRecord}

theorem fits_modifyProcess (hsound : bundle.Sound)
    (hchange : ∀ {other process}, process.Fits other bundle.uid →
      (change process).Fits other bundle.uid) {other : Pid} {record : ProcessRecord}
    (hrecord : (bundle.modifyProcess pid change).process? other = some record) :
    record.Fits other bundle.uid := by
  rw [process?_modifyProcess] at hrecord
  split at hrecord
  · obtain ⟨process, hprocess, rfl⟩ := Option.map_eq_some_iff.1 hrecord
    exact hchange (hsound.fits hprocess)
  · exact hsound.fits hrecord

/-- A change that leaves priorities alone leaves the lowest one where it was. -/
theorem modifyProcess (hsound : bundle.Sound) (hkeeps : ProcessRecord.KeepsPlace change) :
    (bundle.modifyProcess pid change).Sound := by
  refine ⟨hsound.fits_modifyProcess hkeeps.fits, ?_⟩
  have hsame : (bundle.modifyProcess pid change).priorities = bundle.priorities := by
    ext priority
    simp only [priorities, Set.mem_ofPred_eq, process?_modifyProcess]
    constructor
    · rintro ⟨other, record, hrecord, rfl⟩
      split at hrecord
      · obtain ⟨process, hprocess, rfl⟩ := Option.map_eq_some_iff.1 hrecord
        exact ⟨other, process, hprocess, (hkeeps.priority_eq process).symm⟩
      · exact ⟨other, record, hrecord, rfl⟩
    · rintro ⟨other, process, hprocess, rfl⟩
      by_cases hother : pid = other
      · exact ⟨other, change process, by simp [hother, hprocess],
          hkeeps.priority_eq process⟩
      · exact ⟨other, process, by simp [hother, hprocess], rfl⟩
  rw [hsame]
  exact hsound.priority_isLeast

theorem updatePriority_modifyProcess (hsound : bundle.Sound)
    (hfits : ∀ {other process}, process.Fits other bundle.uid →
      (change process).Fits other bundle.uid) :
    (bundle.modifyProcess pid change).updatePriority.Sound := by
  obtain ⟨other, process, hprocess⟩ := hsound.exists_process
  obtain ⟨record, hrecord⟩ :
      ∃ record, (bundle.modifyProcess pid change).process? other = some record := by
    rw [process?_modifyProcess, hprocess]
    split <;> exact ⟨_, rfl⟩
  exact updatePriority_sound hrecord (hsound.fits_modifyProcess hfits)

end Sound

end Bundle

end MemoryReclaim
