import MemoryReclaim.Proofs.Table.Arrivals
import MemoryReclaim.Proofs.Table.Freshness

/-!
# The facts behind the stored values

A priority, a bind status and the flag of an ability start are kept in a record, but the
time and the other records decide what they come to.  `SameFacts` compares two tables by
all the rest.  Ending grace windows and refreshing records change nothing of it, and every
event keeps it; two tables that are up to date and have the same facts become the same
table once the windows that have passed are ended.
-/

namespace MemoryReclaim

namespace ProcessRecord

variable {rules : Rules} {window earlier now : Seconds} {left right : ProcessRecord}

def isInGrace (window now : Seconds) (process : ProcessRecord) : Bool :=
  process.isAbilityStarting && now - process.abilityStart < window

/-- What a record says apart from what is computed; an ability start counts until its
window has passed, noticed or not. -/
def facts (window now : Seconds) (process : ProcessRecord) : ProcessRecord :=
  { process with
    priority := .unknown
    bindStatus := .unknown
    isAbilityStarting := process.isInGrace window now }

theorem isInGrace_eq (window now : Seconds) (process : ProcessRecord) :
    process.isInGrace window now =
      (process.isAbilityStarting && !process.abilityStartExpired window now) := by
  cases hflag : process.isAbilityStarting <;>
    simp [isInGrace, abilityStartExpired, hflag, ← decide_not]

/-- What was a fact earlier decides what is one now. -/
theorem facts_facts (hle : earlier ≤ now) (process : ProcessRecord) :
    (process.facts window earlier).facts window now = process.facts window now := by
  have hflag : (process.facts window earlier).isInGrace window now =
      process.isInGrace window now := by
    by_cases hopen : now - process.abilityStart < window
    · have hbefore : earlier - process.abilityStart < window :=
        Nat.lt_of_le_of_lt (Nat.sub_le_sub_right hle _) hopen
      simp [facts, isInGrace, hbefore]
    · simp [facts, isInGrace, hopen]
  exact congrArg
    (fun flag =>
      { process with
        priority := .unknown, bindStatus := .unknown, isAbilityStarting := flag })
    hflag

theorem facts_renew (later : Seconds) (view : Pid → Bool) (process : ProcessRecord) :
    (process.renew rules later view).facts window now = process.facts window now := rfl

theorem facts_endAbilityStart {process : ProcessRecord}
    (hexpired : process.abilityStartExpired window now) (later : Seconds)
    (view : Pid → Bool) :
    (process.endAbilityStart.renew rules later view).facts window now =
      process.facts window now := by
  have hclosed : process.isInGrace window now = false := by
    rw [isInGrace_eq, hexpired, Bool.not_true, Bool.and_false]
  rw [facts, facts, hclosed]
  rfl

theorem facts_note (reason : Reason) (hfacts : left.facts window now = right.facts window now) :
    (left.note reason now).facts window now = (right.note reason now).facts window now := by
  have hnoted : reason ≠ .abilityStart → ∀ process : ProcessRecord,
      (process.note reason now).facts window now = (process.facts window now).note reason now := by
    intro hother process
    cases reason with
    | abilityStart => contradiction
    | _ => rfl
  by_cases hstart : reason = .abilityStart
  · rw [hstart]
    exact congrArg (fun process => (process.startAbility now).facts window now) hfacts
  · rw [hnoted hstart, hnoted hstart, hfacts]

theorem facts_partedFrom {goneLeft goneRight : ProcessRecord} {pid other : Pid}
    {viewLeft viewRight : Pid → Bool}
    (hgone : goneLeft.facts window now = goneRight.facts window now)
    (hfacts : left.facts window now = right.facts window now) :
    (goneLeft.partedFrom rules now viewLeft pid other left).facts window now =
      (goneRight.partedFrom rules now viewRight pid other right).facts window now := by
  have hbound : goneLeft.isBoundBy other = goneRight.isBoundBy other :=
    congrArg (fun gone => gone.isBoundBy other) hgone
  have hbinds : goneLeft.bindsToPid other = goneRight.bindsToPid other :=
    congrArg (fun gone => gone.bindsToPid other) hgone
  have hunbound : (if goneLeft.isBoundBy other then left.dropBinding pid else left).facts
        window now =
      (if goneRight.isBoundBy other then right.dropBinding pid else right).facts window now := by
    rw [hbound]
    split
    · exact congrArg (dropBinding pid) hfacts
    · exact hfacts
  simp only [partedFrom, hbinds]
  split
  · exact congrArg (dropBinder pid) hunbound
  · exact hunbound

/-! ## Records that are up to date -/

theorem eq_facts_of_open {process : ProcessRecord}
    (hopen : process.abilityStartExpired window now = false) :
    process =
      { process.facts window now with
        priority := process.priority, bindStatus := process.bindStatus } := by
  have hgrace : process.isInGrace window now = process.isAbilityStarting := by
    rw [isInGrace_eq, hopen, Bool.not_false, Bool.and_true]
  rw [facts, hgrace]

theorem eq_of_facts (hfacts : left.facts window now = right.facts window now)
    (hleft : left.abilityStartExpired window now = false)
    (hright : right.abilityStartExpired window now = false)
    (hstatus : left.bindStatus = right.bindStatus) (hpriority : left.priority = right.priority) :
    left = right := by
  rw [eq_facts_of_open hleft, hfacts, hstatus, hpriority]
  exact (eq_facts_of_open hright).symm

theorem tier_eq_of_facts (hfacts : left.facts window now = right.facts window now)
    (hleft : left.abilityStartExpired window now = false)
    (hright : right.abilityStartExpired window now = false)
    (hstatus : left.bindStatus = right.bindStatus) :
    left.tier window now = right.tier window now := by
  let unranked (process : ProcessRecord) : ProcessRecord := { process with priority := .unknown }
  have hunranked : (unranked left).facts window now = (unranked right).facts window now := hfacts
  have hsame : unranked left = unranked right := eq_of_facts hunranked hleft hright hstatus rfl
  exact congrArg (fun process => process.tier window now) hsame

theorem bindStatus_eq_of_facts {view : Pid → Bool}
    (hfacts : left.facts window now = right.facts window now)
    (hleft : left.currentBindStatus view = left.bindStatus)
    (hright : right.currentBindStatus view = right.bindStatus)
    (hplainLeft : left.PlainUnlessExtension) (hplainRight : right.PlainUnlessExtension) :
    left.bindStatus = right.bindStatus := by
  have hextension : left.isExtension = right.isExtension :=
    congrArg (fun process => process.isExtension) hfacts
  have hbound : left.boundBy = right.boundBy := congrArg (fun process => process.boundBy) hfacts
  cases hkind : right.isExtension with
  | true =>
      rw [hkind] at hextension
      rw [← hleft, ← hright, currentBindStatus, currentBindStatus, if_pos hextension,
        if_pos hkind, hbound]
  | false =>
      rw [hkind] at hextension
      rw [(hplainLeft hextension).2, (hplainRight hkind).2]

/-- Records that are up to date differ by no more than their facts. -/
theorem Evaluated.eq_of_facts {view : Pid → Bool} (hleft : left.Evaluated rules now view)
    (hright : right.Evaluated rules now view) (hplainLeft : left.PlainUnlessExtension)
    (hplainRight : right.PlainUnlessExtension)
    (hfacts : left.facts rules.graceWindow now = right.facts rules.graceWindow now)
    (hopenLeft : left.abilityStartExpired rules.graceWindow now = false)
    (hopenRight : right.abilityStartExpired rules.graceWindow now = false) : left = right := by
  have hstatus := bindStatus_eq_of_facts hfacts hleft.bindStatus_eq hright.bindStatus_eq
    hplainLeft hplainRight
  obtain ⟨lastLeft, hleLeft, hpriorityLeft⟩ := hleft.priority_eq
  obtain ⟨lastRight, hleRight, hpriorityRight⟩ := hright.priority_eq
  have hpriority : left.priority = right.priority :=
    calc left.priority = left.tier rules.graceWindow lastLeft := hpriorityLeft
      _ = left.tier rules.graceWindow now := left.tier_eq_of_le hleLeft hopenLeft
      _ = right.tier rules.graceWindow now := tier_eq_of_facts hfacts hopenLeft hopenRight hstatus
      _ = right.tier rules.graceWindow lastRight :=
        (right.tier_eq_of_le hleRight hopenRight).symm
      _ = right.priority := hpriorityRight.symm
  exact ProcessRecord.eq_of_facts hfacts hopenLeft hopenRight hstatus hpriority

end ProcessRecord

/-- A bundle without its processes and its priority. -/
def Bundle.head (bundle : Bundle) : Bundle :=
  { bundle with priority := .unknown, procs := .empty }

theorem Bundle.Alike.head_eq {former bundle : Bundle} (halike : former.Alike bundle) :
    bundle.head = former.head := by
  have hkey := halike.key_eq
  rw [Bundle.key, Bundle.key, BundleKey.mk.injEq] at hkey
  rw [Bundle.head, Bundle.head, halike.name_eq, hkey.2, hkey.1, halike.state_eq,
    halike.created_eq]

/-- The processes of a bundle decide its priority. -/
theorem Bundle.eq_of_head {left right : Bundle} (hleft : left.Sound) (hright : right.Sound)
    (hhead : left.head = right.head)
    (hprocess : ∀ pid, left.process? pid = right.process? pid) : left = right := by
  have hprocs : left.procs = right.procs := OrdMap.ext_get? hprocess
  have hset : left.priorities = right.priorities := by
    rw [priorities, priorities]
    simp only [hprocess]
  have hpriority : left.priority = right.priority :=
    hleft.priority_isLeast.unique (hset ▸ hright.priority_isLeast)
  have hwhole : ∀ bundle : Bundle,
      bundle = { bundle.head with priority := bundle.priority, procs := bundle.procs } :=
    fun _ => rfl
  rw [hwhole left, hhead, hpriority, hprocs]
  exact (hwhole right).symm

namespace Table

variable {rules : Rules} {earlier now : Seconds}
variable {table left middle right leftAfter rightAfter : Table}

/-- What there is to tell of an event is in the event, not in the table. -/
theorem change_apply (rules : Rules) (now : Seconds) (request : ResolvedRequest)
    (one other : Table) : (one.apply rules now request).1 = (other.apply rules now request).1 := by
  rw [apply, apply]
  split <;> rfl

/-! ## Bundles go with their processes -/

theorem Consistent.exists_bundle (hleft : left.Consistent) (hright : right.Consistent)
    {key : BundleKey}
    (hmember : ∀ pid, left.owners.get? pid = some key → right.owners.get? pid = some key)
    {bundle : Bundle} (hbundle : left.bundle? key = some bundle) :
    ∃ counterpart, right.bundle? key = some counterpart := by
  obtain ⟨pid, process, hprocess⟩ := (hleft.sound hbundle).exists_process
  have howner : left.owners.get? pid = some key :=
    hleft.owner_iff.2 ⟨bundle, hbundle, by rw [Bundle.contains_procs, hprocess]; rfl⟩
  obtain ⟨counterpart, hcounterpart, -⟩ := hright.owner_iff.1 (hmember pid howner)
  exact ⟨counterpart, hcounterpart⟩

/-- Bundles that are inherited from alike ones are alike, if they have the same pids. -/
theorem head_eq_of_inherits {key : BundleKey}
    (hhead : (left.bundle? key).map Bundle.head = (right.bundle? key).map Bundle.head)
    (hleft : Inherits key left leftAfter) (hright : Inherits key right rightAfter)
    (hconsistentLeft : leftAfter.Consistent) (hconsistentRight : rightAfter.Consistent)
    (hmembers : ∀ pid, leftAfter.owners.get? pid = some key ↔
      rightAfter.owners.get? pid = some key) :
    (leftAfter.bundle? key).map Bundle.head = (rightAfter.bundle? key).map Bundle.head := by
  cases hbundle : leftAfter.bundle? key with
  | none =>
      cases hcounterpart : rightAfter.bundle? key with
      | none => rfl
      | some counterpart =>
          obtain ⟨bundle, hsome⟩ := hconsistentRight.exists_bundle hconsistentLeft
            (fun pid => (hmembers pid).2) hcounterpart
          rw [hbundle] at hsome
          cases hsome
  | some bundle =>
      obtain ⟨counterpart, hcounterpart⟩ := hconsistentLeft.exists_bundle hconsistentRight
        (fun pid => (hmembers pid).1) hbundle
      obtain ⟨former, hformer, halike⟩ := hleft hbundle
      obtain ⟨formerRight, hformerRight, halikeRight⟩ := hright hcounterpart
      rw [hformer, hformerRight] at hhead
      rw [hcounterpart, Option.map_some, Option.map_some, halike.head_eq, halikeRight.head_eq]
      exact hhead

theorem head_hostBundle (identity : ResolvedIdentity)
    (hhead : (left.bundle? identity.key).map Bundle.head =
      (right.bundle? identity.key).map Bundle.head) :
    (left.hostBundle now identity).head = (right.hostBundle now identity).head := by
  rw [hostBundle, hostBundle]
  cases hbundle : left.bundle? identity.key with
  | none =>
      rw [hbundle] at hhead
      rw [Option.map_eq_none_iff.1 hhead.symm]
  | some bundle =>
      rw [hbundle] at hhead
      obtain ⟨counterpart, hcounterpart, heq⟩ := Option.map_eq_some_iff.1 hhead.symm
      rw [hcounterpart]
      exact congrArg (Bundle.withState .active) heq.symm

/-- Two tables track the same processes, in the same bundles, with the same facts. -/
structure SameFacts (rules : Rules) (now : Seconds) (left right : Table) : Prop where
  owner_eq : ∀ pid, left.owners.get? pid = right.owners.get? pid
  facts_eq : ∀ pid, (left.process? pid).map (ProcessRecord.facts rules.graceWindow now) =
    (right.process? pid).map (ProcessRecord.facts rules.graceWindow now)
  head_eq : ∀ key, (left.bundle? key).map Bundle.head = (right.bundle? key).map Bundle.head

namespace SameFacts

theorem refl : SameFacts rules now table table := ⟨fun _ => rfl, fun _ => rfl, fun _ => rfl⟩

theorem symm (hsame : SameFacts rules now left right) : SameFacts rules now right left where
  owner_eq pid := (hsame.owner_eq pid).symm
  facts_eq pid := (hsame.facts_eq pid).symm
  head_eq key := (hsame.head_eq key).symm

theorem trans (hfirst : SameFacts rules now left middle)
    (hsecond : SameFacts rules now middle right) : SameFacts rules now left right where
  owner_eq pid := (hfirst.owner_eq pid).trans (hsecond.owner_eq pid)
  facts_eq pid := (hfirst.facts_eq pid).trans (hsecond.facts_eq pid)
  head_eq key := (hfirst.head_eq key).trans (hsecond.head_eq key)

theorem mono (hsame : SameFacts rules earlier left right) (hle : earlier ≤ now) :
    SameFacts rules now left right where
  owner_eq := hsame.owner_eq
  facts_eq pid := by
    have hlater := congrArg (Option.map (ProcessRecord.facts rules.graceWindow now))
      (hsame.facts_eq pid)
    simpa only [Option.map_map, Function.comp_def, ProcessRecord.facts_facts hle] using hlater
  head_eq := hsame.head_eq

theorem isForeground_eq (hsame : SameFacts rules now left right) :
    left.isForeground = right.isForeground := by
  funext pid
  have hforeground := congrArg (Option.any ProcessRecord.isForeground) (hsame.facts_eq pid)
  rw [Option.any_map, Option.any_map] at hforeground
  exact hforeground

theorem process?_eq_none (hsame : SameFacts rules now left right) {pid : Pid}
    (hnone : left.process? pid = none) : right.process? pid = none := by
  have hfacts := hsame.facts_eq pid
  rw [hnone] at hfacts
  exact Option.map_eq_none_iff.1 hfacts.symm

theorem exists_process (hsame : SameFacts rules now left right) {pid : Pid}
    {process : ProcessRecord} (hprocess : left.process? pid = some process) :
    ∃ counterpart, right.process? pid = some counterpart ∧
      process.facts rules.graceWindow now = counterpart.facts rules.graceWindow now := by
  have hfacts := hsame.facts_eq pid
  rw [hprocess] at hfacts
  obtain ⟨counterpart, hcounterpart, heq⟩ := Option.map_eq_some_iff.1 hfacts.symm
  exact ⟨counterpart, hcounterpart, heq.symm⟩

/-- Where bundles are inherited, the owners and the facts decide. -/
theorem inherit (hsame : SameFacts rules now left right)
    (hleft : ∀ key, Inherits key left leftAfter) (hright : ∀ key, Inherits key right rightAfter)
    (hconsistentLeft : leftAfter.Consistent) (hconsistentRight : rightAfter.Consistent)
    (howner : ∀ pid, leftAfter.owners.get? pid = rightAfter.owners.get? pid)
    (hfacts : ∀ pid, (leftAfter.process? pid).map (ProcessRecord.facts rules.graceWindow now) =
      (rightAfter.process? pid).map (ProcessRecord.facts rules.graceWindow now)) :
    SameFacts rules now leftAfter rightAfter where
  owner_eq := howner
  facts_eq := hfacts
  head_eq key := by
    apply head_eq_of_inherits (hsame.head_eq key) (hleft key) (hright key) hconsistentLeft
      hconsistentRight
    intro pid
    rw [howner]

/-! ## What changes no facts -/

theorem refresh (hconsistent : table.Consistent) (later : Seconds) (pid : Pid) :
    SameFacts rules now table (table.refresh rules later pid) := by
  apply refl.inherit (fun _ => .refl) (fun _ => .refresh table pid) hconsistent hconsistent.refresh
  · intro other
    rw [owners_refresh]
  · intro other
    rw [process?_refresh]
    split
    · simp only [Option.map_map, Function.comp_def, ProcessRecord.facts_renew]
    · rfl

/-- Grace windows that have passed are no facts any more, so ending them changes none. -/
theorem expire (hconsistent : table.Consistent) (hle : earlier ≤ now) :
    SameFacts rules now table (table.expire rules earlier) := by
  apply refl.inherit (fun _ => .refl) (fun _ => .expire) hconsistent
    ((consistent_partsKeep rules).expire hconsistent)
  · intro pid
    rw [Table.expire, (touches_endAbilityStart rules earlier).owners_foldl]
  · intro pid
    rw [Table.expire, (touches_endAbilityStart rules earlier).process?_foldl]
    split
    · next hmem =>
      obtain ⟨process, hprocess, hexpired⟩ := of_mem_expiredPids hconsistent hmem
      have hpassed := ProcessRecord.abilityStartExpired_mono hle hexpired
      rw [hprocess, Option.map_some, Option.map_some, Option.map_some,
        ProcessRecord.facts_endAbilityStart hpassed]
    · rfl

theorem refreshAll (hconsistent : table.Consistent) (later : Seconds) (pids : List Pid) :
    SameFacts rules now table (table.refreshAll rules later pids) := by
  induction pids generalizing table with
  | nil => exact refl
  | cons pid later ih => exact (refresh hconsistent _ pid).trans (ih hconsistent.refresh)

/-! ## What an event does to the facts -/

theorem map_congr {one other : Option ProcessRecord}
    {changeOne changeOther : ProcessRecord → ProcessRecord} {window : Seconds}
    (hfacts : one.map (ProcessRecord.facts window now) = other.map (ProcessRecord.facts window now))
    (hchange : ∀ {left right : ProcessRecord}, left.facts window now = right.facts window now →
      (changeOne left).facts window now = (changeOther right).facts window now) :
    (one.map changeOne).map (ProcessRecord.facts window now) =
      (other.map changeOther).map (ProcessRecord.facts window now) := by
  cases one with
  | none =>
      rw [Option.map_eq_none_iff.1 hfacts.symm]
      rfl
  | some left =>
      obtain ⟨right, rfl, heq⟩ := Option.map_eq_some_iff.1 hfacts.symm
      exact congrArg some (hchange heq.symm)

theorem modifyProcess (hsame : SameFacts rules now left right) {pid : Pid}
    {change : ProcessRecord → ProcessRecord} (hkeeps : ProcessRecord.KeepsPlace change)
    (hleft : left.Consistent) (hright : right.Consistent)
    (hchange : ∀ {one other : ProcessRecord},
      one.facts rules.graceWindow now = other.facts rules.graceWindow now →
      (change one).facts rules.graceWindow now = (change other).facts rules.graceWindow now) :
    SameFacts rules now (left.modifyProcess pid change) (right.modifyProcess pid change) := by
  apply hsame.inherit (fun _ => .modifyProcess pid change) (fun _ => .modifyProcess pid change)
    (hleft.modifyProcess hkeeps) (hright.modifyProcess hkeeps)
  · intro other
    rw [owners_modifyProcess, owners_modifyProcess, hsame.owner_eq]
  · intro other
    rw [process?_modifyProcess, process?_modifyProcess]
    split
    · exact map_congr (hsame.facts_eq other) hchange
    · exact hsame.facts_eq other

theorem remove (hsame : SameFacts rules now left right) (hleft : left.Consistent)
    (hright : right.Consistent) (pid : Pid) :
    SameFacts rules now (left.remove rules now pid) (right.remove rules now pid) := by
  apply hsame.inherit (fun _ => .remove pid) (fun _ => .remove pid) (hleft.remove pid)
    (hright.remove pid)
  · intro other
    rw [owners_remove, owners_remove, hsame.owner_eq]
  · intro other
    cases hgone : left.process? pid with
    | none =>
        rw [process?_remove_untracked hgone,
          process?_remove_untracked (hsame.process?_eq_none hgone)]
        exact hsame.facts_eq other
    | some gone =>
        obtain ⟨counterpart, hcounterpart, hfacts⟩ := hsame.exists_process hgone
        rw [process?_remove hgone, process?_remove hcounterpart]
        split
        · rfl
        · exact map_congr (hsame.facts_eq other) (ProcessRecord.facts_partedFrom hfacts)

theorem track (hsame : SameFacts rules now left right) (identity : ResolvedIdentity) :
    SameFacts rules now (left.track rules now identity) (right.track rules now identity) where
  owner_eq pid := by rw [owners_track, owners_track, hsame.owner_eq]
  facts_eq pid := by
    have hname : (left.hostBundle now identity).name = (right.hostBundle now identity).name :=
      congrArg (fun bundle => bundle.name) (head_hostBundle identity (hsame.head_eq identity.key))
    rw [process?_track, process?_track, hname]
    split
    · rfl
    · exact hsame.facts_eq pid
  head_eq key := by
    rw [bundle?_track, bundle?_track]
    split
    · exact congrArg some (head_hostBundle identity (hsame.head_eq identity.key))
    · exact hsame.head_eq key

theorem ensure (hsame : SameFacts rules now left right) (hleft : left.Consistent)
    (hright : right.Consistent) (identity : ResolvedIdentity) :
    SameFacts rules now (left.ensure rules now identity) (right.ensure rules now identity) := by
  rw [ensure_eq, ensure_eq, hsame.owner_eq]
  split
  · exact hsame
  · exact (hsame.remove hleft hright identity.pid).track identity

theorem bind (hsame : SameFacts rules now left right) (hleft : left.Consistent)
    (hright : right.Consistent) (binder target : Pid) :
    SameFacts rules now (left.bind binder target) (right.bind binder target) := by
  cases hbinder : left.process? binder with
  | none =>
      rw [bind_of_untracked (.inl hbinder),
        bind_of_untracked (.inl (hsame.process?_eq_none hbinder))]
      exact hsame
  | some consumer =>
  cases htarget : left.process? target with
  | none =>
      rw [bind_of_untracked (.inr htarget),
        bind_of_untracked (.inr (hsame.process?_eq_none htarget))]
      exact hsame
  | some extension =>
      obtain ⟨consumerRight, hconsumer, hfactsBinder⟩ := hsame.exists_process hbinder
      obtain ⟨extensionRight, hextension, hfactsTarget⟩ := hsame.exists_process htarget
      have huidBinder : consumer.uid = consumerRight.uid :=
        congrArg (fun process => process.uid) hfactsBinder
      have huidTarget : extension.uid = extensionRight.uid :=
        congrArg (fun process => process.uid) hfactsTarget
      have hmark : ProcessRecord.KeepsPlace fun process =>
          { process with isExtension := true }.addBinder binder consumerRight.uid :=
        ⟨fun _ => rfl, fun _ => rfl, fun _ => rfl⟩
      have hadd : ProcessRecord.KeepsPlace (ProcessRecord.addBinding target extensionRight.uid) :=
        ⟨fun _ => rfl, fun _ => rfl, fun _ => rfl⟩
      simp only [Table.bind, hbinder, htarget, hconsumer, hextension, huidBinder, huidTarget]
      apply (hsame.modifyProcess hmark hleft hright _).modifyProcess hadd
        (hleft.modifyProcess hmark) (hright.modifyProcess hmark)
      · exact congrArg (ProcessRecord.addBinding target extensionRight.uid)
      · intro one other hfacts
        exact congrArg (fun process : ProcessRecord =>
          { process with isExtension := true }.addBinder binder consumerRight.uid) hfacts

theorem unbind (hsame : SameFacts rules now left right) (hleft : left.Consistent)
    (hright : right.Consistent) (binder target : Pid) :
    SameFacts rules now (left.unbind binder target) (right.unbind binder target) := by
  have hdropBinder := ProcessRecord.keepsPlace_dropBinder binder
  apply (hsame.modifyProcess hdropBinder hleft hright _).modifyProcess
    (ProcessRecord.keepsPlace_dropBinding target) (hleft.modifyProcess hdropBinder)
    (hright.modifyProcess hdropBinder)
  · exact congrArg (ProcessRecord.dropBinding target)
  · exact congrArg (ProcessRecord.dropBinder binder)

variable {request : ResolvedRequest}

theorem noteEvent (hsame : SameFacts rules now left right) (hleft : left.Consistent)
    (hright : right.Consistent) :
    SameFacts rules now (left.noteEvent rules now request) (right.noteEvent rules now request) := by
  have hkeep := consistent_partsKeep rules
  have hnote := ProcessRecord.keepsPlace_note request.reason now
  have hensured : ∀ {table : Table}, table.Consistent →
      (table.ensure rules now request.target).Consistent :=
    fun hconsistent => hkeep.ensure hconsistent request.target
  have hmodified : ∀ {table : Table}, table.Consistent →
      ((table.ensure rules now request.target).modifyProcess request.target.pid
        (.note request.reason now)).Consistent :=
    fun hconsistent => (hensured hconsistent).modifyProcess hnote
  have hnoted : SameFacts rules now
      ((left.ensure rules now request.target).modifyProcess request.target.pid
        (.note request.reason now))
      ((right.ensure rules now request.target).modifyProcess request.target.pid
        (.note request.reason now)) :=
    (hsame.ensure hleft hright request.target).modifyProcess hnote (hensured hleft)
      (hensured hright) (ProcessRecord.facts_note request.reason)
  rw [Table.noteEvent, Table.noteEvent, Table.rebind, Table.rebind]
  split
  · next caller _ _ =>
    exact (hnoted.ensure (hmodified hleft) (hmodified hright) caller).bind
      (hkeep.ensure (hmodified hleft) caller) (hkeep.ensure (hmodified hright) caller) _ _
  · exact hnoted.unbind (hmodified hleft) (hmodified hright) _ _
  · exact hnoted

/-- What follows the noting of an event changes no facts. -/
theorem noteEvent_applyLive (hconsistent : table.Consistent) :
    SameFacts rules now (table.noteEvent rules now request)
      (table.applyLive rules now request) := by
  have hkeep := consistent_partsKeep rules
  have hnoted : (table.noteEvent rules now request).Consistent :=
    hkeep.noteEvent hconsistent request
  have hexpired : ((table.noteEvent rules now request).expire rules now).Consistent :=
    hkeep.expire hnoted
  have hfresh := (expire hnoted (Nat.le_refl now)).trans
    (refresh hexpired now request.target.pid)
  rw [Table.applyLive]
  split
  · exact hfresh.trans (refreshAll hexpired.refresh now _)
  · exact hfresh

/-- An event does the same to tables with the same facts. -/
theorem apply (hsame : SameFacts rules now left right) (hleft : left.Consistent)
    (hright : right.Consistent) (request : ResolvedRequest) :
    SameFacts rules now (left.apply rules now request).2 (right.apply rules now request).2 := by
  have hexpiredLeft : SameFacts rules now left (left.expire rules now) :=
    expire hleft (Nat.le_refl now)
  have hexpiredRight : SameFacts rules now right (right.expire rules now) :=
    expire hright (Nat.le_refl now)
  rw [Table.apply, Table.apply]
  split
  · exact hsame.remove hleft hright _
  · exact hexpiredLeft.symm.trans (hsame.trans hexpiredRight)
  · exact (noteEvent_applyLive hleft).symm.trans
      ((hsame.noteEvent hleft hright).trans (noteEvent_applyLive hright))

theorem setState (hsame : SameFacts rules now left right) (key : BundleKey) (state : BundleState) :
    SameFacts rules now (left.setState key state).2 (right.setState key state).2 where
  owner_eq := hsame.owner_eq
  facts_eq pid := by
    rw [process?_setState, process?_setState]
    exact hsame.facts_eq pid
  head_eq found := by
    have hhead := congrArg (Option.map (Bundle.withState state)) (hsame.head_eq found)
    rw [Option.map_map, Option.map_map] at hhead
    rw [bundle?_setState, bundle?_setState]
    split
    · rw [Option.map_map, Option.map_map]
      exact hhead
    · exact hsame.head_eq found

theorem perform (hsame : SameFacts rules now left right) (hleft : left.Consistent)
    (hright : right.Consistent) (operation : Operation) :
    SameFacts rules now (left.perform rules now operation) (right.perform rules now operation) := by
  cases operation with
  | apply request => exact hsame.apply hleft hright request
  | expire =>
      have hexpiredLeft : SameFacts rules now left (left.expire rules now) :=
        expire hleft (Nat.le_refl now)
      exact hexpiredLeft.symm.trans (hsame.trans (expire hright (Nat.le_refl now)))
  | remove pid => exact hsame.remove hleft hright pid
  | setState key state => exact hsame.setState key state

end SameFacts

/-! ## The facts decide the table -/

theorem Consistent.bundle_process? (hconsistent : table.Consistent) {key : BundleKey}
    {bundle : Bundle} (hbundle : table.bundle? key = some bundle) (pid : Pid) :
    bundle.process? pid =
      if table.owners.get? pid = some key then table.process? pid else none := by
  split
  · next howner => rw [process?_of_owner howner hbundle]
  · next hforeign =>
    cases hprocess : bundle.process? pid with
    | none => rfl
    | some process =>
        have hcontains : bundle.procs.contains pid := by
          rw [Bundle.contains_procs, hprocess]
          rfl
        exact absurd (hconsistent.owner_iff.2 ⟨bundle, hbundle, hcontains⟩) hforeign

/-- A table is its owners, its processes and the heads of its bundles. -/
theorem Consistent.eq_of_parts (hleft : left.Consistent) (hright : right.Consistent)
    (howner : ∀ pid, left.owners.get? pid = right.owners.get? pid)
    (hprocess : ∀ pid, left.process? pid = right.process? pid)
    (hhead : ∀ key, (left.bundle? key).map Bundle.head = (right.bundle? key).map Bundle.head) :
    left = right := by
  have hbundle : ∀ key, left.bundle? key = right.bundle? key := by
    intro key
    have hheads := hhead key
    cases hfound : left.bundle? key with
    | none =>
        rw [hfound] at hheads
        exact (Option.map_eq_none_iff.1 hheads.symm).symm
    | some bundle =>
        rw [hfound] at hheads
        obtain ⟨counterpart, hcounterpart, heq⟩ := Option.map_eq_some_iff.1 hheads.symm
        rw [hcounterpart]
        apply congrArg some
        apply Bundle.eq_of_head (hleft.sound hfound) (hright.sound hcounterpart) heq.symm
        intro pid
        rw [hleft.bundle_process? hfound, hright.bundle_process? hcounterpart, howner, hprocess]
  have howners : left.owners = right.owners := OrdMap.ext_get? howner
  have hbundles : left.bundles = right.bundles := OrdMap.ext_get? hbundle
  rw [Table.mk.injEq]
  exact ⟨hbundles, howners⟩

/-- Every record is as its last evaluation left it and no window has passed unnoticed. -/
def Settled (rules : Rules) (now : Seconds) (table : Table) : Prop :=
  table.All fun process => process.abilityStartExpired rules.graceWindow now = false

theorem expire_settled (hconsistent : table.Consistent) :
    (table.expire rules now).Settled rules now :=
  fun _ _ hprocess => abilityStartExpired_expire hconsistent hprocess

namespace Fresh

/-- Up to date and without windows to end, tables with the same facts are the same. -/
theorem eq_of_sameFacts (hleft : left.Fresh rules now) (hright : right.Fresh rules now)
    (hsettledLeft : left.Settled rules now) (hsettledRight : right.Settled rules now)
    (hsame : SameFacts rules now left right) : left = right := by
  have hprocess : ∀ pid, left.process? pid = right.process? pid := by
    intro pid
    cases hfound : left.process? pid with
    | none => exact (hsame.process?_eq_none hfound).symm
    | some process =>
        obtain ⟨counterpart, hcounterpart, hfacts⟩ := hsame.exists_process hfound
        have hevaluated := hleft.evaluated (Set.notMem_empty pid) hfound
        rw [hsame.isForeground_eq] at hevaluated
        have heq : process = counterpart := hevaluated.eq_of_facts
          (hright.evaluated (Set.notMem_empty pid) hcounterpart) (hleft.plain hfound)
          (hright.plain hcounterpart) hfacts (hsettledLeft hfound) (hsettledRight hcounterpart)
        rw [hcounterpart, heq]
  exact hleft.consistent.eq_of_parts hright.consistent hsame.owner_eq hprocess hsame.head_eq

/-- What a reader sees depends on the facts only. -/
theorem expire_eq (hleft : left.Fresh rules now) (hright : right.Fresh rules now)
    (hsame : SameFacts rules now left right) :
    left.expire rules now = right.expire rules now :=
  eq_of_sameFacts (hleft.perform .expire) (hright.perform .expire)
    (expire_settled hleft.consistent) (expire_settled hright.consistent)
    (hsame.perform hleft.consistent hright.consistent .expire)

end Fresh

end Table

end MemoryReclaim
