import MemoryReclaim.Proofs.Table.Bystanders
import MemoryReclaim.Proofs.Table.Facts

/-!
# Independent events

Two events without callers are independent when they are about different users under
different pids and neither takes a pid from another identity.  They can still meet: one may
end a process that the other's target is bound with, or evaluate a record that the other
changes.  But what they leave of bindings does not depend on the order, and an evaluation
leaves no facts.  So either order leads to the same facts, and readers see the same table.
-/

namespace MemoryReclaim

namespace ProcessRecord

variable {rules : Rules} {window now later : Seconds} {view : Pid → Bool} {pid : Pid}

theorem dropBinder_of_unbound {process : ProcessRecord}
    (hunbound : process.isBoundBy pid = false) : process.dropBinder pid = process := by
  have habsent : process.boundBy.get? pid = none := by
    rw [← Option.not_isSome_iff_eq_none]
    exact Bool.eq_false_iff.1 hunbound
  rw [dropBinder, OrdMap.erase_of_absent habsent]

/-- A record without its bindings with `pid`, before it is evaluated anew. -/
def forget (pid : Pid) (process : ProcessRecord) : ProcessRecord :=
  (process.dropBinding pid).dropBinder pid

theorem facts_outlive (process : ProcessRecord) :
    (process.outlive rules later view pid).facts window now =
      (process.facts window now).forget pid := by
  cases hbound : process.isBoundBy pid with
  | true =>
      rw [outlive, hbound]
      rfl
  | false =>
      have hunbound : ((process.facts window now).dropBinding pid).isBoundBy pid = false := hbound
      rw [outlive, hbound, forget, dropBinder_of_unbound hunbound]
      rfl

theorem forget_comm (pid other : Pid) (process : ProcessRecord) :
    (process.forget pid).forget other = (process.forget other).forget pid := by
  simp only [forget, dropBinding, dropBinder, OrdMap.erase_comm _ pid other]

theorem facts_note_facts (reason : Reason) (process : ProcessRecord) :
    ((process.facts window now).note reason now).facts window now =
      (process.note reason now).facts window now :=
  facts_note reason (facts_facts (Nat.le_refl now) process)

end ProcessRecord

namespace ResolvedRequest

variable {rules : Rules} {now : Seconds} {request : ResolvedRequest}

/-- What an event without a caller makes of the facts of any process but its target. -/
def peerFacts (request : ResolvedRequest) (facts : ProcessRecord) : ProcessRecord :=
  if request.reason = .processTerminated then facts.forget request.target.pid else facts

/-- What it makes of the facts of its target, which begin as `fresh` where there are none. -/
def targetFacts (rules : Rules) (now : Seconds) (request : ResolvedRequest)
    (fresh : ProcessRecord) (found : Option ProcessRecord) : Option ProcessRecord :=
  match request.reason with
  | .processTerminated => none
  | .abilityStartTimeout => found
  | reason => some (((found.getD fresh).note reason now).facts rules.graceWindow now)

theorem targetFacts_of_live (hgoing : request.reason ≠ .processTerminated)
    (hlive : request.reason ≠ .abilityStartTimeout) (fresh : ProcessRecord)
    (found : Option ProcessRecord) :
    request.targetFacts rules now fresh found =
      some (((found.getD fresh).note request.reason now).facts rules.graceWindow now) := by
  rw [targetFacts]
  split
  · contradiction
  · contradiction
  · rfl

theorem peerFacts_comm (first second : ResolvedRequest) (facts : ProcessRecord) :
    second.peerFacts (first.peerFacts facts) = first.peerFacts (second.peerFacts facts) := by
  rw [peerFacts, peerFacts, peerFacts, peerFacts]
  split <;> split
  · exact ProcessRecord.forget_comm _ _ _
  · rfl
  · rfl
  · rfl

theorem facts_note_peerFacts (reason : Reason) (facts : ProcessRecord) :
    ((request.peerFacts facts).note reason now).facts rules.graceWindow now =
      request.peerFacts ((facts.note reason now).facts rules.graceWindow now) := by
  rw [peerFacts, peerFacts]
  split
  · cases reason <;> rfl
  · rfl

/-- It makes no difference whether a process changes before or after it loses a peer, unless
it begins with bindings. -/
theorem targetFacts_map_peerFacts {other : ResolvedRequest} {fresh : ProcessRecord}
    (hfresh : other.peerFacts fresh = fresh) (found : Option ProcessRecord) :
    request.targetFacts rules now fresh (found.map other.peerFacts) =
      (request.targetFacts rules now fresh found).map other.peerFacts := by
  rw [targetFacts, targetFacts]
  split
  · rfl
  · rfl
  · have hfound : (found.map other.peerFacts).getD fresh =
        other.peerFacts (found.getD fresh) := by
      cases found with
      | none => exact hfresh.symm
      | some facts => rfl
    rw [hfound, facts_note_peerFacts, Option.map_some]

end ResolvedRequest

namespace Table

variable {rules : Rules} {now : Seconds} {table left right : Table} {key : BundleKey}
variable {pid : Pid} {identity : ResolvedIdentity} {request first second : ResolvedRequest}

/-- The pid of an identity is not tracked, or tracked as that identity. -/
def NoReuse (identity : ResolvedIdentity) (table : Table) : Prop :=
  table.owners.get? identity.pid = none ∨ table.owners.get? identity.pid = some identity.key

instance (identity : ResolvedIdentity) (table : Table) : Decidable (table.NoReuse identity) :=
  inferInstanceAs (Decidable (_ ∨ _))

/-- What an event without a caller does before any priority is brought up to date. -/
def enact (rules : Rules) (now : Seconds) (request : ResolvedRequest) (table : Table) : Table :=
  match request.reason with
  | .processTerminated => table.remove rules now request.target.pid
  | .abilityStartTimeout => table
  | _ => table.noteTarget rules now request

theorem enact_of_live (hgoing : request.reason ≠ .processTerminated)
    (hlive : request.reason ≠ .abilityStartTimeout) (table : Table) :
    table.enact rules now request = table.noteTarget rules now request := by
  rw [enact]
  split
  · contradiction
  · contradiction
  · rfl

theorem rebind_of_alone (halone : request.caller = none) (table : Table) :
    table.rebind rules now request = table := by
  rw [rebind, halone]
  split
  · next hcaller => cases hcaller
  · next hcaller => cases hcaller
  · rfl

theorem enact_consistent (hconsistent : table.Consistent) :
    (table.enact rules now request).Consistent := by
  rw [enact]
  split
  · exact hconsistent.remove _
  · exact hconsistent
  · exact noteTarget_consistent hconsistent

theorem enact_paired (hpaired : table.Paired) : (table.enact rules now request).Paired := by
  rw [enact]
  split
  · exact hpaired.remove _
  · exact hpaired
  · exact noteTarget_paired hpaired

/-- All that follows in an event only brings priorities up to date. -/
theorem enact_apply (halone : request.caller = none) (hconsistent : table.Consistent) :
    SameFacts rules now (table.enact rules now request) (table.apply rules now request).2 := by
  by_cases hgoing : request.reason = .processTerminated
  · rw [enact, apply, hgoing]
    exact .refl
  by_cases hended : request.reason = .abilityStartTimeout
  · rw [enact, apply, hended]
    exact .expire hconsistent (Nat.le_refl now)
  rw [enact_of_live hgoing hended, apply_of_live hgoing hended]
  have hnoted : SameFacts rules now (table.noteEvent rules now request)
      (table.applyLive rules now request) := .noteEvent_applyLive hconsistent
  rwa [noteEvent_eq, rebind_of_alone halone] at hnoted

/-! ## What one event leaves -/

theorem owners_enact (request : ResolvedRequest) (table : Table) (other : Pid) :
    (table.enact rules now request).owners.get? other =
      if request.target.pid = other then
        match request.reason with
        | .processTerminated => none
        | .abilityStartTimeout => table.owners.get? other
        | _ => some request.target.key
      else table.owners.get? other := by
  rw [enact]
  split
  · rw [owners_remove]
  · rw [ite_self]
  · rw [noteTarget, owners_modifyProcess, owners_ensure]

theorem owners_enact_of_ne (hne : request.target.pid ≠ pid) :
    (table.enact rules now request).owners.get? pid = table.owners.get? pid := by
  rw [owners_enact, if_neg hne]

theorem NoReuse.enact (hfree : table.NoReuse identity) (hne : request.target.pid ≠ identity.pid) :
    (table.enact rules now request).NoReuse identity := by
  rw [NoReuse, owners_enact_of_ne hne]
  exact hfree

/-- Under all other keys the same processes are tracked. -/
theorem member_enact_of_ne (hfree : table.NoReuse request.target)
    (hkey : request.target.key ≠ key) (pid : Pid) :
    (table.enact rules now request).owners.get? pid = some key ↔
      table.owners.get? pid = some key := by
  rw [owners_enact]
  split
  · next hpid =>
    have hbefore : table.owners.get? pid ≠ some key := by
      rw [← hpid]
      rcases hfree with hnone | hown
      · rw [hnone]
        exact nofun
      · rw [hown]
        exact fun heq => hkey (Option.some.inj heq)
    split
    · exact iff_of_false nofun hbefore
    · rfl
    · exact iff_of_false (fun heq => hkey (Option.some.inj heq)) hbefore
  · rfl

theorem NoReuse.ensure_eq (hfree : table.NoReuse identity) :
    table.ensure rules now identity =
      if table.owners.get? identity.pid = none then table.track rules now identity else table := by
  rw [Table.ensure_eq]
  rcases hfree with hnone | hown
  · rw [hnone, if_neg (Option.some_ne_none _).symm, if_pos rfl, remove, hnone]
  · rw [hown, if_pos rfl, if_neg (Option.some_ne_none _)]

/-- The facts of the process tracked under a pid. -/
def facts? (rules : Rules) (now : Seconds) (table : Table) (pid : Pid) : Option ProcessRecord :=
  (table.process? pid).map (.facts rules.graceWindow now)

/-- The facts with which a process begins at first sight. -/
def freshFacts (rules : Rules) (now : Seconds) (identity : ResolvedIdentity) (table : Table) :
    ProcessRecord :=
  (ProcessRecord.newcomer rules now (table.hostBundle now identity).name identity.pid
    identity.uid).facts rules.graceWindow now

theorem facts_enact_target (hconsistent : table.Consistent) (hpaired : table.Paired)
    (hfree : table.NoReuse request.target) :
    (table.enact rules now request).facts? rules now request.target.pid =
      request.targetFacts rules now (table.freshFacts rules now request.target)
        (table.facts? rules now request.target.pid) := by
  rw [facts?, facts?]
  by_cases hgoing : request.reason = .processTerminated
  · rw [enact, ResolvedRequest.targetFacts, hgoing, hpaired.process?_remove, if_pos rfl]
    rfl
  by_cases hended : request.reason = .abilityStartTimeout
  · rw [enact, ResolvedRequest.targetFacts, hended]
  rw [enact_of_live hgoing hended, ResolvedRequest.targetFacts_of_live hgoing hended, noteTarget,
    process?_modifyProcess, if_pos rfl, hfree.ensure_eq]
  rcases hfree with hnone | hown
  · rw [if_pos hnone, process?_track, if_pos rfl, process?_of_ownerless hnone]
    exact congrArg some (ProcessRecord.facts_note_facts request.reason _).symm
  · obtain ⟨bundle, process, hbundle, hprocess⟩ := hconsistent.exists_process hown
    rw [hown, if_neg (Option.some_ne_none _), hconsistent.process?_eq hbundle hprocess]
    exact congrArg some (ProcessRecord.facts_note_facts request.reason _).symm

/-- Other processes only lose their bindings with a target that ends. -/
theorem facts_enact_of_ne (hpaired : table.Paired) (hfree : table.NoReuse request.target)
    (hne : request.target.pid ≠ pid) :
    (table.enact rules now request).facts? rules now pid =
      (table.facts? rules now pid).map request.peerFacts := by
  rw [facts?, facts?]
  by_cases hgoing : request.reason = .processTerminated
  · have hforget : request.peerFacts = .forget request.target.pid := by
      funext facts
      rw [ResolvedRequest.peerFacts, if_pos hgoing]
    rw [enact, hgoing, hpaired.process?_remove, if_neg hne, hforget, Option.map_map,
      Option.map_map]
    exact congrArg (Option.map · _) (funext ProcessRecord.facts_outlive)
  have hsame : request.peerFacts = id := by
    funext facts
    rw [ResolvedRequest.peerFacts, if_neg hgoing, id]
  rw [hsame, Option.map_id, id]
  by_cases hended : request.reason = .abilityStartTimeout
  · rw [enact, hended]
  rw [enact_of_live hgoing hended, noteTarget, process?_modifyProcess, if_neg hne,
    hfree.ensure_eq]
  split
  · rw [process?_track, if_neg hne]
  · rfl

/-! ## Heads of bundles -/

theorem inherits_enact (hkey : request.target.key ≠ key) :
    Inherits key table (table.enact rules now request) := by
  rw [enact]
  split
  · exact .remove _
  · exact .refl
  · exact (Inherits.ensure (.inr hkey)).trans (.modifyProcess _ _)

theorem head_enact_of_ne (hconsistent : table.Consistent) (hfree : table.NoReuse request.target)
    (hkey : request.target.key ≠ key) :
    ((table.enact rules now request).bundle? key).map Bundle.head =
      (table.bundle? key).map Bundle.head :=
  head_eq_of_inherits rfl (inherits_enact hkey) .refl (enact_consistent hconsistent)
    hconsistent (member_enact_of_ne hfree hkey)

theorem head_modifyProcess (table : Table) (pid : Pid) (change : ProcessRecord → ProcessRecord)
    (key : BundleKey) :
    ((table.modifyProcess pid change).bundle? key).map Bundle.head =
      (table.bundle? key).map Bundle.head := by
  rw [modifyProcess, bundle?_modifyOwner]
  split
  · rw [Option.map_map]
    rfl
  · rfl

/-- The bundle of the target is decided by what that bundle was and by who was in it. -/
theorem head_enact_target (hleft : left.Consistent) (hright : right.Consistent)
    (hfree : left.NoReuse request.target)
    (howner : right.owners.get? request.target.pid = left.owners.get? request.target.pid)
    (hmembers : ∀ pid, left.owners.get? pid = some request.target.key ↔
      right.owners.get? pid = some request.target.key)
    (hhead : (left.bundle? request.target.key).map Bundle.head =
      (right.bundle? request.target.key).map Bundle.head) :
    ((left.enact rules now request).bundle? request.target.key).map Bundle.head =
      ((right.enact rules now request).bundle? request.target.key).map Bundle.head := by
  by_cases hgoing : request.reason = .processTerminated
  · rw [enact, enact, hgoing]
    apply head_eq_of_inherits hhead (.remove _) (.remove _) (hleft.remove _) (hright.remove _)
    intro pid
    rw [owners_remove, owners_remove]
    split
    · rfl
    · exact hmembers pid
  by_cases hended : request.reason = .abilityStartTimeout
  · rw [enact, enact, hended]
    exact hhead
  have hfreeRight : right.NoReuse request.target := by
    rw [NoReuse, howner]
    exact hfree
  rw [enact_of_live hgoing hended, enact_of_live hgoing hended, noteTarget, noteTarget,
    head_modifyProcess, head_modifyProcess, hfree.ensure_eq, hfreeRight.ensure_eq, howner]
  split
  · rw [bundle?_track, if_pos rfl, bundle?_track, if_pos rfl]
    exact congrArg some (head_hostBundle request.target hhead)
  · exact hhead

/-! ## Two events -/

/-- An event about another user finds the first facts of a process as they are. -/
theorem freshFacts_enact (hconsistent : table.Consistent) (hfree : table.NoReuse request.target)
    (hkey : request.target.key ≠ identity.key) :
    (table.enact rules now request).freshFacts rules now identity =
      table.freshFacts rules now identity := by
  have hname : ((table.enact rules now request).hostBundle now identity).name =
      (table.hostBundle now identity).name :=
    congrArg (fun bundle => bundle.name)
      (head_hostBundle identity (head_enact_of_ne hconsistent hfree hkey))
  rw [freshFacts, freshFacts, hname]

theorem peerFacts_freshFacts (identity : ResolvedIdentity) (table : Table) :
    request.peerFacts (table.freshFacts rules now identity) =
      table.freshFacts rules now identity := by
  rw [ResolvedRequest.peerFacts]
  split <;> rfl

/-- The target of the first of two events has the same facts whichever of them comes first. -/
theorem facts_enact_enact (hconsistent : table.Consistent) (hpaired : table.Paired)
    (hpid : second.target.pid ≠ first.target.pid) (hkey : second.target.key ≠ first.target.key)
    (hfirst : table.NoReuse first.target) (hsecond : table.NoReuse second.target) :
    ((table.enact rules now first).enact rules now second).facts? rules now first.target.pid =
      ((table.enact rules now second).enact rules now first).facts? rules now
        first.target.pid := by
  rw [facts_enact_of_ne (enact_paired hpaired) (hsecond.enact hpid.symm) hpid,
    facts_enact_target hconsistent hpaired hfirst,
    facts_enact_target (enact_consistent hconsistent) (enact_paired hpaired) (hfirst.enact hpid),
    facts_enact_of_ne hpaired hsecond hpid, freshFacts_enact hconsistent hsecond hkey,
    ResolvedRequest.targetFacts_map_peerFacts (peerFacts_freshFacts _ _)]

theorem head_enact_enact (hconsistent : table.Consistent)
    (hpid : second.target.pid ≠ first.target.pid) (hkey : second.target.key ≠ first.target.key)
    (hfirst : table.NoReuse first.target) (hsecond : table.NoReuse second.target) :
    (((table.enact rules now first).enact rules now second).bundle? first.target.key).map
        Bundle.head =
      (((table.enact rules now second).enact rules now first).bundle? first.target.key).map
        Bundle.head := by
  rw [head_enact_of_ne (enact_consistent hconsistent) (hsecond.enact hpid.symm) hkey]
  apply head_enact_target hconsistent (enact_consistent hconsistent) hfirst
  · exact owners_enact_of_ne hpid
  · exact fun pid => (member_enact_of_ne hsecond hkey pid).symm
  · exact (head_enact_of_ne hconsistent hsecond hkey).symm

theorem enact_comm (hconsistent : table.Consistent) (hpaired : table.Paired)
    (hpid : first.target.pid ≠ second.target.pid) (hkey : first.target.key ≠ second.target.key)
    (hfirst : table.NoReuse first.target) (hsecond : table.NoReuse second.target) :
    SameFacts rules now ((table.enact rules now first).enact rules now second)
      ((table.enact rules now second).enact rules now first) where
  owner_eq pid := by
    by_cases hone : first.target.pid = pid
    · have hother : second.target.pid ≠ pid := fun heq => hpid (hone.trans heq.symm)
      rw [owners_enact_of_ne hother]
      simp only [owners_enact first, if_pos hone, owners_enact_of_ne hother]
    · rw [owners_enact_of_ne hone]
      simp only [owners_enact second, owners_enact_of_ne hone]
  facts_eq pid := by
    rw [← facts?, ← facts?]
    by_cases hone : first.target.pid = pid
    · rw [← hone]
      exact facts_enact_enact hconsistent hpaired hpid.symm hkey.symm hfirst hsecond
    by_cases hother : second.target.pid = pid
    · rw [← hother]
      exact (facts_enact_enact hconsistent hpaired hpid hkey hsecond hfirst).symm
    rw [facts_enact_of_ne (enact_paired hpaired) (hsecond.enact hpid) hother,
      facts_enact_of_ne hpaired hfirst hone,
      facts_enact_of_ne (enact_paired hpaired) (hfirst.enact hpid.symm) hone,
      facts_enact_of_ne hpaired hsecond hother, Option.map_map, Option.map_map]
    exact congrArg (Option.map · (table.facts? rules now pid))
      (funext (ResolvedRequest.peerFacts_comm first second))
  head_eq key := by
    by_cases hone : first.target.key = key
    · rw [← hone]
      exact head_enact_enact hconsistent hpid.symm hkey.symm hfirst hsecond
    by_cases hother : second.target.key = key
    · rw [← hother]
      exact (head_enact_enact hconsistent hpid hkey hsecond hfirst).symm
    rw [head_enact_of_ne (enact_consistent hconsistent) (hsecond.enact hpid) hother,
      head_enact_of_ne hconsistent hfirst hone,
      head_enact_of_ne (enact_consistent hconsistent) (hfirst.enact hpid.symm) hone,
      head_enact_of_ne hconsistent hsecond hother]

/-- Two events in a row have the facts of what they do. -/
theorem enact_enact_apply (hconsistent : table.Consistent) (hfirst : first.caller = none)
    (hsecond : second.caller = none) :
    SameFacts rules now ((table.enact rules now first).enact rules now second)
      ((table.apply rules now first).2.apply rules now second).2 := by
  have hbegun : (table.enact rules now first).Consistent := enact_consistent hconsistent
  have hdone : (table.apply rules now first).2.Consistent :=
    (consistent_partsKeep rules).apply hconsistent first
  exact (enact_apply hsecond hbegun).trans
    ((enact_apply hfirst hconsistent).apply hbegun hdone second)

/-- After any history in order of time, two events without callers about different users under
different pids, neither of which shows a pid to be reused, can change places: from then on
readers see one and the same table, and subscribers are told the same of each event. -/
theorem independent_events_commute (rules : Rules) (history : History) (now : Seconds)
    (first second : ResolvedRequest) (hchronological : history.Chronological now)
    (hfirst : first.caller = none) (hsecond : second.caller = none)
    (hpid : first.target.pid ≠ second.target.pid) (huid : first.target.uid ≠ second.target.uid)
    (hfirstPid : (empty.run rules history).NoReuse first.target)
    (hsecondPid : (empty.run rules history).NoReuse second.target) :
    let table := empty.run rules history
    let one := table.apply rules now first
    let other := table.apply rules now second
    (∀ later, now ≤ later →
      (one.2.apply rules now second).2.expire rules later =
        (other.2.apply rules now first).2.expire rules later) ∧
    (other.2.apply rules now first).1 = one.1 ∧ (one.2.apply rules now second).1 = other.1 := by
  intro table one other
  have hfresh : table.Fresh rules now := .run hchronological
  have hkey : first.target.key ≠ second.target.key :=
    fun heq => huid (congrArg BundleKey.uid heq)
  have hsame : SameFacts rules now (one.2.apply rules now second).2
      (other.2.apply rules now first).2 :=
    ((enact_enact_apply hfresh.consistent hfirst hsecond).symm.trans
      (enact_comm hfresh.consistent hfresh.paired hpid hkey hfirstPid hsecondPid)).trans
      (enact_enact_apply hfresh.consistent hsecond hfirst)
  have htwice : ∀ earlier later : ResolvedRequest,
      ((table.apply rules now earlier).2.apply rules now later).2.Fresh rules now :=
    fun earlier later => (hfresh.perform (.apply earlier)).perform (.apply later)
  refine ⟨fun later hle => ?_, change_apply rules now first _ _, change_apply rules now second _ _⟩
  exact ((htwice first second).wait hle).expire_eq ((htwice second first).wait hle)
    (hsame.mono hle)

/-- A launcher in the foreground ends just as the gallery that it is bound to starts an
ability: in either order the gallery is left with the grace of its start. -/
theorem independent_events_commute_boundGallery :
    let rules : Rules := ⟨10, .empty⟩
    let launcher : ResolvedIdentity := ⟨1, 20010001, "launcher", 100⟩
    let gallery : ResolvedIdentity := ⟨2, 20010002, "gallery", 100⟩
    let history : History :=
      [(0, .apply ⟨none, launcher, .foreground⟩),
        (1, .apply ⟨some launcher, gallery, .bindExtension⟩)]
    let table := empty.run rules history
    let ended := (table.apply rules 5 ⟨none, launcher, .processTerminated⟩).2
    let started := (table.apply rules 5 ⟨none, gallery, .abilityStart⟩).2
    let endedFirst := (ended.apply rules 5 ⟨none, gallery, .abilityStart⟩).2
    let startedFirst := (started.apply rules 5 ⟨none, launcher, .processTerminated⟩).2
    history.Chronological 5 ∧ table.NoReuse launcher ∧ table.NoReuse gallery ∧
      (started.process? 2).map ProcessRecord.priority = some .boundFromForeground ∧
      ((endedFirst.expire rules 14).process? 2).map ProcessRecord.priority = some .abilityStart ∧
      endedFirst.expire rules 14 = startedFirst.expire rules 14 := by
  intro rules launcher gallery history table ended started endedFirst startedFirst
  have hchronological : history.Chronological 5 := by decide
  have hlauncher : table.NoReuse launcher := by decide
  have hgallery : table.NoReuse gallery := by decide
  obtain ⟨hcommute, -⟩ := independent_events_commute rules history 5
    ⟨none, launcher, .processTerminated⟩ ⟨none, gallery, .abilityStart⟩ hchronological rfl rfl
    (by decide) (by decide) hlauncher hgallery
  exact ⟨hchronological, hlauncher, hgallery, by decide, by decide, hcommute 14 (by decide)⟩

end Table

end MemoryReclaim
