import MemoryReclaim.Proofs.Table.Freshness
import MemoryReclaim.Proofs.Table.Visibility

/-!
# Standings

Where a process is tracked and since when it has had its grace after an ability start: this
much of a table goes through an event pid by pid, without a look at any other record.
`Standing.after` says how, and what is shown of single standings over time holds of the
table.
-/

namespace MemoryReclaim

namespace ProcessRecord

variable {process : ProcessRecord} {window now : Seconds}

/-- When the ability was started, as long as the grace for it has not been ended. -/
def graceStart? (process : ProcessRecord) : Option Seconds :=
  if process.isAbilityStarting then some process.abilityStart else none

theorem graceStart?_note (reason : Reason) (now : Seconds) (process : ProcessRecord) :
    (process.note reason now).graceStart? =
      if reason = .abilityStart then some now else process.graceStart? := by
  cases reason <;> rfl

theorem graceStart?_partedFrom (rules : Rules) (now : Seconds) (view : Pid → Bool)
    (gone peer : ProcessRecord) (pid other : Pid) :
    (gone.partedFrom rules now view pid other peer).graceStart? = peer.graceStart? := by
  simp only [partedFrom]
  split <;> split <;> rfl

theorem abilityStartExpired_eq (process : ProcessRecord) (window now : Seconds) :
    process.abilityStartExpired window now =
      process.graceStart?.any fun start => window ≤ now - start := by
  rw [abilityStartExpired, graceStart?]
  cases process.isAbilityStarting <;> rfl

end ProcessRecord

namespace ResolvedRequest

/-- An event neither ends the process that is tracked at `pid` under `key` nor names its pid
for another one. -/
def LeavesTracked (pid : Pid) (key : BundleKey) (request : ResolvedRequest) : Prop :=
  (request.reason = .processTerminated → request.target.pid ≠ pid) ∧
    ∀ identity ∈ request.ensured, identity.pid = pid → identity.key = key

/-- An event starts an ability in the process at `pid` under `key`. -/
def StartsAbility (pid : Pid) (key : BundleKey) (request : ResolvedRequest) : Prop :=
  request.reason = .abilityStart ∧ request.target.pid = pid ∧ request.target.key = key

instance (pid : Pid) (key : BundleKey) (request : ResolvedRequest) :
    Decidable (request.LeavesTracked pid key) :=
  inferInstanceAs (Decidable (_ ∧ _))

instance (pid : Pid) (key : BundleKey) (request : ResolvedRequest) :
    Decidable (request.StartsAbility pid key) :=
  inferInstanceAs (Decidable (_ ∧ _))

end ResolvedRequest

/-- Under which key a pid is tracked, and since when it has its grace. -/
structure Standing where
  owner : Option BundleKey
  graceStart : Option Seconds
  deriving DecidableEq

namespace Standing

def absent : Standing := ⟨none, none⟩

/-- At first sight a process has no grace. -/
def enroll (identity : ResolvedIdentity) (standing : Standing) : Standing :=
  if standing.owner = some identity.key then standing else ⟨some identity.key, none⟩

/-- The standing of `pid` once an event has made sure of a process. -/
def ensure (pid : Pid) (standing : Standing) (identity : ResolvedIdentity) : Standing :=
  if identity.pid = pid then standing.enroll identity else standing

def lapse (window now : Seconds) (standing : Standing) : Standing :=
  { standing with
    graceStart := standing.graceStart.filter fun start => now - start < window }

/-- The standing of `pid` with an event noted, before any window is closed. -/
def noted (now : Seconds) (request : ResolvedRequest) (pid : Pid) (standing : Standing) :
    Standing :=
  let ensured := standing.ensure pid request.target
  let begun :=
    if request.reason = .abilityStart ∧ request.target.pid = pid then
      { ensured with graceStart := some now }
    else ensured
  request.binder?.toList.foldl (ensure pid) begun

/-- The standing of `pid` after an event. -/
def after (window now : Seconds) (request : ResolvedRequest) (pid : Pid) (standing : Standing) :
    Standing :=
  match request.reason with
  | .processTerminated => if request.target.pid = pid then absent else standing
  | .abilityStartTimeout => standing.lapse window now
  | _ => (standing.noted now request pid).lapse window now

variable {window now : Seconds} {request : ResolvedRequest}

theorem after_of_live (hgoing : request.reason ≠ .processTerminated)
    (hlive : request.reason ≠ .abilityStartTimeout) (pid : Pid) (standing : Standing) :
    standing.after window now request pid = (standing.noted now request pid).lapse window now := by
  rw [after]
  split
  · contradiction
  · contradiction
  · rfl

theorem owner_ensure {pid : Pid} {identity : ResolvedIdentity} (hpid : identity.pid = pid)
    (standing : Standing) : (standing.ensure pid identity).owner = some identity.key := by
  rw [ensure, if_pos hpid, enroll]
  split
  · assumption
  · rfl

/-- An ability start gives its target grace, unless there is no window. -/
theorem after_abilityStart (hreason : request.reason = .abilityStart) (standing : Standing) :
    standing.after window now request request.target.pid =
      lapse window now ⟨some request.target.key, some now⟩ := by
  have howner : (standing.ensure request.target.pid request.target).owner =
      some request.target.key := owner_ensure rfl standing
  have hbinder : request.binder? = none := by
    rw [ResolvedRequest.binder?, hreason]
    rfl
  rw [after, hreason]
  simp only [noted, hreason, hbinder, true_and, if_true, howner]
  rfl

variable {pid : Pid} {key : BundleKey} {since : Seconds} {standing : Standing}
variable {identity : ResolvedIdentity}

/-- Tracked under `key`, with grace that has begun at `since` or later. -/
def Begun (key : BundleKey) (since : Seconds) (standing : Standing) : Prop :=
  standing.owner = some key ∧ ∃ start, standing.graceStart = some start ∧ since ≤ start

namespace Begun

theorem ensure (hbegun : standing.Begun key since)
    (hkey : identity.pid = pid → identity.key = key) :
    (standing.ensure pid identity).Begun key since := by
  rw [Standing.ensure]
  split
  · next hpid => rwa [enroll, hkey hpid, if_pos hbegun.1]
  · exact hbegun

theorem lapse (hbegun : standing.Begun key since) (hopen : now - since < window) :
    (standing.lapse window now).Begun key since := by
  obtain ⟨howner, start, hstart, hsince⟩ := hbegun
  refine ⟨howner, start, ?_, hsince⟩
  have hinside : now - start < window := Nat.lt_of_le_of_lt (Nat.sub_le_sub_left hsince now) hopen
  rw [Standing.lapse, hstart, Option.filter_some, if_pos (decide_eq_true hinside)]

theorem noted (hbegun : standing.Begun key since) (hsince : since ≤ now)
    (hkey : ∀ identity ∈ request.target :: request.binder?.toList,
      identity.pid = pid → identity.key = key) :
    (standing.noted now request pid).Begun key since := by
  have hensured : (standing.ensure pid request.target).Begun key since :=
    hbegun.ensure (hkey _ List.mem_cons_self)
  have hnoted : Begun key since
      (if request.reason = .abilityStart ∧ request.target.pid = pid then
        { standing.ensure pid request.target with graceStart := some now }
      else standing.ensure pid request.target) := by
    split
    · exact ⟨hensured.1, now, rfl, hsince⟩
    · exact hensured
  rw [Standing.noted]
  cases hbinder : request.binder? with
  | none => exact hnoted
  | some binder =>
      apply hnoted.ensure
      apply hkey binder
      rw [hbinder]
      exact List.mem_cons_of_mem _ List.mem_cons_self

/-- Inside the window only the end of the process ends its grace. -/
theorem after (hbegun : standing.Begun key since) (hsince : since ≤ now)
    (hopen : now - since < window) (hleaves : request.LeavesTracked pid key) :
    (standing.after window now request pid).Begun key since := by
  obtain ⟨hspares, hkey⟩ := hleaves
  rw [Standing.after]
  split
  · next hgone => rwa [if_neg (hspares hgone)]
  · exact hbegun.lapse hopen
  · next hgoing hlive =>
    rw [ResolvedRequest.ensured_of_live hgoing hlive] at hkey
    exact (hbegun.noted hsince hkey).lapse hopen

end Begun

/-- Grace that is had under `key` has begun at `last` or earlier. -/
def NoneSince (key : BundleKey) (last : Seconds) (standing : Standing) : Prop :=
  standing.owner = some key → ∀ start, standing.graceStart = some start → start ≤ last

namespace NoneSince

variable {last : Seconds}

theorem ensure (hnone : standing.NoneSince key last) :
    (standing.ensure pid identity).NoneSince key last := by
  rw [Standing.ensure, enroll]
  split
  · split
    · exact hnone
    · intro _ start hstart
      cases hstart
  · exact hnone

theorem lapse (hnone : standing.NoneSince key last) :
    (standing.lapse window now).NoneSince key last := by
  intro howner start hstart
  exact hnone howner start (Option.filter_eq_some_iff.1 hstart).1

theorem noted (hnone : standing.NoneSince key last)
    (hunstarted : ¬ request.StartsAbility pid key) :
    (standing.noted now request pid).NoneSince key last := by
  have hensured : (standing.ensure pid request.target).NoneSince key last := hnone.ensure
  have hnoted : NoneSince key last
      (if request.reason = .abilityStart ∧ request.target.pid = pid then
        { standing.ensure pid request.target with graceStart := some now }
      else standing.ensure pid request.target) := by
    split
    · next hstarts =>
      -- The start is under another key, so nothing is said of it.
      intro howner
      have hkey : some request.target.key = some key :=
        (owner_ensure hstarts.2 standing).symm.trans howner
      rw [Option.some.injEq] at hkey
      exact absurd ⟨hstarts.1, hstarts.2, hkey⟩ hunstarted
    · exact hensured
  rw [Standing.noted]
  cases request.binder? with
  | none => exact hnoted
  | some binder => exact hnoted.ensure

theorem after (hnone : standing.NoneSince key last)
    (hunstarted : ¬ request.StartsAbility pid key) :
    (standing.after window now request pid).NoneSince key last := by
  rw [Standing.after]
  split
  · split
    · intro howner
      cases howner
    · exact hnone
  · exact hnone.lapse
  · exact (hnone.noted hunstarted).lapse

end NoneSince

end Standing

namespace Table

variable {rules : Rules} {now : Seconds} {table after : Table} {pid other : Pid}

def graceStart? (table : Table) (pid : Pid) : Option Seconds :=
  (table.process? pid).bind ProcessRecord.graceStart?

def standing (table : Table) (pid : Pid) : Standing :=
  ⟨table.owners.get? pid, table.graceStart? pid⟩

/-! ## Changes of records -/

theorem standing_map (change : Pid → ProcessRecord → ProcessRecord)
    (howners : after.owners = table.owners)
    (hlookup : ∀ pid, after.process? pid = (table.process? pid).map (change pid))
    (hstart : ∀ pid process, (change pid process).graceStart? = process.graceStart?) :
    after.standing = table.standing := by
  funext pid
  rw [standing, standing, howners, graceStart?, graceStart?, hlookup]
  cases table.process? pid with
  | none => rfl
  | some process => exact congrArg (Standing.mk _) (hstart pid process)

theorem standing_mapAt {change : ProcessRecord → ProcessRecord}
    (howners : after.owners = table.owners)
    (hlookup : ∀ other, after.process? other =
      if pid = other then (table.process? other).map change else table.process? other)
    (hstart : ∀ process, (change process).graceStart? = process.graceStart?) :
    after.standing = table.standing := by
  apply standing_map (fun other => if pid = other then change else id) howners
  · intro other
    rw [hlookup]
    split <;> simp
  · intro other process
    split
    · exact hstart process
    · rfl

@[simp]
theorem standing_refresh (table : Table) (pid : Pid) :
    (table.refresh rules now pid).standing = table.standing :=
  standing_mapAt (owners_refresh rules now table pid) (process?_refresh rules now table pid)
    fun _ => rfl

theorem standing_refreshAll (table : Table) (pids : List Pid) :
    (table.refreshAll rules now pids).standing = table.standing :=
  foldl_invariant (motive := fun after => after.standing = table.standing)
    (fun pid hstanding => (standing_refresh _ pid).trans hstanding) rfl pids

theorem standing_bind (table : Table) (binder target : Pid) :
    (table.bind binder target).standing = table.standing := by
  cases hbinder : table.process? binder with
  | none => rw [bind_of_untracked (.inl hbinder)]
  | some consumer =>
      cases htarget : table.process? target with
      | none => rw [bind_of_untracked (.inr htarget)]
      | some extension =>
          apply standing_map _ _ (process?_bind hbinder htarget)
          · intro other process
            simp only
            split <;> split <;> rfl
          · simp only [Table.bind, hbinder, htarget, owners_modifyProcess]

theorem standing_unbind (table : Table) (binder target : Pid) :
    (table.unbind binder target).standing = table.standing := by
  apply standing_map _ _ fun other => process?_unbind binder target other table
  · intro other process
    simp only
    split <;> split <;> rfl
  · simp only [Table.unbind, owners_modifyProcess]

@[simp]
theorem standing_setState (key : BundleKey) (state : BundleState) (table : Table) :
    (table.setState key state).2.standing = table.standing := by
  funext pid
  rw [standing, standing, graceStart?, graceStart?, process?_setState]
  rfl

theorem standing_note {noted : Pid} {process : ProcessRecord}
    (hprocess : table.process? noted = some process) (reason : Reason) (now : Seconds)
    (pid : Pid) :
    (table.modifyProcess noted (.note reason now)).standing pid =
      if reason = .abilityStart ∧ noted = pid then
        { table.standing pid with graceStart := some now }
      else table.standing pid := by
  rw [standing, owners_modifyProcess, graceStart?, process?_modifyProcess, standing, graceStart?]
  by_cases hpid : noted = pid
  · rw [if_pos hpid, ← hpid, hprocess, Option.map_some, Option.bind_some, Option.bind_some,
      ProcessRecord.graceStart?_note]
    by_cases hreason : reason = .abilityStart <;> simp [hreason]
  · rw [if_neg hpid, if_neg fun hboth => hpid hboth.2]

/-! ## Windows that close -/

/-- Only grace windows that have passed are ended. -/
theorem standing_expire (hconsistent : table.Consistent) (pid : Pid) :
    (table.expire rules now).standing pid = (table.standing pid).lapse rules.graceWindow now := by
  have howners : (table.expire rules now).owners = table.owners :=
    (touches_endAbilityStart rules now).owners_foldl _ _
  have hstart : (table.expire rules now).graceStart? pid =
      (table.graceStart? pid).filter fun start => now - start < rules.graceWindow := by
    rw [graceStart?, graceStart?, expire, (touches_endAbilityStart rules now).process?_foldl]
    split
    · next hmem =>
      obtain ⟨process, hprocess, hexpired⟩ := of_mem_expiredPids hconsistent hmem
      rw [ProcessRecord.abilityStartExpired_eq, Option.any_eq_true] at hexpired
      obtain ⟨start, hstart, hpassed⟩ := hexpired
      have hclosed : ¬ now - start < rules.graceWindow :=
        Nat.not_lt_of_le (of_decide_eq_true hpassed)
      simp only [hprocess, Option.map_some, Option.bind_some, hstart, Option.filter_some,
        decide_eq_false hclosed]
      rfl
    · next hmem =>
      cases hprocess : table.process? pid with
      | none => rfl
      | some process =>
          rw [Option.bind_some]
          cases hstart : process.graceStart? with
          | none => rfl
          | some start =>
              -- Had the window passed, the pid would be among those that are gone through.
              have hopen : now - start < rules.graceWindow := by
                by_contra hclosed
                apply hmem (mem_expiredPids hconsistent hprocess _)
                rw [ProcessRecord.abilityStartExpired_eq, hstart]
                exact decide_eq_true (Nat.le_of_not_lt hclosed)
              rw [Option.filter_some, if_pos (decide_eq_true hopen)]
  rw [standing, howners, hstart]
  rfl

/-! ## Processes that come and go -/

theorem standing_remove (table : Table) (pid other : Pid) :
    (table.remove rules now pid).standing other =
      if pid = other then .absent else table.standing other := by
  rw [standing, owners_remove, graceStart?]
  cases hgone : table.process? pid with
  | none =>
      rw [process?_remove_untracked hgone]
      split
      · next hother => rw [← hother, hgone]; rfl
      · rfl
  | some gone =>
      rw [process?_remove hgone]
      split
      · rfl
      · rw [standing, graceStart?]
        cases table.process? other with
        | none => rfl
        | some peer =>
            exact congrArg (Standing.mk _) (ProcessRecord.graceStart?_partedFrom _ _ _ _ _ _ _)

theorem standing_ensure (identity : ResolvedIdentity) (table : Table) (pid : Pid) :
    (table.ensure rules now identity).standing pid = (table.standing pid).ensure pid identity := by
  have htracked : ∀ table : Table, (table.track rules now identity).standing pid =
      if identity.pid = pid then ⟨some identity.key, none⟩ else table.standing pid := by
    intro table
    rw [standing, owners_track, graceStart?, process?_track]
    split <;> rfl
  have howner : (table.standing pid).owner = table.owners.get? pid := rfl
  rw [ensure_eq, Standing.ensure, Standing.enroll, howner]
  by_cases hpid : identity.pid = pid
  · rw [if_pos hpid, hpid]
    split
    · rfl
    · rw [htracked, if_pos hpid]
  · rw [if_neg hpid]
    split
    · rfl
    · rw [htracked, if_neg hpid, standing_remove, if_neg hpid]

/-! ## Events -/

variable {request : ResolvedRequest}

theorem standing_rebind (table : Table) (pid : Pid) :
    (table.rebind rules now request).standing pid =
      request.binder?.toList.foldl (Standing.ensure pid) (table.standing pid) := by
  cases hbinder : request.binder? with
  | some caller =>
      rw [rebind_of_binder hbinder, standing_bind, standing_ensure]
      rfl
  | none =>
      rcases rebind_of_no_binder hbinder table with hrebind | ⟨binder, hrebind⟩
      · rw [hrebind]
        rfl
      · rw [hrebind, standing_unbind]
        rfl

theorem standing_noteEvent (hconsistent : table.Consistent) (pid : Pid) :
    (table.noteEvent rules now request).standing pid =
      (table.standing pid).noted now request pid := by
  obtain ⟨process, hprocess⟩ := exists_process_ensure rules now hconsistent request.target
  rw [noteEvent, standing_rebind, standing_note hprocess, standing_ensure]
  rfl

theorem standing_applyLive (hconsistent : table.Consistent) (pid : Pid) :
    (table.applyLive rules now request).standing pid =
      ((table.standing pid).noted now request pid).lapse rules.graceWindow now := by
  have hnoted : (table.noteEvent rules now request).Consistent :=
    (consistent_partsKeep rules).noteEvent hconsistent request
  rw [← standing_noteEvent hconsistent, applyLive]
  split
  · rw [standing_refreshAll, standing_refresh, standing_expire hnoted]
  · rw [standing_refresh, standing_expire hnoted]

/-- An event acts on each pid by its standing. -/
theorem standing_apply (hconsistent : table.Consistent) (pid : Pid) :
    (table.apply rules now request).2.standing pid =
      (table.standing pid).after rules.graceWindow now request pid := by
  rw [apply]
  split
  · next hgone =>
    rw [Standing.after, hgone]
    exact standing_remove _ _ _
  · next hended =>
    rw [Standing.after, hended]
    exact standing_expire hconsistent pid
  · next hgoing hlive =>
    rw [Standing.after_of_live hgoing hlive]
    exact standing_applyLive hconsistent pid

end Table

end MemoryReclaim
