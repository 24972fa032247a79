import MemoryReclaim.Host.Scripted
import MemoryReclaim.Proofs.Service.Applied
import MemoryReclaim.Proofs.Service.KillSafety
import MemoryReclaim.Proofs.Table.Standing

/-!
# Grace after an ability start

For the length of the grace window the process in which an ability was started is at least
as important as the window makes it, whatever else happens to it but its end; after that the
first reader finds the window closed.  The window counts from the clock as it was read for
the event, so all that is needed of time is that the clock is steady.
-/

namespace MemoryReclaim

namespace Table

variable {rules : Rules} {now since : Seconds} {table : Table} {pid : Pid} {key : BundleKey}

theorem exists_process_of_begun (hbegun : (table.standing pid).Begun key since) :
    ∃ process, table.process? pid = some process ∧ process.isAbilityStarting ∧
      since ≤ process.abilityStart := by
  obtain ⟨-, start, hstart, hsince⟩ := hbegun
  obtain ⟨process, hprocess, hgrace⟩ := Option.bind_eq_some_iff.1 hstart
  rw [ProcessRecord.graceStart?] at hgrace
  split at hgrace
  · next hstarting =>
    rw [← Option.some.inj hgrace] at hsince
    exact ⟨process, hprocess, hstarting, hsince⟩
  · cases hgrace

/-- A reader that comes once the window has passed finds it closed. -/
theorem abilityStart_ended (hconsistent : table.Consistent)
    (hnone : (table.standing pid).NoneSince key since)
    (hclosed : rules.graceWindow ≤ now - since) {process : ProcessRecord}
    (howner : (table.expire rules now).owners.get? pid = some key)
    (hprocess : (table.expire rules now).process? pid = some process) :
    process.isAbilityStarting = false := by
  by_contra hstarting
  have hstart : ((table.expire rules now).standing pid).graceStart = some process.abilityStart := by
    change ((table.expire rules now).process? pid).bind _ = _
    rw [hprocess, Option.bind_some, ProcessRecord.graceStart?,
      if_pos (Bool.eq_true_of_not_eq_false hstarting)]
  have hexpired : ((table.expire rules now).standing pid).owner = some key := howner
  rw [standing_expire hconsistent] at hstart hexpired
  obtain ⟨hbefore, hopen⟩ := Option.filter_eq_some_iff.1 hstart
  have hearly := hnone hexpired _ hbefore
  have hpassed : rules.graceWindow ≤ now - process.abilityStart :=
    Nat.le_trans hclosed (Nat.sub_le_sub_left hearly now)
  exact Nat.not_le_of_lt (of_decide_eq_true hopen) hpassed

end Table

namespace Service

variable {σ : Type} {setup : Setup σ} {service before after : Service σ}
variable {pid : Pid} {key : BundleKey} {since : Seconds}

/-- The process tracked at `pid` under `key` has had grace since `since`, unless the clock has
left the window for good. -/
structure InGrace (setup : Setup σ) (pid : Pid) (key : BundleKey) (since : Seconds)
    (service : Service σ) : Prop where
  timely : service.Timely setup
  notBefore : setup.host.NotBefore since service.host
  begun : (service.table.standing pid).Begun key since ∨
    setup.host.NotBefore (since + setup.config.graceWindow) service.host

theorem Timely.consistent (htimely : service.Timely setup) : service.table.Consistent := by
  obtain ⟨last, hfresh, -⟩ := htimely.fresh
  exact hfresh.consistent

namespace InGrace

theorem begun_of_open (hgrace : InGrace setup pid key since service)
    (hopen : (service.clock setup).1 - since < setup.config.graceWindow) :
    (service.table.standing pid).Begun key since := by
  rcases hgrace.begun with hbegun | hpassed
  · exact hbegun
  · exact absurd hopen (Nat.not_lt_of_le (Nat.le_sub_of_add_le' hpassed.le_now))

theorem carry (hgrace : InGrace setup pid key since before) (htimely : after.Timely setup)
    (hleads : setup.host.Leads before.host after.host)
    (hbegun : (before.table.standing pid).Begun key since →
      (after.table.standing pid).Begun key since) : InGrace setup pid key since after where
  timely := htimely
  notBefore := hgrace.notBefore.leads hleads
  begun := hgrace.begun.imp hbegun fun hpassed => hpassed.leads hleads

/-- The clock is read once; if it is outside the window then, it is so ever after. -/
theorem read (hgrace : InGrace setup pid key since before) (htimely : after.Timely setup)
    (hleads : setup.host.Leads (before.clock setup).2.host after.host)
    (hbegun : since ≤ (before.clock setup).1 →
      (before.clock setup).1 - since < setup.config.graceWindow →
      (before.table.standing pid).Begun key since →
      (after.table.standing pid).Begun key since) : InGrace setup pid key since after where
  timely := htimely
  notBefore := hgrace.notBefore.leads (Quiet.clock.leads.trans hleads)
  begun := by
    by_cases hopen : (before.clock setup).1 - since < setup.config.graceWindow
    · exact .inl (hbegun hgrace.notBefore.le_now hopen (hgrace.begun_of_open hopen))
    · right
      intro later hlater
      have hnow : (before.clock setup).1 ≤ (setup.host.now later).1 :=
        hgrace.timely.steady.notBefore_now later (hleads.trans hlater)
      have hsince : since ≤ (before.clock setup).1 := hgrace.notBefore.le_now
      exact Nat.le_trans (Nat.add_le_of_le_sub' hsince (Nat.le_of_not_lt hopen)) hnow

end InGrace

theorem standing_refreshed (htimely : service.Timely setup) (pid : Pid) :
    (service.refreshed setup).table.standing pid =
      (service.table.standing pid).lapse setup.config.graceWindow (service.clock setup).1 :=
  Table.standing_expire htimely.consistent pid

theorem inGrace_kept (setup : Setup σ) (pid : Pid) (key : BundleKey) (since : Seconds) :
    KeptBetweenEvents setup (InGrace setup pid key since) where
  quiet hquiet hgrace := by
    apply hgrace.carry (hgrace.timely.quiet hquiet) hquiet.leads
    rw [hquiet.table_eq]
    exact id
  refreshed hgrace := by
    apply hgrace.read (Advances.refreshed.timely hgrace.timely) .refl
    intro _ hopen hbegun
    rw [standing_refreshed hgrace.timely]
    exact hbegun.lapse hopen
  killBundle {service} bundle hgrace := by
    have hadvances : Advances setup service (service.killBundle setup bundle).2 :=
      .killBundle bundle
    apply hgrace.carry (hadvances.timely hgrace.timely) hadvances.leads
    rw [table_killBundle, Table.standing_setState]
    exact id
  setState {service} found state hgrace := by
    have hadvances : Advances setup service (service.setBundleState found state).2 :=
      .setBundleState found state
    apply hgrace.carry (hadvances.timely hgrace.timely) hadvances.leads
    rw [setBundleState, Table.standing_setState]
    exact id

/-- What an event does to a standing, it does at the time read for it. -/
theorem standing_act {action : Action} {request : ResolvedRequest}
    (hconsistent : service.table.Consistent)
    (happlied : service.applied? setup action = some request) (pid : Pid) :
    (service.act setup action).table.standing pid =
      (service.table.standing pid).after setup.config.graceWindow (service.clock setup).1
        request pid := by
  rw [(act_applies happlied).table_eq]
  exact Table.standing_apply hconsistent pid

theorem leads_act {action : Action} {request : ResolvedRequest}
    (happlied : service.applied? setup action = some request) :
    setup.host.Leads (service.clock setup).2.host (service.act setup action).host := by
  obtain ⟨updates, hact⟩ := act_eq_perform happlied
  have htold : Quiet setup _ ({ service with updates }.perform setup request) :=
    .notifyChange _
  rw [hact]
  exact htold.leads

namespace InGrace

theorem act (hgrace : InGrace setup pid key since service) {action : Action}
    (hleaves : ∀ request ∈ service.applied? setup action, request.LeavesTracked pid key) :
    InGrace setup pid key since (service.act setup action) := by
  cases happlied : service.applied? setup action with
  | none => exact (inGrace_kept setup pid key since).act happlied hgrace
  | some request =>
      apply hgrace.read ((act_advances action).timely hgrace.timely) (leads_act happlied)
      intro hsince hopen hbegun
      rw [standing_act hgrace.timely.consistent happlied]
      exact hbegun.after hsince hopen (hleaves request happlied)

theorem run (hgrace : InGrace setup pid key since service) {actions : List Action}
    (hleaves : ∀ request ∈ service.events setup actions, request.LeavesTracked pid key) :
    InGrace setup pid key since (service.run setup actions) := by
  induction actions generalizing service with
  | nil => exact hgrace
  | cons action later ih =>
      rw [events] at hleaves
      apply ih
      · apply hgrace.act
        intro request hrequest
        exact hleaves request (List.mem_append_left _ (Option.mem_toList.2 hrequest))
      · intro request hrequest
        exact hleaves request (List.mem_append_right _ hrequest)

/-- An ability start begins the grace of its target. -/
theorem of_start (htimely : service.Timely setup) {action : Action} {request : ResolvedRequest}
    (happlied : service.applied? setup action = some request)
    (hreason : request.reason = .abilityStart) :
    InGrace setup request.target.pid request.target.key (service.clock setup).1
      (service.act setup action) where
  timely := (act_advances action).timely htimely
  notBefore := htimely.steady.notBefore_now.leads (leads_act happlied)
  begun := by
    rw [standing_act htimely.consistent happlied, Standing.after_abilityStart hreason]
    by_cases hwindow : 0 < setup.config.graceWindow
    · left
      apply Standing.Begun.lapse ⟨rfl, _, rfl, Nat.le_refl _⟩
      rwa [Nat.sub_self]
    · right
      rw [Nat.eq_zero_of_not_pos hwindow]
      exact htimely.steady.notBefore_now.leads (leads_act happlied)

end InGrace

theorem noneSince_kept (setup : Setup σ) (pid : Pid) (key : BundleKey) (last : Seconds) :
    KeptBetweenEvents setup fun service => service.table.Consistent ∧
      (service.table.standing pid).NoneSince key last where
  quiet hquiet hnone := by rwa [hquiet.table_eq]
  refreshed {service} hnone := by
    refine ⟨(Table.consistent_partsKeep setup.rules).expire hnone.1, ?_⟩
    have hlapsed : (service.refreshed setup).table.standing pid = _ :=
      Table.standing_expire hnone.1 pid
    rw [hlapsed]
    exact hnone.2.lapse
  killBundle bundle hnone := by
    rw [table_killBundle, Table.standing_setState]
    exact ⟨hnone.1.setState _ _, hnone.2⟩
  setState found state hnone := by
    rw [setBundleState, Table.standing_setState]
    exact ⟨hnone.1.setState found state, hnone.2⟩

theorem run_noneSince {last : Seconds} (hconsistent : service.table.Consistent)
    (hnone : (service.table.standing pid).NoneSince key last) {actions : List Action}
    (hunstarted : ∀ request ∈ service.events setup actions, ¬ request.StartsAbility pid key) :
    let after := service.run setup actions
    after.table.Consistent ∧ (after.table.standing pid).NoneSince key last := by
  induction actions generalizing service with
  | nil => exact ⟨hconsistent, hnone⟩
  | cons action later ih =>
      rw [events] at hunstarted
      have hnext : (service.act setup action).table.Consistent ∧
          ((service.act setup action).table.standing pid).NoneSince key last := by
        cases happlied : service.applied? setup action with
        | none => exact (noneSince_kept setup pid key last).act happlied ⟨hconsistent, hnone⟩
        | some request =>
            rw [standing_act hconsistent happlied, (act_applies happlied).table_eq]
            refine ⟨(Table.consistent_partsKeep setup.rules).apply hconsistent request, ?_⟩
            apply hnone.after
            apply hunstarted
            rw [happlied]
            exact List.mem_append_left _ List.mem_cons_self
      apply ih hnext.1 hnext.2
      intro request hrequest
      exact hunstarted request (List.mem_append_right _ hrequest)

/-! ## Kills -/

/-- While the window is open, no kill above it is of a process in the bundle. -/
theorem InGrace.spares_bundle (hgrace : InGrace setup pid key since service) {floor : Priority}
    (habove : .abilityStart < floor) {call : KillCall σ}
    (hcall : call ∈ service.killOneCalls setup floor)
    (hopen : call.now - since < setup.config.graceWindow) :
    call.service.table.owners.get? call.pid ≠ some key := by
  intro howner
  obtain ⟨bundle, hchoice, ⟨record, hmem, hpid⟩, -, hnow, htable, -⟩ := of_mem_killOneCalls hcall
  obtain ⟨⟨found, hbundle⟩, -, hprocesses⟩ := choice?_spec hgrace.timely hchoice
  have hrefreshed := (inGrace_kept setup pid key since).refreshed hgrace
  have hconsistent := hrefreshed.timely.consistent
  rw [hnow] at hopen
  have hbegun := hrefreshed.begun_of_open hopen
  -- The process in grace and the one to be killed are in the same bundle.
  obtain ⟨other, hstored⟩ := OrdMap.mem_values.1 hmem
  rw [htable, ← hpid, (hprocesses other record hstored).1] at howner
  have hkey : found = key := by
    have hthere := hconsistent.owner_iff.2
      ⟨bundle, hbundle, by rw [Bundle.contains_procs]; exact Option.isSome_of_eq_some hstored⟩
    exact Option.some.inj (hthere.symm.trans howner)
  obtain ⟨process, hprocess, hstarting, hsince⟩ := Table.exists_process_of_begun hbegun
  rw [hkey] at hbundle
  rw [Table.process?_of_owner hbegun.1 hbundle] at hprocess
  have hinside : service.choiceTime setup - process.abilityStart < setup.rules.graceWindow :=
    Nat.lt_of_le_of_lt (Nat.sub_le_sub_left hsince _) hopen
  have hlow : floor ≤ .abilityStart := Int.le_trans (hprocesses pid process hprocess).2.2
    (process.tier_le_abilityStart hstarting hinside)
  exact Int.not_lt.2 hlow habove

/-- Let an event start an ability at the time `started`, on a host with a steady clock.  As
long as the process is neither ended nor its pid named for another one, every reader inside
the window finds it there with the priority of an ability start or a lower one, and no kill
above that priority which a cycle makes inside the window is of a process in its bundle.
And unless it is started again, every reader that comes after the window finds no ability
starting in it. -/
theorem abilityStart_grace (setup : Setup σ) (host : σ) (hsteady : setup.host.Steady host)
    (earlier : List Action) (action : Action) (later : List Action) (request : ResolvedRequest) :
    let before := (start host).run setup earlier
    let after := before.act setup action
    let service := after.run setup later
    let started := (before.clock setup).1
    let now := (service.clock setup).1
    let seen := (service.refreshed setup).table
    let pid := request.target.pid
    let key := request.target.key
    let window := setup.config.graceWindow
    before.applied? setup action = some request → request.reason = .abilityStart →
    ((∀ event ∈ after.events setup later, event.LeavesTracked pid key) →
      (now - started < window →
        seen.owners.get? pid = some key ∧
        ∃ process, seen.process? pid = some process ∧ process.priority ≤ .abilityStart) ∧
      ∀ call ∈ service.cycleCalls setup, .abilityStart < call.floor →
        call.now - started < window → call.service.table.owners.get? call.pid ≠ some key) ∧
    ((∀ event ∈ after.events setup later, ¬ event.StartsAbility pid key) →
      window ≤ now - started → ∀ process, seen.owners.get? pid = some key →
        seen.process? pid = some process → process.isAbilityStarting = false) := by
  intro before after service started now seen pid key window happlied hreason
  have htimely : before.Timely setup := run_timely hsteady earlier
  have hstarted : InGrace setup pid key started after := .of_start htimely happlied hreason
  constructor
  · intro hleaves
    have hgrace : InGrace setup pid key started service := hstarted.run hleaves
    constructor
    · intro hopen
      have hbegun : (seen.standing pid).Begun key started := by
        unfold seen
        rw [standing_refreshed hgrace.timely]
        exact (hgrace.begun_of_open hopen).lapse hopen
      obtain ⟨process, hprocess, hstarting, hsince⟩ := Table.exists_process_of_begun hbegun
      refine ⟨hbegun.1, process, hprocess, ?_⟩
      have hinside : now - process.abilityStart < setup.rules.graceWindow :=
        Nat.lt_of_le_of_lt (Nat.sub_le_sub_left hsince _) hopen
      rw [hgrace.timely.fresh_now.priority_eq hprocess]
      exact process.tier_le_abilityStart hstarting hinside
    · intro call hcall habove hopen
      obtain ⟨target, start, -, hmem, hsteps, -⟩ := steps_of_mem_cycleCalls hcall
      have hfloor : call.floor = target.floor := by
        obtain ⟨bundle, -, -, hfloor, -⟩ := of_mem_killOneCalls hmem
        exact hfloor
      have hpass := (inGrace_kept setup pid key started).killSteps hsteps hgrace
      exact hpass.spares_bundle (hfloor ▸ habove) hmem hopen
  · intro hunstarted hclosed process howner hprocess
    have hnone : (after.table.standing pid).NoneSince key started := by
      unfold after
      rw [standing_act htimely.consistent happlied, Standing.after_abilityStart hreason]
      apply Standing.NoneSince.lapse
      intro _ start hstart
      exact Nat.le_of_eq (Option.some.inj hstart).symm
    obtain ⟨hconsistent, hlater⟩ := run_noneSince hstarted.timely.consistent hnone hunstarted
    exact Table.abilityStart_ended hconsistent hlater hclosed howner hprocess

/-- A clock that ticks by four seconds, and a window of ten: the kill after the start of the
gallery is of the browser, and the third reader finds no ability starting any more. -/
theorem abilityStart_grace_gallery :
    let host : Host Script :=
      { Script.host with
        now := fun script => (script.clock, { script with clock := script.clock + 4 }) }
    let setup : Setup Script := ⟨host, .nameless, .default, "/proc"⟩
    let browser : ResolvedRequest := ⟨none, ⟨1, 20010001, "browser", 100⟩, .background⟩
    let gallery : ResolvedRequest := ⟨none, ⟨2, 20010002, "gallery", 100⟩, .abilityStart⟩
    let before := (start (Script.start.setReading (some 350000))).run setup [.perform browser]
    let after := before.act setup (.perform gallery)
    (∃ process, (after.refreshed setup).table.process? 2 = some process ∧
      process.priority ≤ .abilityStart) ∧
    (after.cycleCalls setup).map KillCall.pid = [1] ∧
    (∀ call ∈ after.cycleCalls setup,
      call.service.table.owners.get? call.pid ≠ some gallery.target.key) ∧
    ∃ process, ((after.run setup [.read, .read]).refreshed setup).table.process? 2 =
      some process ∧ process.isAbilityStarting = false := by
  intro host setup browser gallery before after
  have hsteady : host.Steady (Script.start.setReading (some 350000)) := by
    apply Host.Steady.of_clock Script.clock (fun _ => rfl)
    intro state later hstep
    cases hstep with
    | available => exact Nat.le_of_eq state.clock_takeReading.symm
    | now => exact Nat.le_add_right _ _
    | _ => exact Nat.le_refl _
  have hgrace := abilityStart_grace setup _ hsteady [.perform browser] (.perform gallery)
  obtain ⟨hpresent, hspared⟩ := (hgrace [] gallery rfl rfl).1 (by decide)
  have hcalls : ∀ call ∈ after.cycleCalls setup,
      .abilityStart < call.floor ∧ call.now - 104 < 10 := by decide
  refine ⟨(hpresent (by decide)).2, by decide, ?_, ?_⟩
  · intro call hcall
    exact hspared call hcall (hcalls call hcall).1 (hcalls call hcall).2
  · have hstored :
        (((after.run setup [.read, .read]).refreshed setup).table.process? 2).isSome := by
      decide
    obtain ⟨process, hprocess⟩ := Option.isSome_iff_exists.1 hstored
    exact ⟨process, hprocess, (hgrace [.read, .read] gallery rfl rfl).2 (by decide) (by decide)
      process (by decide) hprocess⟩

end Service

end MemoryReclaim
