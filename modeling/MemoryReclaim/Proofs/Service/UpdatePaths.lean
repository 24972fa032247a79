import MemoryReclaim.Proofs.Service.Floors
import MemoryReclaim.Proofs.Service.Twins
import MemoryReclaim.Proofs.Table.Preference

/-!
# Two ways for an update

An update is applied before the call returns, or it is posted and the worker applies it.
Both ways make the same event of it and differ in two points.  Only the first refuses a
target that has no valid user or no name, and only the worker sets timers for the ends of
grace windows.
-/

namespace MemoryReclaim

namespace Directory

variable {directory : Directory} {identity : Identity}

/-- The identities that are refused as targets. -/
def Unresolved (directory : Directory) (identity : Identity) : Prop :=
  identity.uid < 0 ∨ identity.name = "" ∧
    (directory.name? identity.pid identity.uid = none ∨
      directory.name? identity.pid identity.uid = some "")

instance (directory : Directory) (identity : Identity) :
    Decidable (directory.Unresolved identity) :=
  inferInstanceAs (Decidable (_ ∨ _ ∧ (_ ∨ _)))

theorem nameOf?_eq_none_iff :
    directory.nameOf? identity = none ↔ identity.name = "" ∧
      (directory.name? identity.pid identity.uid = none ∨
        directory.name? identity.pid identity.uid = some "") := by
  rw [nameOf?]
  by_cases hname : identity.name = ""
  · rw [if_pos (String.isEmpty_iff.2 hname), Option.filter_eq_none_iff]
    cases directory.name? identity.pid identity.uid <;> simp [hname]
  · rw [if_neg fun hempty => hname (String.isEmpty_iff.1 hempty)]
    simp [hname]

theorem ne_empty_of_nameOf? {name : String} (hname : directory.nameOf? identity = some name) :
    name ≠ "" := by
  rw [nameOf?] at hname
  split at hname
  · have hlisted := (Option.filter_eq_some_iff.1 hname).2
    simpa using hlisted
  · next hgiven =>
    rw [← Option.some.inj hname]
    simpa using hgiven

theorem placeholder_ne_empty (uid : Uid) : placeholder uid ≠ "" := by
  intro hempty
  have hlength := congrArg String.length hempty
  rw [placeholder, String.length_append] at hlength
  have hmark : "uid_".length = 4 := by decide
  have hnone : "".length = 0 := by decide
  omega

theorem name_resolveOrPlaceholder (directory : Directory) (identity : Identity) :
    (directory.resolveOrPlaceholder identity).name ≠ "" := by
  change (directory.nameOf? identity).getD (placeholder identity.uid) ≠ ""
  cases hname : directory.nameOf? identity with
  | none => exact placeholder_ne_empty identity.uid
  | some name => exact ne_empty_of_nameOf? hname

/-- A target that is not refused goes by the name that the worker would give it. -/
theorem resolve_eq (directory : Directory) (identity : Identity) :
    directory.resolve identity =
      if directory.Unresolved identity then
        .error (.identityUnresolved identity.pid identity.uid)
      else .ok (directory.resolveOrPlaceholder identity) := by
  rw [resolve, resolveOrPlaceholder]
  by_cases huid : identity.uid < 0
  · rw [if_pos huid, if_pos (.inl huid)]
  rw [if_neg huid]
  cases hname : directory.nameOf? identity with
  | none => rw [if_pos (.inr (nameOf?_eq_none_iff.1 hname))]
  | some name =>
      have hresolved : ¬ directory.Unresolved identity := by
        rintro (hinvalid | hnameless)
        · exact huid hinvalid
        · rw [nameOf?_eq_none_iff.2 hnameless] at hname
          cases hname
      rw [if_neg hresolved]
      rfl

end Directory

namespace Table

variable {rules : Rules} {now : Seconds} {table : Table} {admission : Admission}

theorem identity_mem_of_mem_admissions {identities : List ResolvedIdentity}
    (hmem : admission ∈ table.admissions rules now identities) :
    admission.identity ∈ identities := by
  induction identities generalizing table with
  | nil => cases hmem
  | cons identity later ih =>
      rw [admissions, List.mem_append] at hmem
      rcases hmem with hfirst | hlater
      · split at hfirst
        · cases hfirst
        · rw [List.mem_singleton.1 hfirst]
          exact List.mem_cons_self
      · exact List.mem_cons_of_mem _ (ih hlater)

end Table

namespace Service

variable {σ : Type} {setup : Setup σ} {service : Service σ}

/-! ## One update -/

theorem syncEvent?_eq (setup : Setup σ) (request : UpdateRequest) :
    syncEvent? setup request =
      if setup.directory.Unresolved request.target then none
      else some (queuedEvent setup request) := by
  rw [syncEvent?, Directory.resolve_eq]
  by_cases hunresolved : setup.directory.Unresolved request.target
  · rw [if_pos hunresolved, if_pos hunresolved]
  · rw [if_neg hunresolved, if_neg hunresolved]
    rfl

/-- A synchronous update is refused or does what the worker would do. -/
theorem updateNow_eq_queued (setup : Setup σ) (request : UpdateRequest) (service : Service σ) :
    service.updateNow setup request =
      if setup.directory.Unresolved request.target then
        (.error (.identityUnresolved request.target.pid request.target.uid), service)
      else (.ok (), service.perform setup (queuedEvent setup request)) := by
  rw [updateNow, Directory.resolve_eq]
  by_cases hunresolved : setup.directory.Unresolved request.target
  · rw [if_pos hunresolved, if_pos hunresolved]
  · rw [if_neg hunresolved, if_neg hunresolved]
    rfl

theorem perform_updates (setup : Setup σ) (request : ResolvedRequest) (service : Service σ)
    (updates : Option UpdateQueue) :
    { service with updates }.perform setup request =
      { service.perform setup request with updates } := by
  have hnotified : ∀ (change : Option AppStateChange) (service : Service σ),
      { service with updates }.notifyChange change =
        { service.notifyChange change with updates } := by
    intro change service
    cases change <;> rfl
  exact hnotified (service.table.apply setup.rules (service.clock setup).1 request).1
    { (service.clock setup).2 with
      table := service.table.perform setup.rules (service.clock setup).1 (.apply request) }

theorem uptime_perform (setup : Setup σ) (request : ResolvedRequest) (service : Service σ) :
    (service.perform setup request).uptime = service.uptime := by
  rw [perform_eq]
  generalize (service.table.apply setup.rules (service.clock setup).1 request).1 = change
  cases change <;> rfl

/-! ## Many updates -/

/-- The worker empties its queue by applying every update, in order. -/
theorem flush_eq (setup : Setup σ) (pending : List UpdateRequest) (timers : List Timer)
    (service : Service σ) :
    { service with updates := some ⟨pending, timers⟩ }.flush setup =
      { (pending.map (queuedEvent setup)).foldl
          (fun service event => service.perform setup event) service with
        updates := some ⟨[], timers ++
          pending.flatMap (timersAfter setup.config.graceWindow service.uptime)⟩ } := by
  -- The worker takes as many steps as there are updates, and posts none itself.
  change { service with updates := some ⟨pending, timers⟩ }.updateSteps setup pending.length = _
  induction pending generalizing timers service with
  | nil =>
      rw [List.flatMap_nil, List.append_nil]
      rfl
  | cons request later ih =>
      let added := timersAfter setup.config.graceWindow service.uptime request
      have hstep : { service with updates := some ⟨request :: later, timers⟩ }.updateStep setup =
          { service.perform setup (queuedEvent setup request) with
            updates := some ⟨later, timers ++ added⟩ } :=
        perform_updates setup _ service _
      rw [List.length_cons, updateSteps, hstep, ih, uptime_perform, List.flatMap_cons,
        ← List.append_assoc]
      rfl

/-! ## Names and accounts of bundles -/

/-- An event whose names were not looked up elsewhere comes from an update. -/
theorem exists_queuedEvent {action : Action} {request : ResolvedRequest}
    (hlooked : ∀ event, action ≠ .perform event)
    (happlied : service.applied? setup action = some request) :
    ∃ update, request = queuedEvent setup update := by
  have hsync : ∀ {update : UpdateRequest}, syncEvent? setup update = some request →
      request = queuedEvent setup update := by
    intro update hevent
    rw [syncEvent?_eq] at hevent
    split at hevent
    · cases hevent
    · exact (Option.some.inj hevent).symm
  cases action with
  | update update => exact ⟨update, hsync happlied⟩
  | perform event => exact absurd rfl (hlooked event)
  | notifyState caller info =>
      rw [applied?] at happlied
      split at happlied
      · obtain ⟨update, -, hevent⟩ := Option.bind_eq_some_iff.1 happlied
        exact ⟨update, hsync hevent⟩
      · cases happlied
  | takeUpdate =>
      obtain ⟨update, -, rfl⟩ := Option.map_eq_some_iff.1 happlied
      exact ⟨update, rfl⟩
  | _ => cases happlied

theorem exists_identity_of_mem_ensured {update : UpdateRequest} {party : ResolvedIdentity}
    (hmem : party ∈ (queuedEvent setup update).ensured) :
    ∃ identity, setup.directory.resolveOrPlaceholder identity = party := by
  have hparty : party = (queuedEvent setup update).target ∨
      some party = (queuedEvent setup update).caller := by
    rw [ResolvedRequest.ensured] at hmem
    split at hmem
    · cases hmem
    · cases hmem
    · rw [List.mem_cons, Option.mem_toList, ResolvedRequest.binder?] at hmem
      split at hmem
      · exact hmem.imp_right fun hcaller => hcaller.symm
      · exact hmem.imp_right fun hnone => absurd hnone (Option.not_mem_none _)
  rcases hparty with rfl | hcaller
  · exact ⟨update.target, rfl⟩
  · obtain ⟨caller, -, hresolved⟩ := Option.map_eq_some_iff.1 hcaller.symm
    exact ⟨caller, hresolved⟩

theorem exists_identity_of_mem_admissions {actions : List Action} {admission : Admission}
    (hlooked : ∀ event, Action.perform event ∉ actions)
    (hmem : admission ∈ service.admissions setup actions) :
    ∃ identity, setup.directory.resolveOrPlaceholder identity = admission.identity := by
  induction actions generalizing service with
  | nil => cases hmem
  | cons action later ih =>
      rw [admissions, List.mem_append] at hmem
      rcases hmem with hfirst | hlater
      · rw [admitted] at hfirst
        split at hfirst
        · cases hfirst
        · next request happlied =>
          obtain ⟨update, rfl⟩ := exists_queuedEvent
            (fun event heq => hlooked event (heq ▸ List.mem_cons_self)) happlied
          exact exists_identity_of_mem_ensured (Table.identity_mem_of_mem_admissions hfirst)
      · exact ih (fun event hevent => hlooked event (List.mem_cons_of_mem _ hevent)) hlater

/-- A bundle goes by the name and the key of an identity that was looked up. -/
theorem exists_founder (setup : Setup σ) (host : σ) {actions : List Action}
    (hlooked : ∀ event, Action.perform event ∉ actions) {key : BundleKey} {bundle : Bundle}
    (hbundle : ((start host).run setup actions).table.bundle? key = some bundle) :
    ∃ identity, (setup.directory.resolveOrPlaceholder identity).name = bundle.name ∧
      (setup.directory.resolveOrPlaceholder identity).key = bundle.key := by
  have hstart : Table.Accounted [] (start host).table := Table.empty_accounted
  have haccounted : Table.Accounted _ ((start host).run setup actions).table :=
    run_accounted hstart actions
  have hname : ((start host).run setup actions).table.bundleName? key = some bundle.name :=
    congrArg (Option.map Bundle.name) hbundle
  obtain ⟨founder, hmem, -, hkey, hfounder⟩ := haccounted.founded hname
  obtain ⟨identity, hidentity⟩ := exists_identity_of_mem_admissions hlooked hmem
  have hown : bundle.key = key := haccounted.consistent.key_eq hbundle
  refine ⟨identity, ?_⟩
  rw [hidentity, hown]
  exact ⟨hfounder, hkey⟩

theorem run_named (setup : Setup σ) (host : σ) {actions : List Action}
    (hlooked : ∀ event, Action.perform event ∉ actions) {key : BundleKey} {bundle : Bundle}
    (hbundle : ((start host).run setup actions).table.bundle? key = some bundle) :
    bundle.name ≠ "" := by
  obtain ⟨identity, hname, -⟩ := exists_founder setup host hlooked hbundle
  rw [← hname]
  exact Directory.name_resolveOrPlaceholder setup.directory identity

/-- Where all identities were looked up, the directory decides the account of every user. -/
theorem run_accountsByUser (setup : Setup σ) (host : σ) {actions : List Action}
    (hlooked : ∀ event, Action.perform event ∉ actions) :
    ((start host).run setup actions).table.AccountsByUser setup.directory.account := by
  intro key bundle hbundle
  obtain ⟨identity, -, hkey⟩ := exists_founder setup host hlooked hbundle
  rw [Bundle.key, ResolvedIdentity.key, BundleKey.mk.injEq] at hkey
  rw [← hkey.1, ← hkey.2]
  rfl

/-- A synchronous update is refused exactly if its target has no valid user or no name, and
then nothing happens.  Else it leaves the service that posting it to an idle worker leaves
once the queue is empty, but for the timer that only the worker sets.  The worker accepts every
update and applies each in its turn; and whichever way updates take, no bundle that they make
is without a name. -/
theorem update_paths_agree (setup : Setup σ) (service : Service σ) (request : UpdateRequest) :
    let answer := service.updateNow setup request
    let target := request.target
    let timersFor := timersAfter setup.config.graceWindow service.uptime
    (answer.1 = .error (.identityUnresolved target.pid target.uid) ↔
      setup.directory.Unresolved target) ∧
    (setup.directory.Unresolved target → answer.2 = service) ∧
    (¬ setup.directory.Unresolved target →
      answer.1 = .ok () ∧ ∀ timers,
        let posted := { service with updates := some ⟨[], timers⟩ }.post request
        posted.1 = .ok () ∧
          posted.2.flush setup =
            { answer.2 with updates := some ⟨[], timers ++ timersFor request⟩ }) ∧
    (∀ pending timers,
      let busy := { service with updates := some ⟨pending, timers⟩ }
      busy.post request = (.ok (), { service with updates := some ⟨pending ++ [request], timers⟩ }) ∧
      busy.flush setup =
        { (pending.map (queuedEvent setup)).foldl
            (fun service event => service.perform setup event) service with
          updates := some ⟨[], timers ++ pending.flatMap timersFor⟩ }) ∧
    ∀ host actions, (∀ event, Action.perform event ∉ actions) → ∀ key bundle,
      ((start host).run setup actions).table.bundle? key = some bundle → bundle.name ≠ "" := by
  intro answer target timersFor
  have hanswer : answer = _ := updateNow_eq_queued setup request service
  refine ⟨?_, fun hunresolved => ?_, fun hresolved => ?_, fun pending timers => ⟨rfl, ?_⟩, ?_⟩
  · rw [hanswer]
    by_cases hunresolved : setup.directory.Unresolved target
    · rw [if_pos hunresolved]
      exact iff_of_true rfl hunresolved
    · rw [if_neg hunresolved]
      exact iff_of_false nofun hunresolved
  · rw [hanswer, if_pos hunresolved]
  · rw [hanswer, if_neg hresolved]
    refine ⟨rfl, fun timers => ⟨rfl, ?_⟩⟩
    have hflush := flush_eq setup [request] timers service
    rwa [List.flatMap_cons, List.flatMap_nil, List.append_nil] at hflush
  · exact flush_eq setup pending timers service
  · exact fun host actions hlooked key bundle hbundle => run_named setup host hlooked hbundle

/-- The start of a gallery goes both ways, though its caller has no name.  A camera without a
name is refused by a call and goes by a placeholder when it is posted. -/
theorem update_paths_agree_gallery :
    let setup : Setup Script := ⟨Script.host, .nameless, .default, "/proc"⟩
    let service := start Script.start
    let idle := { service with updates := some ⟨[], []⟩ }
    let gallery : UpdateRequest :=
      ⟨some (.unnamed 1 20010001), ⟨2, 20010002, "gallery"⟩, .abilityStart⟩
    let camera : UpdateRequest := .single (.unnamed 3 20010003) .createProcess
    let actions : List Action := [.startUpdates true, .post camera, .takeUpdate]
    let table := ((start Script.start).run setup actions).table
    (service.updateNow setup gallery).1 = .ok () ∧
    ((idle.post gallery).2.flush setup).table = (service.updateNow setup gallery).2.table ∧
    ((idle.post gallery).2.flush setup).updates.map
      (fun queue => (queue.pending, queue.timers.map Timer.target)) = some ([], [gallery.target]) ∧
    (service.updateNow setup camera).1 = .error (.identityUnresolved 3 20010003) ∧
    (service.updateNow setup camera).2 = service ∧
    table.bundleName? ⟨100, 20010003⟩ = some "uid_20010003" ∧
    ∀ bundle, table.bundle? ⟨100, 20010003⟩ = some bundle → bundle.name ≠ "" := by
  intro setup service idle gallery camera actions table
  obtain ⟨-, -, happlied, -⟩ := update_paths_agree setup service gallery
  obtain ⟨hrefused, hunchanged, -, -, hnamed⟩ := update_paths_agree setup service camera
  obtain ⟨hanswer, hposted⟩ := happlied (by decide)
  obtain ⟨-, hflush⟩ := hposted []
  refine ⟨hanswer, ?_, ?_, hrefused.2 (by decide), hunchanged (by decide), by decide, ?_⟩
  · rw [hflush]
  · rw [hflush]
    rfl
  · exact hnamed Script.start actions (by simp [actions]) ⟨100, 20010003⟩

end Service

end MemoryReclaim
