import MemoryReclaim.Host.Machine
import MemoryReclaim.Host.Scripted
import MemoryReclaim.Proofs.Service.Applied

/-!
# Refused callers

Four calls are reserved for one user each, and a process may flag only itself.  Whoever else
makes such a call is told so and has no influence: without the refused calls, a run gives
the same answers to the others, uses the host in the same way and ends in the same state.
-/

namespace MemoryReclaim

/-- Every fault of a read names the file as unreadable. -/
def Host.ReportsUnreadable {σ : Type} (host : Host σ) : Prop :=
  ∀ path state fault, (host.read path state).1 = .error fault →
    ∃ reason, fault = .unreadable path reason

theorem Machine.host_reportsUnreadable : Machine.host.ReportsUnreadable := by
  intro path machine fault hread
  change machine.readFile path = .error fault at hread
  rw [readFile] at hread
  cases htext : machine.readText path with
  | ok content =>
      rw [htext] at hread
      cases hread
  | error reason =>
      rw [htext] at hread
      exact ⟨reason.reason, (Except.error.inj hread).symm⟩

theorem Script.host_reportsUnreadable : Script.host.ReportsUnreadable := by
  intro path script fault hread
  change script.readFile path = .error fault at hread
  rw [readFile] at hread
  cases hfile : script.files.get? path.canonical with
  | some content =>
      rw [hfile] at hread
      cases hread
  | none =>
      rw [hfile] at hread
      exact ⟨"not found", (Except.error.inj hread).symm⟩

/-- One use of a host, with what the host answered. -/
inductive Host.Use
  | available (reading : Option Kilobytes)
  | total (amount : Option Kilobytes)
  | killed (pid : Pid) (freed : Kilobytes)
  | read (path : Path) (content : Except Fault String)
  | wrote (path : Path) (content : String) (mode : WriteMode) (result : Except Fault Unit)
  | now (time : Seconds)

/-- The same host, which keeps a list of its uses. -/
def Host.recording {σ : Type} (host : Host σ) : Host (σ × List Host.Use) where
  available := fun (state, uses) =>
    let (reading, state) := host.available state
    (reading, state, uses ++ [.available reading])
  total := fun (state, uses) =>
    let (amount, state) := host.total state
    (amount, state, uses ++ [.total amount])
  kill pid := fun (state, uses) =>
    let (freed, state) := host.kill pid state
    (freed, state, uses ++ [.killed pid freed])
  read path := fun (state, uses) =>
    let (content, state) := host.read path state
    (content, state, uses ++ [.read path content])
  write path content mode := fun (state, uses) =>
    let (result, state) := host.write path content mode state
    (result, state, uses ++ [.wrote path content mode result])
  now := fun (state, uses) =>
    let (time, state) := host.now state
    (time, state, uses ++ [.now time])

def Setup.recording {σ : Type} (setup : Setup σ) : Setup (σ × List Host.Use) :=
  ⟨setup.host.recording, setup.directory, setup.config, setup.procRoot⟩

namespace Service

variable {σ : Type} {setup : Setup σ} {service : Service σ}

/-! ## Runs of calls -/

/-- A call from another service. -/
inductive Invocation
  | init (hasRuntime : Bool)
  | shutdown
  | bundleList
  | notifyDevice (pid : Pid) (uid : Uid) (name : String) (connected : Bool)
  | killLevel
  | kernelPriority (caller : Uid) (pid : Pid)
  | notifyStateNow (caller : Uid) (info : ProcessStateInfo)
  | notifyStateQueued (caller : Uid) (info : ProcessStateInfo)
  | availableMemory
  | totalMemory
  | notifyWindows (caller : Uid) (windows : List WindowInfo)
  | notifyLifecycle (request : UpdateRequest)
  | subscribe (name : SubscriberName)
  | unsubscribe (name : SubscriberName)
  | notifyProcessStatus (pid : Pid) (kind status ability : Int)
  | setCritical (calling pid : Pid) (critical : Bool) (ability : Int)
  | dump (arguments : List String)

inductive Reply
  | done
  | flag (value : Bool)
  | bundles (summaries : List BundleSummary)
  | level (killLevel : Nat)
  | result (result : Except Fault Unit)
  | priority (result : Except Fault Priority)
  | amount (result : Except Fault Kilobytes)
  | text (dump : String)

def invoke (setup : Setup σ) (service : Service σ) : Invocation → Reply × Service σ
  | .init hasRuntime => (service.init hasRuntime).map .flag id
  | .shutdown => (.done, service.shutdown setup)
  | .bundleList => (service.bundleList setup).map .bundles id
  | .notifyDevice pid uid name connected =>
      (service.notifyDevice pid uid name connected).map .result id
  | .killLevel => (.level service.killLevel, service)
  | .kernelPriority caller pid => (service.kernelPriority setup caller pid).map .priority id
  | .notifyStateNow caller info => (service.notifyStateNow setup caller info).map .result id
  | .notifyStateQueued caller info =>
      (service.notifyStateQueued setup caller info).map .result id
  | .availableMemory => (service.availableMemory setup).map .amount id
  | .totalMemory => (service.totalMemory setup).map .amount id
  | .notifyWindows caller windows => (service.notifyWindows setup caller windows).map .result id
  | .notifyLifecycle request => (service.notifyLifecycle request).map .result id
  | .subscribe name => (service.subscribe name).map .flag id
  | .unsubscribe name => (service.unsubscribe name).map .flag id
  | .notifyProcessStatus pid kind status ability =>
      (service.notifyProcessStatus pid kind status ability).map .result id
  | .setCritical calling pid critical ability =>
      (service.setCritical calling pid critical ability).map .result id
  | .dump arguments => (service.dump setup arguments).map .text id

/-- Whether a call comes from someone who may not make it. -/
def Invocation.isRefused (config : Config) : Invocation → Bool
  | .kernelPriority caller _ => caller ≠ config.cameraService
  | .notifyStateNow caller _ | .notifyStateQueued caller _ => caller ≠ config.foundation
  | .notifyWindows caller _ => caller ≠ config.windowManager
  | .setCritical calling pid _ _ => calling ≠ pid
  | _ => false

/-- Something that happens while a service runs. -/
inductive Incident (σ : Type)
  | call (invocation : Invocation)
  /-- Any other action, as when a worker takes a step or a timer runs out. -/
  | act (action : Action)
  /-- The host changes by itself, as when time passes. -/
  | move (next : σ → σ)

def Incident.isHeard (config : Config) : Incident σ → Bool
  | .call invocation => !invocation.isRefused config
  | .act _ | .move _ => true

def occur (setup : Setup σ) (service : Service σ) : Incident σ → Option Reply × Service σ
  | .call invocation => (service.invoke setup invocation).map some id
  | .act action => (none, service.act setup action)
  | .move next => (none, { service with host := next service.host })

/-- The service after a run. -/
def follow (setup : Setup σ) (incidents : List (Incident σ)) (service : Service σ) :
    Service σ :=
  incidents.foldl (fun service incident => (service.occur setup incident).2) service

/-- What happens in a run, each call with its answer. -/
def replies (setup : Setup σ) :
    List (Incident σ) → Service σ → List (Incident σ × Option Reply)
  | [], _ => []
  | incident :: later, service =>
      (incident, (service.occur setup incident).1) ::
        replies setup later (service.occur setup incident).2

def Incident.recorded : Incident σ → Incident (σ × List Host.Use)
  | .call invocation => .call invocation
  | .act action => .act action
  | .move next => .move fun (state, uses) => (next state, uses)

/-- The uses that a run makes of the host, in order. -/
def uses (setup : Setup σ) (incidents : List (Incident σ)) (service : Service σ) :
    List Host.Use :=
  ({ service with host := (service.host, []) }.follow setup.recording
    (incidents.map Incident.recorded)).host.2

/-! ## Who is refused -/

/-- Not refused, whatever else may be wrong. -/
def Permitted {α : Type} (result : Except Fault α) : Prop :=
  ∀ fault, result = .error fault → fault.code ≠ Fault.permissionCode

theorem permitted_ok {α : Type} (value : α) : Permitted (.ok value) :=
  fun _ hfault => nomatch hfault

theorem permitted_error {α : Type} {fault : Fault} (hcode : fault.code = Fault.failureCode) :
    Permitted (.error fault : Except Fault α) := by
  intro other hfault
  rw [← Except.error.inj hfault, hcode]
  decide

theorem permitted_post (request : UpdateRequest) (service : Service σ) :
    Permitted (service.post request).1 := by
  rw [post]
  cases service.updates with
  | none => exact permitted_error rfl
  | some queue => exact permitted_ok ()

theorem permitted_updateNow (request : UpdateRequest) (service : Service σ) :
    Permitted (service.updateNow setup request).1 := by
  rw [updateNow, Directory.resolve]
  by_cases huid : request.target.uid < 0
  · rw [if_pos huid]
    exact permitted_error rfl
  · rw [if_neg huid]
    cases setup.directory.nameOf? request.target with
    | none => exact permitted_error rfl
    | some name => exact permitted_ok ()

theorem permitted_withRequest
    {update : UpdateRequest → Service σ → Except Fault Unit × Service σ}
    (hupdate : ∀ request service, Permitted (update request service).1)
    (info : ProcessStateInfo) (service : Service σ) :
    Permitted (withRequest info update service).1 := by
  rw [withRequest]
  cases info.request? with
  | none => exact permitted_ok ()
  | some request => exact hupdate request service

theorem permitted_reportWindow (info : WindowInfo) (service : Service σ) :
    Permitted (service.reportWindow info).1 := by
  rw [reportWindow]
  split
  · exact permitted_ok ()
  · next reason _ =>
    have hpost := permitted_post (.single (.unnamed info.pid info.uid) reason) service
    split
    · exact permitted_ok ()
    · next hposted =>
      rw [hposted] at hpost
      exact hpost

theorem permitted_firstFault {earlier later : Except Fault Unit} (hearlier : Permitted earlier)
    (hlater : Permitted later) : Permitted (firstFault earlier later) := by
  cases earlier with
  | ok => exact hlater
  | error fault => exact hearlier

theorem permitted_reportWindows (windows : List WindowInfo) (service : Service σ) :
    Permitted (service.reportWindows windows).1 := by
  induction windows generalizing service with
  | nil => exact permitted_ok ()
  | cons info later ih => exact permitted_firstFault (permitted_reportWindow info service) (ih _)

theorem permitted_readPriority (hreports : setup.host.ReportsUnreadable) (pid : Pid)
    (service : Service σ) : Permitted (service.readPriority setup pid).1 := by
  rw [readPriority, readFile]
  cases hread : setup.host.read (ProcFile.path setup.procRoot pid "oom_score_adj")
      service.host with
  | mk content host =>
      cases content with
      | error fault =>
          obtain ⟨reason, rfl⟩ := hreports _ _ fault (congrArg Prod.fst hread)
          exact permitted_error rfl
      | ok content =>
          dsimp only
          cases ProcFile.priority? content with
          | some priority => exact permitted_ok priority
          | none => exact permitted_error rfl

/-- Only the check of the caller denies a reserved call, and to all but the one expected. -/
theorem reserve_denied_iff {α : Type} {call : Service σ → Except Fault α × Service σ}
    (hcall : Permitted (call service).1) (caller expected denied : Uid) :
    (service.reserve caller expected call).1 = .error (.permissionDenied denied) ↔
      caller ≠ expected ∧ denied = caller := by
  rw [reserve_eq]
  by_cases hcaller : caller = expected
  · rw [if_pos hcaller]
    constructor
    · intro hdenied
      exact absurd rfl (hcall _ hdenied)
    · rintro ⟨hother, -⟩
      exact absurd hcaller hother
  · rw [if_neg hcaller]
    constructor
    · intro hdenied
      cases hdenied
      exact ⟨hcaller, rfl⟩
    · rintro ⟨-, rfl⟩
      rfl

theorem setCritical_mismatch_iff (calling pid : Pid) (critical : Bool) (ability : Int)
    (service : Service σ) :
    (service.setCritical calling pid critical ability).1 =
        .error (.callerPidMismatch calling pid) ↔ calling ≠ pid := by
  rw [setCritical]
  by_cases hself : calling = pid
  · simp [hself]
  · simp [hself]

/-- The calls that are refused, and to whom. -/
structure Refuses (setup : Setup σ) (service : Service σ) : Prop where
  kernelPriority : setup.host.ReportsUnreadable → ∀ caller pid denied,
    (service.kernelPriority setup caller pid).1 = .error (.permissionDenied denied) ↔
      caller ≠ setup.config.cameraService ∧ denied = caller
  notifyStateNow : ∀ caller info denied,
    (service.notifyStateNow setup caller info).1 = .error (.permissionDenied denied) ↔
      caller ≠ setup.config.foundation ∧ denied = caller
  notifyStateQueued : ∀ caller info denied,
    (service.notifyStateQueued setup caller info).1 = .error (.permissionDenied denied) ↔
      caller ≠ setup.config.foundation ∧ denied = caller
  notifyWindows : ∀ caller windows denied,
    (service.notifyWindows setup caller windows).1 = .error (.permissionDenied denied) ↔
      caller ≠ setup.config.windowManager ∧ denied = caller
  setCritical : ∀ calling pid critical ability,
    (service.setCritical calling pid critical ability).1 =
      .error (.callerPidMismatch calling pid) ↔ calling ≠ pid

theorem refuses (setup : Setup σ) (service : Service σ) : Refuses setup service where
  kernelPriority hreports caller pid denied :=
    reserve_denied_iff (permitted_readPriority hreports pid service) caller _ denied
  notifyStateNow caller info denied :=
    reserve_denied_iff (permitted_withRequest permitted_updateNow info service) caller _ denied
  notifyStateQueued caller info denied :=
    reserve_denied_iff (permitted_withRequest permitted_post info service) caller _ denied
  notifyWindows caller windows denied :=
    reserve_denied_iff (permitted_reportWindows windows service) caller _ denied
  setCritical calling pid critical ability :=
    setCritical_mismatch_iff calling pid critical ability service

/-! ## Runs without the refused calls -/

theorem reserve_stranger {α : Type} {caller expected : Uid} (hcaller : caller ≠ expected)
    (call : Service σ → Except Fault α × Service σ) :
    (service.reserve caller expected call).2 = service := by
  rw [reserve_eq, if_neg hcaller]

/-- A refused call leaves the service and its host as they are. -/
theorem invoke_refused {invocation : Invocation}
    (hrefused : invocation.isRefused setup.config = true) :
    (service.invoke setup invocation).2 = service := by
  cases invocation
  case kernelPriority caller pid => exact reserve_stranger (of_decide_eq_true hrefused) _
  case notifyStateNow caller info => exact reserve_stranger (of_decide_eq_true hrefused) _
  case notifyStateQueued caller info => exact reserve_stranger (of_decide_eq_true hrefused) _
  case notifyWindows caller windows => exact reserve_stranger (of_decide_eq_true hrefused) _
  case setCritical calling pid critical ability =>
    have hother : calling ≠ pid := of_decide_eq_true hrefused
    change (service.setCritical calling pid critical ability).2 = service
    rw [setCritical, if_neg hother]
  all_goals cases hrefused

theorem occur_unheard {incident : Incident σ}
    (hunheard : incident.isHeard setup.config = false) :
    (service.occur setup incident).2 = service := by
  cases incident with
  | call invocation => exact invoke_refused (by simpa [Incident.isHeard] using hunheard)
  | act action => cases hunheard
  | move next => cases hunheard

theorem follow_filter_isHeard (incidents : List (Incident σ)) (service : Service σ) :
    service.follow setup (incidents.filter (·.isHeard setup.config)) =
      service.follow setup incidents := by
  induction incidents generalizing service with
  | nil => rfl
  | cons incident later ih =>
      cases hheard : incident.isHeard setup.config with
      | true =>
          rw [List.filter_cons_of_pos hheard]
          exact ih _
      | false =>
          rw [List.filter_cons_of_neg (by simp [hheard]), ih, follow, follow, List.foldl_cons,
            occur_unheard hheard]

theorem replies_filter_isHeard (incidents : List (Incident σ)) (service : Service σ) :
    replies setup (incidents.filter (·.isHeard setup.config)) service =
      (replies setup incidents service).filter (·.1.isHeard setup.config) := by
  induction incidents generalizing service with
  | nil => rfl
  | cons incident later ih =>
      cases hheard : incident.isHeard setup.config with
      | true =>
          rw [List.filter_cons_of_pos hheard, replies, replies, ih,
            List.filter_cons_of_pos (by exact hheard)]
      | false =>
          rw [List.filter_cons_of_neg (by simp [hheard]), ih, replies,
            List.filter_cons_of_neg (by simp [hheard]), occur_unheard hheard]

theorem isHeard_recorded (config : Config) (incident : Incident σ) :
    incident.recorded.isHeard config = incident.isHeard config := by
  cases incident <;> rfl

theorem uses_filter_isHeard (incidents : List (Incident σ)) (service : Service σ) :
    service.uses setup (incidents.filter (·.isHeard setup.config)) =
      service.uses setup incidents := by
  have hheard : (incidents.filter (·.isHeard setup.config)).map Incident.recorded =
      (incidents.map Incident.recorded).filter (·.isHeard setup.recording.config) := by
    rw [List.filter_map]
    congr 1
    apply List.filter_congr
    intro incident _
    exact (isHeard_recorded setup.config incident).symm
  rw [uses, hheard, follow_filter_isHeard, uses]

/-- The reserved calls are refused to all but their one caller, and nobody may flag another
process.  Without the calls that are refused a run gives every other call the same answer,
makes the same uses of the host and leaves the same service: its table, windows and queue,
and the journal of what subscribers were told. -/
theorem refused_calls_leave_no_trace (setup : Setup σ) (incidents : List (Incident σ))
    (service : Service σ) :
    let heard := incidents.filter (·.isHeard setup.config)
    (∀ service : Service σ, Refuses setup service) ∧
      replies setup heard service =
        (replies setup incidents service).filter (·.1.isHeard setup.config) ∧
      service.uses setup heard = service.uses setup incidents ∧
      service.follow setup heard = service.follow setup incidents :=
  ⟨refuses setup, replies_filter_isHeard incidents service,
    uses_filter_isHeard incidents service, follow_filter_isHeard incidents service⟩

/-- Most of these calls come from the wrong user or process.  The others show a window, whose
update needs the clock once, and ask for the available memory. -/
theorem refused_calls_leave_no_trace_strangers :
    let setup : Setup Script := ⟨Script.host, .nameless, .default, "/proc"⟩
    let config := setup.config
    let stranger : Uid := 20010009
    let shown : WindowInfo := ⟨1, 7, 20010007, true⟩
    let hidden : WindowInfo := ⟨1, 7, 20010007, false⟩
    let incidents : List (Incident Script) :=
      [.call (.init true), .call (.notifyWindows config.windowManager [shown]),
        .call (.notifyWindows stranger [hidden]),
        .call (.notifyStateQueued stranger (.startAbility 7 20010007 8 20010008)),
        .move fun script => { script with clock := 105 }, .act .takeUpdate,
        .call (.kernelPriority stranger 7), .call (.setCritical 7 8 true 0),
        .call .availableMemory]
    let service := start Script.start
    let heard := incidents.filter (·.isHeard config)
    setup.host.ReportsUnreadable ∧
      (service.kernelPriority setup stranger 7).1 = .error (.permissionDenied stranger) ∧
      (replies setup heard service).map Prod.snd =
        [some (.flag true), some (.result (.ok ())), none, none,
          some (.amount (.error .memoryUnavailable))] ∧
      replies setup heard service =
        (replies setup incidents service).filter (·.1.isHeard config) ∧
      service.uses setup incidents = [.now 105, .available none] ∧
      service.follow setup heard = service.follow setup incidents := by
  intro setup config stranger shown hidden incidents service heard
  obtain ⟨hrefuses, hreplies, huses, hfollow⟩ :=
    refused_calls_leave_no_trace setup incidents service
  have hreports : setup.host.ReportsUnreadable := Script.host_reportsUnreadable
  have hdenied := ((hrefuses service).kernelPriority hreports stranger 7 stranger).2
    ⟨by decide, rfl⟩
  exact ⟨hreports, hdenied, rfl, hreplies, huses.symm.trans rfl, hfollow⟩

end Service

end MemoryReclaim
