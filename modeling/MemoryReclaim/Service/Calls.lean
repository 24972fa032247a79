import MemoryReclaim.ProcFile
import MemoryReclaim.Service.Dump
import MemoryReclaim.Service.Windows

/-!
# Calls from other services

The operations offered to the rest of the system.  Those reserved for one caller check
its user id before anything else; a refused call reads, posts and changes nothing.
-/

namespace MemoryReclaim

/-- Why a process state notification was sent. -/
inductive StateReason
  | startAbility
  /-- Accepted without effect. -/
  | reserved (code : Nat)
  deriving DecidableEq

structure ProcessStateInfo where
  callerPid : Pid
  callerUid : Uid
  pid : Pid
  uid : Uid
  reason : StateReason
  deriving DecidableEq

namespace ProcessStateInfo

def startAbility (callerPid : Pid) (callerUid : Uid) (pid : Pid) (uid : Uid) :
    ProcessStateInfo :=
  ⟨callerPid, callerUid, pid, uid, .startAbility⟩

def request? (info : ProcessStateInfo) : Option UpdateRequest :=
  match info.reason with
  | .startAbility =>
      some ⟨some (.unnamed info.callerPid info.callerUid), .unnamed info.pid info.uid,
        .abilityStart⟩
  | .reserved _ => none

end ProcessStateInfo

namespace Service

variable {σ : Type}

def checkCaller (caller expected : Uid) : Except Fault Unit :=
  if caller = expected then .ok () else .error (.permissionDenied caller)

/-- Answers `call` to the expected caller, and refuses any other. -/
def reserve {α : Type} (caller expected : Uid)
    (call : Service σ → Except Fault α × Service σ) (service : Service σ) :
    Except Fault α × Service σ :=
  match checkCaller caller expected with
  | .ok () => call service
  | .error fault => (.error fault, service)

def bundleList (setup : Setup σ) (service : Service σ) : List BundleSummary × Service σ :=
  let (bundles, service) := service.bundles setup
  (bundles.map Bundle.summary, service)

def notifyDevice (pid : Pid) (uid : Uid) (name : String) (connected : Bool)
    (service : Service σ) : Except Fault Unit × Service σ :=
  let reason := if connected then .distDeviceConnected else .distDeviceDisconnected
  service.post (.single ⟨pid, uid, name⟩ reason)

/-- The priority that the kernel keeps for a process. -/
def readPriority (setup : Setup σ) (pid : Pid) (service : Service σ) :
    Except Fault Priority × Service σ :=
  let path := ProcFile.path setup.procRoot pid "oom_score_adj"
  match service.readFile setup path with
  | (.error fault, service) => (.error fault, service)
  | (.ok content, service) =>
      match ProcFile.priority? content with
      | some priority => (.ok priority, service)
      | none => (.error (.malformed path content), service)

def kernelPriority (setup : Setup σ) (caller : Uid) (pid : Pid) (service : Service σ) :
    Except Fault Priority × Service σ :=
  service.reserve caller setup.config.cameraService (readPriority setup pid)

/-- Makes the update that a notification asks for; some ask for none. -/
def withRequest (info : ProcessStateInfo)
    (update : UpdateRequest → Service σ → Except Fault Unit × Service σ)
    (service : Service σ) : Except Fault Unit × Service σ :=
  match info.request? with
  | some request => update request service
  | none => (.ok (), service)

/-- The new priority is in force when this returns. -/
def notifyStateNow (setup : Setup σ) (caller : Uid) (info : ProcessStateInfo)
    (service : Service σ) : Except Fault Unit × Service σ :=
  service.reserve caller setup.config.foundation (withRequest info (updateNow setup))

def notifyStateQueued (setup : Setup σ) (caller : Uid) (info : ProcessStateInfo)
    (service : Service σ) : Except Fault Unit × Service σ :=
  service.reserve caller setup.config.foundation (withRequest info post)

def amountOrFault : Option Kilobytes → Except Fault Kilobytes
  | some amount => .ok amount
  | none => .error .memoryUnavailable

def availableMemory (setup : Setup σ) (service : Service σ) :
    Except Fault Kilobytes × Service σ :=
  let (reading, service) := service.measure setup
  (amountOrFault reading, service)

def totalMemory (setup : Setup σ) (service : Service σ) :
    Except Fault Kilobytes × Service σ :=
  let (amount, host) := setup.host.total service.host
  (amountOrFault amount, { service with host })

def notifyWindows (setup : Setup σ) (caller : Uid) (windows : List WindowInfo)
    (service : Service σ) : Except Fault Unit × Service σ :=
  service.reserve caller setup.config.windowManager (reportWindows windows)

/-- Posts a lifecycle event; a process that ended has no visible windows any more. -/
def notifyLifecycle (request : UpdateRequest) (service : Service σ) :
    Except Fault Unit × Service σ :=
  if request.reason = .processTerminated then
    { service with windows := service.windows.erase request.target.pid }.post request
  else service.post request

/-- Registers a subscriber, and tells whether it is new. -/
def subscribe (name : SubscriberName) (service : Service σ) : Bool × Service σ :=
  let (added, deliveries, registry) := service.registry.subscribe name
  (added, { service with registry }.record (deliveries.map .delivered))

def unsubscribe (name : SubscriberName) (service : Service σ) : Bool × Service σ :=
  let (removed, deliveries, registry) := service.registry.unsubscribe name
  (removed, { service with registry }.record (deliveries.map .delivered))

/-- Status reports of single processes are accepted and have no effect. -/
def notifyProcessStatus (_pid : Pid) (_kind _status _ability : Int) (service : Service σ) :
    Except Fault Unit × Service σ :=
  (.ok (), service)

/-- A process may flag only itself; the flag has no effect on its priority. -/
def setCritical (calling pid : Pid) (_critical : Bool) (_ability : Int)
    (service : Service σ) : Except Fault Unit × Service σ :=
  if calling = pid then (.ok (), service)
  else (.error (.callerPidMismatch calling pid), service)

end Service

end MemoryReclaim
