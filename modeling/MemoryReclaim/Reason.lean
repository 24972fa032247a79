import MemoryReclaim.Identity

/-!
# Lifecycle events

An update request says why the priority of a process is to be evaluated again.  Most
reasons set or clear one state of the target; binding concerns the caller too.
-/

namespace MemoryReclaim

inductive Reason
  | createProcess
  | processReady
  | renderCreateProcess
  | foreground
  | background
  | visible
  | invisible
  | backgroundRunningStart
  | backgroundRunningEnd
  | suspendDelayStart
  | suspendDelayEnd
  | eventStart
  | eventEnd
  | distDeviceConnected
  | distDeviceDisconnected
  | bindExtension
  | unbindExtension
  | abilityStart
  | abilityStartTimeout
  | processTerminated
  deriving DecidableEq

/-- The foreground state that subscribers are told of. -/
inductive AppState
  | foreground
  | background
  deriving DecidableEq

namespace Reason

def appState? : Reason → Option AppState
  | .foreground => some .foreground
  | .background => some .background
  | _ => none

def changesForeground (reason : Reason) : Bool := reason.appState?.isSome

/-- The name shown to people. -/
def title : Reason → String
  | .createProcess => "CreateProcess"
  | .processReady => "ProcessReady"
  | .renderCreateProcess => "RenderCreateProcess"
  | .foreground => "Foreground"
  | .background => "Background"
  | .visible => "Visible"
  | .invisible => "Invisible"
  | .backgroundRunningStart => "BackgroundRunningStart"
  | .backgroundRunningEnd => "BackgroundRunningEnd"
  | .suspendDelayStart => "SuspendDelayStart"
  | .suspendDelayEnd => "SuspendDelayEnd"
  | .eventStart => "EventStart"
  | .eventEnd => "EventEnd"
  | .distDeviceConnected => "DistDeviceConnected"
  | .distDeviceDisconnected => "DistDeviceDisconnected"
  | .bindExtension => "BindExtension"
  | .unbindExtension => "UnbindExtension"
  | .abilityStart => "AbilityStart"
  | .abilityStartTimeout => "AbilityStartTimeout"
  | .processTerminated => "ProcessTerminated"

end Reason

/-- An event about `target`; `caller` is the binder of an extension or the starter of
an ability. -/
structure UpdateRequest where
  caller : Option Identity
  target : Identity
  reason : Reason
  deriving DecidableEq

def UpdateRequest.single (target : Identity) (reason : Reason) : UpdateRequest :=
  ⟨none, target, reason⟩

structure ResolvedRequest where
  caller : Option ResolvedIdentity
  target : ResolvedIdentity
  reason : Reason
  deriving DecidableEq

/-- A change of the foreground state of one process. -/
structure AppStateChange where
  pid : Pid
  uid : Uid
  state : AppState
  deriving DecidableEq

end MemoryReclaim
