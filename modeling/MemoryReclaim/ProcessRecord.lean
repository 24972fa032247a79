import MemoryReclaim.Ordered.Map
import MemoryReclaim.Priority
import MemoryReclaim.Reason

/-!
# Process records

The state of one process as far as its priority depends on it, with the priority last
computed from it.  A binding between two processes is kept on both sides: the extension
lists its binders, the binder the extensions that it uses.
-/

namespace MemoryReclaim

/-- How an extension is currently bound. -/
inductive BindStatus
  | unknown
  | boundFromForeground
  | boundFromBackground
  | unbound
  deriving DecidableEq

/-- The status of an extension, from the foreground state of each of its binders. -/
def BindStatus.ofBinders (foregrounds : List Bool) : BindStatus :=
  if foregrounds.contains true then .boundFromForeground
  else if foregrounds.isEmpty then .unbound
  else .boundFromBackground

structure ProcessRecord where
  pid : Pid
  uid : Uid
  priority : Priority
  /-- The highest priority that an important process can get. -/
  floor : Option Priority
  isForeground : Bool
  isVisible : Bool
  isRender : Bool
  isBackgroundRunning : Bool
  isSuspendDelay : Bool
  isEventStart : Bool
  isDistDevice : Bool
  isExtension : Bool
  isAbilityStarting : Bool
  abilityStart : Seconds
  bindStatus : BindStatus
  boundBy : OrdMap Pid Uid
  bindsTo : OrdMap Pid Uid
  deriving DecidableEq

namespace ProcessRecord

def withPriority (pid : Pid) (uid : Uid) (priority : Priority) : ProcessRecord where
  pid
  uid
  priority
  floor := none
  isForeground := false
  isVisible := false
  isRender := false
  isBackgroundRunning := false
  isSuspendDelay := false
  isEventStart := false
  isDistDevice := false
  isExtension := false
  isAbilityStarting := false
  abilityStart := 0
  bindStatus := .unknown
  boundBy := .empty
  bindsTo := .empty

def background (pid : Pid) (uid : Uid) : ProcessRecord := withPriority pid uid .background

def startAbility (now : Seconds) (process : ProcessRecord) : ProcessRecord :=
  { process with isAbilityStarting := true, abilityStart := now }

def endAbilityStart (process : ProcessRecord) : ProcessRecord :=
  { process with isAbilityStarting := false }

/-- A clock that went back counts as no time passed. -/
def abilityStartExpired (process : ProcessRecord) (window now : Seconds) : Bool :=
  process.isAbilityStarting && now - process.abilityStart ≥ window

def addBinder (pid : Pid) (uid : Uid) (process : ProcessRecord) : ProcessRecord :=
  { process with boundBy := process.boundBy.insert pid uid }

def dropBinder (pid : Pid) (process : ProcessRecord) : ProcessRecord :=
  { process with boundBy := process.boundBy.erase pid }

def addBinding (pid : Pid) (uid : Uid) (process : ProcessRecord) : ProcessRecord :=
  { process with bindsTo := process.bindsTo.insert pid uid }

def dropBinding (pid : Pid) (process : ProcessRecord) : ProcessRecord :=
  { process with bindsTo := process.bindsTo.erase pid }

def isBoundBy (process : ProcessRecord) (pid : Pid) : Bool := process.boundBy.contains pid

def bindsToPid (process : ProcessRecord) (pid : Pid) : Bool := process.bindsTo.contains pid

/-- The state that `reason` sets or clears in its target. -/
def note (reason : Reason) (now : Seconds) (process : ProcessRecord) : ProcessRecord :=
  match reason with
  | .renderCreateProcess => { process with isRender := true }
  | .foreground => { process with isForeground := true }
  | .background => { process with isForeground := false }
  | .visible => { process with isVisible := true }
  | .invisible => { process with isVisible := false }
  | .backgroundRunningStart => { process with isBackgroundRunning := true }
  | .backgroundRunningEnd => { process with isBackgroundRunning := false }
  | .suspendDelayStart => { process with isSuspendDelay := true }
  | .suspendDelayEnd => { process with isSuspendDelay := false }
  | .eventStart => { process with isEventStart := true }
  | .eventEnd => { process with isEventStart := false }
  | .distDeviceConnected => { process with isDistDevice := true }
  | .distDeviceDisconnected => { process with isDistDevice := false }
  | .abilityStart => process.startAbility now
  | .createProcess | .processReady | .bindExtension | .unbindExtension
  | .abilityStartTimeout | .processTerminated => process

end ProcessRecord

end MemoryReclaim
