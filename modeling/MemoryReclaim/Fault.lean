import MemoryReclaim.Identity
import MemoryReclaim.KillLevels
import MemoryReclaim.Text.Numeral
import MemoryReclaim.Text.Path
import MemoryReclaim.Text.Quoted

/-!
# Faults

Everything that a call to the service can fail with.  No fault is fatal: a call is
refused or a cycle skipped.  Callers across the service boundary see only a code, which
tells a refused caller from any other failure.
-/

namespace MemoryReclaim

open MemoryReclaim.Text

/-- The background workers of the service. -/
inductive Worker
  | reclaimPriority
  | lowMemoryKiller
  deriving DecidableEq

def Worker.title : Worker → String
  | .reclaimPriority => "reclaim priority"
  | .lowMemoryKiller => "low memory killer"

inductive Fault
  | permissionDenied (caller : Uid)
  | callerPidMismatch (calling pid : Pid)
  | identityUnresolved (pid : Pid) (uid : Uid)
  | memoryUnavailable
  | malformed (path : Path) (content : String)
  | unreadable (path : Path) (reason : String)
  | configuration (text : String)
  | workerUnavailable (worker : Worker)
  deriving DecidableEq

def LevelFault.message : LevelFault → String
  | .empty => "kill level table is empty"
  | .outOfRange priority => "kill level priority " ++ intText priority ++ " out of range"
  | .notIncreasing => "kill levels must be strictly increasing in buffer and priority"

namespace Fault

def successCode : Int := 0

def failureCode : Int := -1

def permissionCode : Int := -2

def code : Fault → Int
  | .permissionDenied _ | .callerPidMismatch _ _ => permissionCode
  | _ => failureCode

def message : Fault → String
  | .permissionDenied caller => "Permission denied for caller uid " ++ intText caller
  | .callerPidMismatch calling pid =>
      "Calling pid " ++ intText calling ++ " may not act on pid " ++ intText pid
  | .identityUnresolved pid uid =>
      "Cannot resolve identity of pid " ++ intText pid ++ " (uid " ++ intText uid ++ ")"
  | .memoryUnavailable => "Available memory could not be measured"
  | .malformed path content => "Malformed content in " ++ path ++ ": " ++ quoted content
  | .unreadable path reason => "I/O error on " ++ path ++ ": " ++ reason
  | .configuration text => "Configuration error: " ++ text
  | .workerUnavailable worker => worker.title ++ " worker is not running"

/-- A stable name for reports. -/
def diagnostic : Fault → String
  | .permissionDenied _ => "memmgr::permission_denied"
  | .callerPidMismatch _ _ => "memmgr::caller_pid_mismatch"
  | .identityUnresolved _ _ => "memmgr::identity_unresolved"
  | .memoryUnavailable => "memmgr::memory_unavailable"
  | .malformed _ _ => "memmgr::parse_error"
  | .unreadable _ _ => "memmgr::io_error"
  | .configuration _ => "memmgr::configuration_error"
  | .workerUnavailable _ => "memmgr::worker_unavailable"

def help? : Fault → Option String
  | .permissionDenied _ =>
      some "Only the registered system caller may invoke this operation."
  | .callerPidMismatch _ _ => some "A process may only change its own critical flag."
  | .identityUnresolved _ _ => some "The uid is invalid or has no bundle metadata."
  | .memoryUnavailable | .malformed _ _ => none
  | .unreadable _ _ => some "Check that the file exists and the service has access to it."
  | .configuration _ =>
      some "Compiled defaults are used when the configuration is rejected."
  | .workerUnavailable _ => some "Call init() inside a tokio runtime before posting work."

end Fault

/-- Levels as a call that reports faults takes them. -/
def KillLevels.ofList (entries : List KillLevel) : Except Fault KillLevels :=
  match KillLevels.ofEntries entries with
  | .ok levels => .ok levels
  | .error fault => .error (.configuration fault.message)

end MemoryReclaim
