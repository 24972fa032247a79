import MemoryReclaim.Config
import MemoryReclaim.Host.Machine
import MemoryReclaim.Json.Reader
import MemoryReclaim.Json.Record

/-!
# Configuration documents

A configuration is a record in which every field may be left out.  A document that is
not one is rejected as a whole, also when the offending value is in a field that would
not be used.  A missing file means the defaults; a file that cannot be read is a fault.
-/

namespace MemoryReclaim

open MemoryReclaim.Json

namespace KillLevel

def ofTree? (tree : Tree) : Option KillLevel := do
  let record ← Record.open? ["buffer_kb", "min_priority"] tree
  let buffer ← record.required? "buffer_kb" Tree.uint64?
  let floor ← record.required? "min_priority" Tree.int32?
  some ⟨buffer, floor⟩

end KillLevel

namespace PressureSettings

def ofTree? (tree : Tree) : Option PressureSettings := do
  let record ← Record.open? ["enabled", "poll_interval_ms", "some_avg10_threshold"] tree
  let enabled ← record.withDefault? "enabled" default.enabled Tree.bool?
  let interval ← record.withDefault? "poll_interval_ms" default.interval Tree.uint64?
  let threshold ← record.withDefault? "some_avg10_threshold" default.threshold Tree.float?
  some ⟨enabled, interval, threshold⟩

end PressureSettings

namespace Config

/-- Floors by application name; the last one given for a name counts. -/
def floors? (tree : Tree) : Option (OrdMap String Priority) := do
  let members ← tree.members?
  let pairs ← members.mapM fun (name, value) => value.int32?.map fun floor => (name, floor)
  some (.ofList pairs)

def fieldNames : List String :=
  ["kill_levels", "ability_start_window_secs", "kill_protect_secs",
    "max_kill_count_per_event", "important_bundles", "window_manager_uid",
    "foundation_uid", "camera_service_uid", "psi"]

def ofTree? (tree : Tree) : Option Config := do
  let record ← Record.open? fieldNames tree
  let killLevels ←
    record.withDefault? "kill_levels" default.killLevels (Tree.list? KillLevel.ofTree?)
  let graceWindow ←
    record.withDefault? "ability_start_window_secs" default.graceWindow Tree.uint64?
  let protection ← record.withDefault? "kill_protect_secs" default.protection Tree.uint64?
  let maxKills ← record.withDefault? "max_kill_count_per_event" default.maxKills Tree.uint64?
  let floors ← record.withDefault? "important_bundles" default.floors floors?
  let windowManager ← record.withDefault? "window_manager_uid" default.windowManager Tree.int32?
  let foundation ← record.withDefault? "foundation_uid" default.foundation Tree.int32?
  let cameraService ← record.withDefault? "camera_service_uid" default.cameraService Tree.int32?
  let pressure ← record.withDefault? "psi" default.pressure PressureSettings.ofTree?
  some {
    killLevels, graceWindow, protection, maxKills, floors, windowManager, foundation
    cameraService, pressure }

def ofText? (text : String) : Option Config := (Tree.ofText? text).bind ofTree?

def ofText (text : String) : Except Fault Config :=
  match ofText? text with
  | some config => .ok config
  | none => .error (.configuration "not a configuration document")

def ofFile (machine : Machine) (path : Path) : Except Fault Config :=
  match machine.readText path with
  | .ok content => ofText content
  | .error .notFound => .ok default
  | .error fault => .error (.unreadable path fault.reason)

/-- The configuration to run with: the defaults stand in for one that is rejected. -/
def load (machine : Machine) (path : Path) : Config :=
  match ofFile machine path with
  | .ok config => config
  | .error _ => default

end Config

end MemoryReclaim
