import MemoryReclaim.Config.Document
import MemoryReclaim.Json.Writer
import MemoryReclaim.Service.Calls

/-!
# Wire forms

The values that cross the service boundary as documents.  Writing gives a record with
all its fields in the declared order, or the name of a choice; reading accepts every
other form of the same record or choice too.  Numbers outside the width of their field
are refused.
-/

namespace MemoryReclaim

open MemoryReclaim.Json

class Wire (α : Type) where
  write : α → Tree
  read? : Tree → Option α

namespace Wire

def render {α : Type} [Wire α] (value : α) : String := (write value).render

def ofText? {α : Type} [Wire α] (text : String) : Option α := (Tree.ofText? text).bind read?

/-- A type of named values, read and written by name. -/
abbrev choice {α : Type} (all : List α) (name : α → String) : Wire α where
  write value := .ofString (name value)
  read? := choice? (all.map fun value => (name value, value))

end Wire

namespace Reason

def all : List Reason :=
  [.createProcess, .processReady, .renderCreateProcess, .foreground, .background, .visible,
    .invisible, .backgroundRunningStart, .backgroundRunningEnd, .suspendDelayStart,
    .suspendDelayEnd, .eventStart, .eventEnd, .distDeviceConnected, .distDeviceDisconnected,
    .bindExtension, .unbindExtension, .abilityStart, .abilityStartTimeout, .processTerminated]

def wireName : Reason → String
  | .createProcess => "create_process"
  | .processReady => "process_ready"
  | .renderCreateProcess => "render_create_process"
  | .foreground => "foreground"
  | .background => "background"
  | .visible => "visible"
  | .invisible => "invisible"
  | .backgroundRunningStart => "background_running_start"
  | .backgroundRunningEnd => "background_running_end"
  | .suspendDelayStart => "suspend_delay_start"
  | .suspendDelayEnd => "suspend_delay_end"
  | .eventStart => "event_start"
  | .eventEnd => "event_end"
  | .distDeviceConnected => "dist_device_connected"
  | .distDeviceDisconnected => "dist_device_disconnected"
  | .bindExtension => "bind_extension"
  | .unbindExtension => "unbind_extension"
  | .abilityStart => "ability_start"
  | .abilityStartTimeout => "ability_start_timeout"
  | .processTerminated => "process_terminated"

instance : Wire Reason := Wire.choice all wireName

end Reason

namespace AppState

def wireName : AppState → String
  | .foreground => "foreground"
  | .background => "background"

instance : Wire AppState := Wire.choice [.foreground, .background] wireName

end AppState

namespace BundleState

def wireName : BundleState → String
  | .active => "active"
  | .waitingForKill => "waiting_for_kill"

instance : Wire BundleState := Wire.choice [.active, .waitingForKill] wireName

end BundleState

namespace BindStatus

def wireName : BindStatus → String
  | .unknown => "unknown"
  | .boundFromForeground => "bound_from_foreground"
  | .boundFromBackground => "bound_from_background"
  | .unbound => "unbound"

instance : Wire BindStatus :=
  Wire.choice [.unknown, .boundFromForeground, .boundFromBackground, .unbound] wireName

end BindStatus

instance : Wire MemoryLevel := Wire.choice [.moderate, .low, .critical] MemoryLevel.title

namespace CycleOutcome

def all : List CycleOutcome :=
  [.memoryUnavailable, .noKillNeeded, .invalidFloor, .nothingKillable, .measurementLost,
    .recovered, .deficitCovered, .killCapReached]

def wireName : CycleOutcome → String
  | .memoryUnavailable => "memory_unavailable"
  | .noKillNeeded => "no_kill_needed"
  | .invalidFloor => "invalid_floor"
  | .nothingKillable => "nothing_killable"
  | .measurementLost => "measurement_lost"
  | .recovered => "recovered"
  | .deficitCovered => "deficit_covered"
  | .killCapReached => "kill_cap_reached"

instance : Wire CycleOutcome := Wire.choice all wireName

end CycleOutcome

namespace KillLevel

def toTree (level : KillLevel) : Tree :=
  .ofMembers [("buffer_kb", .ofNat level.buffer), ("min_priority", .ofInt level.floor)]

instance : Wire KillLevel := ⟨toTree, ofTree?⟩

end KillLevel

namespace Identity

def toTree (identity : Identity) : Tree :=
  .ofMembers [("pid", .ofInt identity.pid), ("uid", .ofInt identity.uid),
    ("bundle_name", .ofString identity.name)]

def ofTree? (tree : Tree) : Option Identity := do
  let record ← Record.open? ["pid", "uid", "bundle_name"] tree
  let pid ← record.required? "pid" Tree.int32?
  let uid ← record.required? "uid" Tree.int32?
  let name ← record.required? "bundle_name" Tree.text?
  some ⟨pid, uid, name⟩

instance : Wire Identity := ⟨toTree, ofTree?⟩

end Identity

namespace UpdateRequest

def toTree (request : UpdateRequest) : Tree :=
  .ofMembers [("caller", .ofOption Identity.toTree request.caller),
    ("target", request.target.toTree), ("reason", Wire.write request.reason)]

def ofTree? (tree : Tree) : Option UpdateRequest := do
  let record ← Record.open? ["caller", "target", "reason"] tree
  let caller ← record.optional? "caller" Identity.ofTree?
  let target ← record.required? "target" Identity.ofTree?
  let reason ← record.required? "reason" Wire.read?
  some ⟨caller, target, reason⟩

instance : Wire UpdateRequest := ⟨toTree, ofTree?⟩

end UpdateRequest

namespace BundleSummary

def toTree (summary : BundleSummary) : Tree :=
  .ofMembers [("uid", .ofInt summary.uid), ("name", .ofString summary.name),
    ("priority", .ofInt summary.priority), ("account_id", .ofInt summary.account)]

def ofTree? (tree : Tree) : Option BundleSummary := do
  let record ← Record.open? ["uid", "name", "priority", "account_id"] tree
  let uid ← record.required? "uid" Tree.int32?
  let name ← record.required? "name" Tree.text?
  let priority ← record.required? "priority" Tree.int32?
  let account ← record.required? "account_id" Tree.int32?
  some ⟨uid, name, priority, account⟩

instance : Wire BundleSummary := ⟨toTree, ofTree?⟩

end BundleSummary

namespace StateReason

def toTree : StateReason → Tree
  | .startAbility => .ofString "start_ability"
  | .reserved code => .ofMembers [("reserved", .ofNat code)]

def ofTree? (tree : Tree) : Option StateReason :=
  match tree.onlyMember? with
  | some ("reserved", value) => value.uint32?.map .reserved
  | _ => choice? [("start_ability", .startAbility)] tree

instance : Wire StateReason := ⟨toTree, ofTree?⟩

end StateReason

namespace ProcessStateInfo

def toTree (info : ProcessStateInfo) : Tree :=
  .ofMembers [("caller_pid", .ofInt info.callerPid), ("caller_uid", .ofInt info.callerUid),
    ("pid", .ofInt info.pid), ("uid", .ofInt info.uid), ("reason", info.reason.toTree)]

def ofTree? (tree : Tree) : Option ProcessStateInfo := do
  let record ← Record.open? ["caller_pid", "caller_uid", "pid", "uid", "reason"] tree
  let callerPid ← record.required? "caller_pid" Tree.int32?
  let callerUid ← record.required? "caller_uid" Tree.int32?
  let pid ← record.required? "pid" Tree.int32?
  let uid ← record.required? "uid" Tree.int32?
  let reason ← record.required? "reason" StateReason.ofTree?
  some ⟨callerPid, callerUid, pid, uid, reason⟩

instance : Wire ProcessStateInfo := ⟨toTree, ofTree?⟩

end ProcessStateInfo

namespace WindowInfo

def toTree (info : WindowInfo) : Tree :=
  .ofMembers [("window_id", .ofNat info.window), ("pid", .ofInt info.pid),
    ("uid", .ofInt info.uid), ("is_visible", .bool info.isVisible)]

def ofTree? (tree : Tree) : Option WindowInfo := do
  let record ← Record.open? ["window_id", "pid", "uid", "is_visible"] tree
  let window ← record.required? "window_id" Tree.uint32?
  let pid ← record.required? "pid" Tree.int32?
  let uid ← record.required? "uid" Tree.int32?
  let isVisible ← record.required? "is_visible" Tree.bool?
  some ⟨window, pid, uid, isVisible⟩

instance : Wire WindowInfo := ⟨toTree, ofTree?⟩

end WindowInfo

namespace KillTarget

def toTree (target : KillTarget) : Tree :=
  .ofMembers [("min_buffer_kb", .ofNat target.minBuffer), ("min_priority", .ofInt target.floor),
    ("target_buffer_kb", .ofNat target.targetBuffer), ("kill_level", .ofNat target.level)]

def ofTree? (tree : Tree) : Option KillTarget := do
  let record ←
    Record.open? ["min_buffer_kb", "min_priority", "target_buffer_kb", "kill_level"] tree
  let minBuffer ← record.required? "min_buffer_kb" Tree.uint64?
  let floor ← record.required? "min_priority" Tree.int32?
  let targetBuffer ← record.required? "target_buffer_kb" Tree.uint64?
  let level ← record.required? "kill_level" Tree.uint32?
  some ⟨minBuffer, floor, targetBuffer, level⟩

instance : Wire KillTarget := ⟨toTree, ofTree?⟩

end KillTarget

namespace CycleReport

def toTree (report : CycleReport) : Tree :=
  .ofMembers [("cycle", .ofNat report.cycle),
    ("current_buffer_kb", .ofOption Tree.ofNat report.available),
    ("target", .ofOption KillTarget.toTree report.target), ("kills", .ofNat report.kills),
    ("freed_kb", .ofNat report.freed), ("outcome", Wire.write report.outcome)]

def ofTree? (tree : Tree) : Option CycleReport := do
  let record ←
    Record.open? ["cycle", "current_buffer_kb", "target", "kills", "freed_kb", "outcome"] tree
  let cycle ← record.required? "cycle" Tree.uint64?
  let available ← record.optional? "current_buffer_kb" Tree.uint64?
  let target ← record.optional? "target" KillTarget.ofTree?
  let kills ← record.required? "kills" Tree.uint64?
  let freed ← record.required? "freed_kb" Tree.uint64?
  let outcome ← record.required? "outcome" Wire.read?
  some ⟨cycle, available, target, kills, freed, outcome⟩

instance : Wire CycleReport := ⟨toTree, ofTree?⟩

end CycleReport

end MemoryReclaim
