import MemoryReclaim.Table

/-!
# Lifecycle events on the table

An event finds or creates its target, notes the new state in it, moves a binding, and
then brings every priority up to date that may have changed: those whose grace window
has passed, the target's, and those of the extensions bound by a process that entered
or left the foreground.
-/

namespace MemoryReclaim.Table

/-- The binding that an event makes or ends; without a caller there is none. -/
def rebind (rules : Rules) (now : Seconds) (request : ResolvedRequest) (table : Table) :
    Table :=
  match request.reason, request.caller with
  | .bindExtension, some caller =>
      (table.ensure rules now caller).bind caller.pid request.target.pid
  | .unbindExtension, some caller => table.unbind caller.pid request.target.pid
  | _, _ => table

def boundTargets (table : Table) (pid : Pid) : List Pid :=
  match table.process? pid with
  | some process => process.bindsTo.keys
  | none => []

/-- The table with an event noted in it, before any priority is brought up to date. -/
def noteEvent (rules : Rules) (now : Seconds) (request : ResolvedRequest) (table : Table) :
    Table :=
  let ensured := table.ensure rules now request.target
  let noted := ensured.modifyProcess request.target.pid (.note request.reason now)
  noted.rebind rules now request

/-- An event that concerns a process which goes on living. -/
def applyLive (rules : Rules) (now : Seconds) (request : ResolvedRequest) (table : Table) :
    Table :=
  let pid := request.target.pid
  let fresh := ((table.noteEvent rules now request).expire rules now).refresh rules now pid
  if request.reason.changesForeground then
    fresh.refreshAll rules now (fresh.boundTargets pid)
  else fresh

/-- Applies one event; the first part is the change to tell subscribers of. -/
def apply (rules : Rules) (now : Seconds) (request : ResolvedRequest) (table : Table) :
    Option AppStateChange × Table :=
  match request.reason with
  | .processTerminated => (none, table.remove rules now request.target.pid)
  | .abilityStartTimeout => (none, table.expire rules now)
  | reason =>
      (reason.appState?.map fun state => ⟨request.target.pid, request.target.uid, state⟩,
        table.applyLive rules now request)

end MemoryReclaim.Table
