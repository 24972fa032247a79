import MemoryReclaim.Bundle
import MemoryReclaim.ProcessRecord.Tier

/-!
# The table of tracked processes

Bundles under their keys, and for each tracked process the key of the bundle that holds
it.  The operations here keep the two in step and keep both sides of a binding; they
are the parts that the lifecycle events in `MemoryReclaim.Table.Update` are made of.
-/

namespace MemoryReclaim

/-- What a table needs to know to compute priorities. -/
structure Rules where
  graceWindow : Seconds
  floors : OrdMap String Priority
  deriving DecidableEq

namespace ProcessRecord

/-- The bind status of a process as its binders are now; only extensions have one. -/
def currentBindStatus (isForeground : Pid → Bool) (process : ProcessRecord) : BindStatus :=
  if process.isExtension then .ofBinders (process.boundBy.keys.map isForeground)
  else process.bindStatus

/-- The record with its priority computed from its states at `now`. -/
def ranked (rules : Rules) (now : Seconds) (process : ProcessRecord) : ProcessRecord :=
  { process with priority := process.tier rules.graceWindow now }

/-- The record with its bind status and its priority brought up to date. -/
def renew (rules : Rules) (now : Seconds) (isForeground : Pid → Bool)
    (process : ProcessRecord) : ProcessRecord :=
  { process with bindStatus := process.currentBindStatus isForeground }.ranked rules now

/-- The record of a process at first sight, in a bundle of the given name. -/
def newcomer (rules : Rules) (now : Seconds) (name : String) (pid : Pid) (uid : Uid) :
    ProcessRecord :=
  { background pid uid with floor := rules.floors.get? name }.ranked rules now

end ProcessRecord

structure Table where
  bundles : OrdMap BundleKey Bundle
  owners : OrdMap Pid BundleKey
  deriving DecidableEq

namespace Table

def empty : Table := ⟨.empty, .empty⟩

def bundle? (table : Table) (key : BundleKey) : Option Bundle := table.bundles.get? key

def process? (table : Table) (pid : Pid) : Option ProcessRecord := do
  let key ← table.owners.get? pid
  let bundle ← table.bundle? key
  bundle.process? pid

def processes (table : Table) : List ProcessRecord :=
  table.bundles.values.flatMap fun bundle => bundle.procs.values

def bundleCount (table : Table) : Nat := table.bundles.size

/-- Changes the bundle that holds `pid`. -/
def modifyOwner (table : Table) (pid : Pid) (change : Bundle → Bundle) : Table :=
  match table.owners.get? pid with
  | none => table
  | some key => { table with bundles := table.bundles.modify key change }

def modifyProcess (table : Table) (pid : Pid) (change : ProcessRecord → ProcessRecord) : Table :=
  table.modifyOwner pid (Bundle.modifyProcess pid change)

def isForeground (table : Table) (pid : Pid) : Bool :=
  (table.process? pid).any ProcessRecord.isForeground

/-- Recomputes the bind status and priority of a process, then those of its bundle. -/
def refresh (rules : Rules) (now : Seconds) (table : Table) (pid : Pid) : Table :=
  match table.process? pid with
  | none => table
  | some _ =>
      table.modifyOwner pid fun bundle =>
        (bundle.modifyProcess pid (.renew rules now table.isForeground)).updatePriority

def refreshAll (rules : Rules) (now : Seconds) (table : Table) (pids : List Pid) : Table :=
  pids.foldl (refresh rules now) table

/-- Takes a process out of its bundle, and the bundle out of the table when it was the
last one. -/
def detach (table : Table) (key : BundleKey) (pid : Pid) : Table :=
  let owners := table.owners.erase pid
  match table.bundle? key with
  | none => { table with owners }
  | some bundle =>
      let rest := bundle.removeProcess pid
      let bundles :=
        if rest.procs.isEmpty then table.bundles.erase key else table.bundles.insert key rest
      { table with bundles, owners }

def releaseBinder (pid : Pid) (table : Table) (binder : Pid) : Table :=
  table.modifyProcess binder (ProcessRecord.dropBinding pid)

def releaseTarget (rules : Rules) (now : Seconds) (pid : Pid) (table : Table)
    (target : Pid) : Table :=
  (table.modifyProcess target (ProcessRecord.dropBinder pid)).refresh rules now target

/-- Stops tracking a process and undoes its bindings on the side of every peer. -/
def remove (rules : Rules) (now : Seconds) (pid : Pid) (table : Table) : Table :=
  match table.owners.get? pid with
  | none => table
  | some key =>
      let detached := table.detach key pid
      match table.process? pid with
      | none => detached
      | some process =>
          let released := process.boundBy.keys.foldl (releaseBinder pid) detached
          process.bindsTo.keys.foldl (releaseTarget rules now pid) released

/-- The bundle that a new process joins, which is created with its first one.  A bundle
that waited for being killed is active again. -/
def hostBundle (now : Seconds) (identity : ResolvedIdentity) (table : Table) : Bundle :=
  ((table.bundle? identity.key).getD
    (.new identity.name identity.uid identity.account now)).withState .active

def track (rules : Rules) (now : Seconds) (identity : ResolvedIdentity) (table : Table) :
    Table :=
  let bundle := table.hostBundle now identity
  let process := .newcomer rules now bundle.name identity.pid identity.uid
  { bundles := table.bundles.insert identity.key (bundle.putProcess process)
    owners := table.owners.insert identity.pid identity.key }

/-- Tracks a process at first sight.  A pid that is known under another identity has
been reused, and the record of its former owner goes. -/
def ensure (rules : Rules) (now : Seconds) (identity : ResolvedIdentity) (table : Table) :
    Table :=
  match table.owners.get? identity.pid with
  | none => table.track rules now identity
  | some key =>
      if key = identity.key then table
      else (table.remove rules now identity.pid).track rules now identity

/-- `binder` uses the extension `target`, where both are tracked. -/
def bind (binder target : Pid) (table : Table) : Table :=
  match table.process? binder, table.process? target with
  | some consumer, some extension =>
      let marked := table.modifyProcess target fun process =>
        { process with isExtension := true }.addBinder binder consumer.uid
      marked.modifyProcess binder (ProcessRecord.addBinding target extension.uid)
  | _, _ => table

def unbind (binder target : Pid) (table : Table) : Table :=
  (table.modifyProcess target (ProcessRecord.dropBinder binder)).modifyProcess binder
    (ProcessRecord.dropBinding target)

def expiredPids (rules : Rules) (now : Seconds) (table : Table) : List Pid :=
  (table.processes.filter fun process =>
    process.abilityStartExpired rules.graceWindow now).map ProcessRecord.pid

def endAbilityStart (rules : Rules) (now : Seconds) (table : Table) (pid : Pid) : Table :=
  (table.modifyProcess pid ProcessRecord.endAbilityStart).refresh rules now pid

/-- Ends every ability start whose grace window has passed. -/
def expire (rules : Rules) (now : Seconds) (table : Table) : Table :=
  (table.expiredPids rules now).foldl (endAbilityStart rules now) table

/-- Sets the state of a bundle; false where there is none under the key. -/
def setState (key : BundleKey) (state : BundleState) (table : Table) : Bool × Table :=
  (table.bundles.contains key,
    { table with bundles := table.bundles.modify key (Bundle.withState state) })

end Table

end MemoryReclaim
