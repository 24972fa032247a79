import MemoryReclaim.ProcessRecord

/-!
# Bundles

A bundle holds the processes of one application.  Its priority is the lowest among
them; `updatePriority` establishes this after a process changed.
-/

namespace MemoryReclaim

inductive BundleState
  | active
  /-- Selected by the killer, and not again before a new process appears. -/
  | waitingForKill
  deriving DecidableEq

structure Bundle where
  name : String
  uid : Uid
  account : AccountId
  priority : Priority
  state : BundleState
  created : Seconds
  procs : OrdMap Pid ProcessRecord
  deriving DecidableEq

structure BundleSummary where
  uid : Uid
  name : String
  priority : Priority
  account : AccountId
  deriving DecidableEq

namespace Bundle

def new (name : String) (uid : Uid) (account : AccountId) (now : Seconds) : Bundle where
  name
  uid
  account
  priority := .unknown
  state := .active
  created := now
  procs := .empty

def key (bundle : Bundle) : BundleKey := ⟨bundle.account, bundle.uid⟩

def lowestPriority : List ProcessRecord → Priority
  | [] => .unknown
  | process :: rest =>
      rest.foldl (fun lowest other => min lowest other.priority) process.priority

def minProcessPriority (bundle : Bundle) : Priority := lowestPriority bundle.procs.values

def updatePriority (bundle : Bundle) : Bundle :=
  { bundle with priority := bundle.minProcessPriority }

def process? (bundle : Bundle) (pid : Pid) : Option ProcessRecord := bundle.procs.get? pid

def putProcess (process : ProcessRecord) (bundle : Bundle) : Bundle :=
  { bundle with procs := bundle.procs.insert process.pid process }.updatePriority

def removeProcess (pid : Pid) (bundle : Bundle) : Bundle :=
  if bundle.procs.contains pid then
    { bundle with procs := bundle.procs.erase pid }.updatePriority
  else bundle

/-- Changes a record and leaves the priority of the bundle as it is. -/
def modifyProcess (pid : Pid) (change : ProcessRecord → ProcessRecord) (bundle : Bundle) :
    Bundle :=
  { bundle with procs := bundle.procs.modify pid change }

def withState (state : BundleState) (bundle : Bundle) : Bundle := { bundle with state }

def summary (bundle : Bundle) : BundleSummary :=
  ⟨bundle.uid, bundle.name, bundle.priority, bundle.account⟩

end Bundle

end MemoryReclaim
