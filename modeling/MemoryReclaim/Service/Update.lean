import MemoryReclaim.Service.State
import MemoryReclaim.Table.Ranking

/-!
# Updates and readers of the table

An update names its processes; before it reaches the table their application names and
accounts are looked up.  A synchronous update is refused when its target has no valid
identity, a queued one goes on under a placeholder name.  Readers always see the table
as of now: grace windows that have passed are ended first.
-/

namespace MemoryReclaim

namespace Directory

/-- The name that an identity brings along, or else the one listed for it. -/
def nameOf? (directory : Directory) (identity : Identity) : Option String :=
  if identity.name.isEmpty then
    (directory.name? identity.pid identity.uid).filter fun name => !name.isEmpty
  else some identity.name

def placeholder (uid : Uid) : String := "uid_" ++ Text.intText uid

def named (directory : Directory) (identity : Identity) (name : String) : ResolvedIdentity :=
  ⟨identity.pid, identity.uid, name, directory.account identity.uid⟩

def resolveOrPlaceholder (directory : Directory) (identity : Identity) : ResolvedIdentity :=
  directory.named identity ((directory.nameOf? identity).getD (placeholder identity.uid))

def resolve (directory : Directory) (identity : Identity) : Except Fault ResolvedIdentity :=
  if identity.uid < 0 then .error (.identityUnresolved identity.pid identity.uid)
  else
    match directory.nameOf? identity with
    | some name => .ok (directory.named identity name)
    | none => .error (.identityUnresolved identity.pid identity.uid)

/-- A request about `target`; its caller may go by a placeholder name. -/
def requestAbout (directory : Directory) (request : UpdateRequest)
    (target : ResolvedIdentity) : ResolvedRequest :=
  ⟨request.caller.map directory.resolveOrPlaceholder, target, request.reason⟩

end Directory

namespace Service

variable {σ : Type}

def notifyChange (change : Option AppStateChange) (service : Service σ) : Service σ :=
  match change with
  | some change => service.notify (.appState change.pid change.uid change.state)
  | none => service

def perform (setup : Setup σ) (request : ResolvedRequest) (service : Service σ) : Service σ :=
  let (now, service) := service.clock setup
  let (change, table) := service.table.apply setup.rules now request
  notifyChange change { service with table }

/-- Applies an update before returning. -/
def updateNow (setup : Setup σ) (request : UpdateRequest) (service : Service σ) :
    Except Fault Unit × Service σ :=
  match setup.directory.resolve request.target with
  | .error fault => (.error fault, service)
  | .ok target => (.ok (), service.perform setup (setup.directory.requestAbout request target))

/-- Applies an update taken from the queue, which is never refused. -/
def updateQueued (setup : Setup σ) (request : UpdateRequest) (service : Service σ) :
    Service σ :=
  service.perform setup
    (setup.directory.requestAbout request
      (setup.directory.resolveOrPlaceholder request.target))

/-- Ends the grace windows that have passed by now. -/
def refreshed (setup : Setup σ) (service : Service σ) : Service σ :=
  let (now, service) := service.clock setup
  { service with table := service.table.expire setup.rules now }

/-- All bundles, most important first. -/
def bundles (setup : Setup σ) (service : Service σ) : List Bundle × Service σ :=
  let fresh := service.refreshed setup
  (fresh.table.byImportance, fresh)

def killableBundles (setup : Setup σ) (lowest : Priority) (service : Service σ) :
    List Bundle × Service σ :=
  let fresh := service.refreshed setup
  (fresh.table.killable lowest, fresh)

def process? (setup : Setup σ) (pid : Pid) (service : Service σ) :
    Option ProcessRecord × Service σ :=
  let fresh := service.refreshed setup
  (fresh.table.process? pid, fresh)

def bundle? (setup : Setup σ) (key : BundleKey) (service : Service σ) :
    Option Bundle × Service σ :=
  let fresh := service.refreshed setup
  (fresh.table.bundle? key, fresh)

def setBundleState (key : BundleKey) (state : BundleState) (service : Service σ) :
    Bool × Service σ :=
  let (found, table) := service.table.setState key state
  (found, { service with table })

end Service

end MemoryReclaim
