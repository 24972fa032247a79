import MemoryReclaim.Config
import MemoryReclaim.Host
import MemoryReclaim.Subscriber
import MemoryReclaim.Table.Update

/-!
# State of the service

A service runs on a host under a fixed setup.  Besides the table it holds the visible
windows of each process, the published kill level, and the queues of its two workers,
each present only while its worker runs.  The journal lists what the service did to the
outside, in order.
-/

namespace MemoryReclaim

/-- Something that a collaborator saw, or the choice of a bundle to kill. -/
inductive Event
  | delivered (delivery : Delivery)
  | selected (bundle : BundleKey)
  | killed (pid : Pid) (freed : Kilobytes)
  | wrote (path : Path) (content : String) (mode : WriteMode) (succeeded : Bool)
  deriving DecidableEq

/-- What does not change while a service runs. -/
structure Setup (σ : Type) where
  host : Host σ
  directory : Directory
  config : Config
  /-- Where the priority files of processes are found. -/
  procRoot : Path

namespace Setup

variable {σ : Type}

def rules (setup : Setup σ) : Rules := setup.config.rules

def levels (setup : Setup σ) : KillLevels := setup.config.levels

end Setup

/-- The end of a grace window, to be noticed when the uptime reaches `due`. -/
structure Timer where
  due : Nat
  target : Identity
  deriving DecidableEq

structure UpdateQueue where
  pending : List UpdateRequest
  timers : List Timer
  deriving DecidableEq

abbrev WindowId := Nat

abbrev VisibleWindows := OrdMap Pid (OrdSet WindowId)

structure Service (σ : Type) where
  host : σ
  journal : List Event
  registry : Registry
  table : Table
  windows : VisibleWindows
  killLevel : Nat
  /-- Number of kill cycles begun. -/
  cycles : Nat
  /-- Milliseconds since the service was set up. -/
  uptime : Nat
  updates : Option UpdateQueue
  /-- Pressure signals not yet handled. -/
  signals : Option Nat

namespace Service

variable {σ : Type}

def start (host : σ) : Service σ where
  host
  journal := []
  registry := .empty
  table := .empty
  windows := .empty
  killLevel := 0
  cycles := 0
  uptime := 0
  updates := none
  signals := none

def record (events : List Event) (service : Service σ) : Service σ :=
  { service with journal := service.journal ++ events }

/-- Gives a notice to every registered subscriber. -/
def notify (notice : Notice) (service : Service σ) : Service σ :=
  service.record ((service.registry.deliveries notice).map .delivered)

def clock (setup : Setup σ) (service : Service σ) : Seconds × Service σ :=
  let (now, host) := setup.host.now service.host
  (now, { service with host })

def measure (setup : Setup σ) (service : Service σ) : Option Kilobytes × Service σ :=
  let (reading, host) := setup.host.available service.host
  (reading, { service with host })

def readFile (setup : Setup σ) (path : Path) (service : Service σ) :
    Except Fault String × Service σ :=
  let (content, host) := setup.host.read path service.host
  (content, { service with host })

def killProcess (setup : Setup σ) (pid : Pid) (service : Service σ) :
    Kilobytes × Service σ :=
  let (freed, host) := setup.host.kill pid service.host
  (freed, { service with host }.record [.killed pid freed])

def echo (setup : Setup σ) (path : Path) (content : String) (service : Service σ) :
    Bool × Service σ :=
  let (succeeded, host) := setup.host.echo path content service.host
  (succeeded, { service with host }.record [.wrote path content .truncate succeeded])

end Service

end MemoryReclaim
