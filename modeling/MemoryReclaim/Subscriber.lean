import MemoryReclaim.Ordered.Map
import MemoryReclaim.Reason

/-!
# Subscribers

Parties that want to know of foreground changes, of processes about to be killed and of
the memory level.  Every subscriber registered at the moment of a notice gets it once.
-/

namespace MemoryReclaim

abbrev SubscriberName := String

inductive MemoryLevel
  | moderate
  | low
  | critical
  deriving DecidableEq

/-- The level to announce for a kill level: the lower levels are the graver ones. -/
def MemoryLevel.ofKillLevel : Nat → Option MemoryLevel
  | 0 => none
  | 1 | 2 => some .critical
  | 3 => some .low
  | _ => some .moderate

def MemoryLevel.title : MemoryLevel → String
  | .moderate => "moderate"
  | .low => "low"
  | .critical => "critical"

inductive Notice
  | connected
  | disconnected
  | appState (pid : Pid) (uid : Uid) (state : AppState)
  | forceReclaim (pid : Pid) (uid : Uid)
  | trim (level : MemoryLevel)
  deriving DecidableEq

structure Delivery where
  subscriber : SubscriberName
  notice : Notice
  deriving DecidableEq

abbrev Registry := OrdSet SubscriberName

namespace Registry

def empty : Registry := OrdMap.empty

/-- Registers a subscriber; one that is registered already stays so, without a notice. -/
def subscribe (name : SubscriberName) (registry : Registry) :
    Bool × List Delivery × Registry :=
  if registry.contains name then (false, [], registry)
  else (true, [⟨name, .connected⟩], registry.insert name ())

def unsubscribe (name : SubscriberName) (registry : Registry) :
    Bool × List Delivery × Registry :=
  if registry.contains name then (true, [⟨name, .disconnected⟩], registry.erase name)
  else (false, [], registry)

def deliveries (notice : Notice) (registry : Registry) : List Delivery :=
  registry.keys.map fun name => ⟨name, notice⟩

end Registry

end MemoryReclaim
