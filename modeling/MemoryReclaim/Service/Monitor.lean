import MemoryReclaim.Ordered.Sort
import MemoryReclaim.ProcFile
import MemoryReclaim.Service.Worker

/-!
# Pressure monitor and the passing of time

A monitor reads the stall information of the kernel when it starts and then once every
interval, and raises a signal when the share of stalled time is above its threshold; a
reading that fails is skipped.  While time passes, timers and readings take place in the
order in which they fall due.
-/

namespace MemoryReclaim

/-- Where the kernel reports how long tasks waited for memory. -/
def stallPath : Path := "/proc/pressure/memory"

structure Monitor where
  path : Path
  threshold : Float
  /-- Milliseconds between two readings, at least one. -/
  interval : Nat
  /-- Whether a signal also goes to the killer. -/
  relays : Bool
  /-- When the next reading is due. -/
  due : Nat

/-- A service with its monitor and the number of signals raised by all monitors so far. -/
structure Watch (σ : Type) where
  service : Service σ
  monitor : Option Monitor
  raised : Nat

namespace Service

variable {σ : Type}

/-- Whether the stall information shows pressure; unknown when it cannot be read. -/
def pressure? (setup : Setup σ) (path : Path) (threshold : Float) (service : Service σ) :
    Option Bool × Service σ :=
  match service.readFile setup path with
  | (.error _, service) => (none, service)
  | (.ok content, service) =>
      ((ProcFile.someAverage? content).map fun average => threshold < average, service)

end Service

namespace Watch

variable {σ : Type}

def start (service : Service σ) : Watch σ := ⟨service, none, 0⟩

/-- What falls due at some time. -/
inductive Alarm
  | timer (timer : Timer)
  | reading

/-- One reading of the monitor. -/
def read (setup : Setup σ) (monitor : Monitor) (watch : Watch σ) : Watch σ :=
  match watch.service.pressure? setup monitor.path monitor.threshold with
  | (some true, service) =>
      let signalled := if monitor.relays then service.signalPressure.2 else service
      { watch with service := signalled.handleSignals setup, raised := watch.raised + 1 }
  | (_, service) => { watch with service }

def ring (setup : Setup σ) (watch : Watch σ) (alarm : Nat × Alarm) : Watch σ :=
  let now := { watch with service := { watch.service with uptime := alarm.1 } }
  match alarm.2 with
  | .timer timer => { now with service := (now.service.fireTimer timer).flush setup }
  | .reading =>
      match now.monitor with
      | none => now
      | some monitor =>
          { now with monitor := some { monitor with due := monitor.due + monitor.interval } }
            |>.read setup monitor

def dueTimers (watch : Watch σ) (limit : Nat) : List (Nat × Alarm) :=
  let timers := (watch.service.updates.map UpdateQueue.timers).getD []
  (timers.filter fun timer => timer.due ≤ limit).map fun timer => (timer.due, .timer timer)

def dueReadings (watch : Watch σ) (limit : Nat) : List (Nat × Alarm) :=
  match watch.monitor with
  | none => []
  | some monitor =>
      let count := if monitor.due ≤ limit then (limit - monitor.due) / monitor.interval + 1 else 0
      (List.range count).map fun index => (monitor.due + index * monitor.interval, .reading)

def alarms (watch : Watch σ) (limit : Nat) : List (Nat × Alarm) :=
  Sort.sortBy (fun left right => compare left.1 right.1)
    (watch.dueTimers limit ++ watch.dueReadings limit)

/-- Lets the workers finish what was posted. -/
def settle (setup : Setup σ) (watch : Watch σ) : Watch σ :=
  { watch with service := watch.service.flush setup }

/-- Lets time pass until everything due at its end has happened. -/
def sleep (setup : Setup σ) (duration : Nat) (watch : Watch σ) : Watch σ :=
  let settled := watch.settle setup
  let limit := settled.service.uptime + duration
  let after := (settled.alarms limit).foldl (ring setup) settled
  { after with service := { after.service with uptime := limit } }

/-- Starts a monitor, in place of the one that runs. -/
def startMonitor (setup : Setup σ) (path : Path) (threshold : Float) (interval : Nat)
    (relays : Bool) (watch : Watch σ) : Watch σ :=
  let settled := watch.settle setup
  let period := max interval 1
  let monitor : Monitor :=
    { path, threshold, interval := period, relays, due := settled.service.uptime + period }
  { settled with monitor := some monitor } |>.read setup monitor

def stopMonitor (setup : Setup σ) (watch : Watch σ) : Watch σ :=
  { watch.settle setup with monitor := none }

end Watch

end MemoryReclaim
