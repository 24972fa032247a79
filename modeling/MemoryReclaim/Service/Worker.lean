import MemoryReclaim.Service.Kill

/-!
# Background workers

Two queues with one consumer each.  Queued updates are applied in the order of posting;
an ability start that was applied sets a timer, whose end posts a timeout to the same
queue.  Queued pressure signals run one kill cycle each.  Stopping a worker lets it
finish what was posted before; its timers end with it.
-/

namespace MemoryReclaim.Service

variable {σ : Type}

def post (request : UpdateRequest) (service : Service σ) : Except Fault Unit × Service σ :=
  match service.updates with
  | none => (.error (.workerUnavailable .reclaimPriority), service)
  | some queue =>
      let longer := { queue with pending := queue.pending ++ [request] }
      (.ok (), { service with updates := some longer })

/-- The timer for an update that was applied: only ability starts have one. -/
def timersAfter (window : Seconds) (uptime : Nat) (request : UpdateRequest) : List Timer :=
  if request.reason = .abilityStart && window ≠ 0 then
    [⟨uptime + 1000 * window, request.target⟩]
  else []

/-- The worker takes one update from its queue and applies it. -/
def updateStep (setup : Setup σ) (service : Service σ) : Service σ :=
  match service.updates with
  | some ⟨request :: pending, timers⟩ =>
      let added := timersAfter setup.config.graceWindow service.uptime request
      updateQueued setup request
        { service with updates := some ⟨pending, timers ++ added⟩ }
  | _ => service

def updateSteps (setup : Setup σ) : Nat → Service σ → Service σ
  | 0, service => service
  | count + 1, service => updateSteps setup count (service.updateStep setup)

def pendingUpdates (service : Service σ) : Nat :=
  (service.updates.map fun queue => queue.pending.length).getD 0

/-- Waits until every update posted so far has been applied. -/
def flush (setup : Setup σ) (service : Service σ) : Service σ :=
  service.updateSteps setup service.pendingUpdates

/-- Workers need a runtime to run in; a worker that runs is left alone. -/
def startUpdates (hasRuntime : Bool) (service : Service σ) : Bool × Service σ :=
  match service.updates with
  | some _ => (true, service)
  | none =>
      if hasRuntime then (true, { service with updates := some ⟨[], []⟩ }) else (false, service)

def stopUpdates (setup : Setup σ) (service : Service σ) : Service σ :=
  { service.flush setup with updates := none }

/-- A timer runs out and posts its timeout. -/
def fireTimer (timer : Timer) (service : Service σ) : Service σ :=
  match service.updates with
  | none => service
  | some queue =>
      let others := { queue with timers := queue.timers.erase timer }
      ({ service with updates := some others }.post (.single timer.target .abilityStartTimeout)).2

/-- Posts a pressure signal; false when the killer does not run. -/
def signalPressure (service : Service σ) : Bool × Service σ :=
  match service.signals with
  | none => (false, service)
  | some count => (true, { service with signals := some (count + 1) })

/-- The killer takes one signal from its queue and runs a cycle for it. -/
def signalStep (setup : Setup σ) (service : Service σ) : Service σ :=
  match service.signals with
  | some (count + 1) => ({ service with signals := some count }.killCycle setup).2
  | _ => service

def signalSteps (setup : Setup σ) : Nat → Service σ → Service σ
  | 0, service => service
  | count + 1, service => signalSteps setup count (service.signalStep setup)

def pendingSignals (service : Service σ) : Nat := service.signals.getD 0

/-- Runs a cycle for every signal posted so far. -/
def handleSignals (setup : Setup σ) (service : Service σ) : Service σ :=
  service.signalSteps setup service.pendingSignals

def startKiller (hasRuntime : Bool) (service : Service σ) : Bool × Service σ :=
  match service.signals with
  | some _ => (true, service)
  | none => if hasRuntime then (true, { service with signals := some 0 }) else (false, service)

def stopKiller (setup : Setup σ) (service : Service σ) : Service σ :=
  { service.handleSignals setup with signals := none }

/-- Starts both workers, the killer only after the other. -/
def init (hasRuntime : Bool) (service : Service σ) : Bool × Service σ :=
  match service.startUpdates hasRuntime with
  | (true, service) => service.startKiller hasRuntime
  | (false, service) => (false, service)

def shutdown (setup : Setup σ) (service : Service σ) : Service σ :=
  (service.stopKiller setup).stopUpdates setup

end MemoryReclaim.Service
