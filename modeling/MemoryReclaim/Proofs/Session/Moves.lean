import MemoryReclaim.Proofs.Session.Trace

/-!
# Sessions with the workers

One client calls, the workers take their messages, and timers run out, in any order.  To
flush or to stop a worker the client puts a marker behind the messages that wait, and
makes no other call before the worker has reached it.  A timer runs out whenever it likes,
also while the client waits: its timeout then lies behind the marker, and is lost if the
worker stops there.

A worker deals with one message at a time, and a whole kill cycle is one step of the
killer.
-/

namespace MemoryReclaim

namespace Service

variable {σ : Type}

/-- The number of messages that wait for a worker; one that does not run has no queue. -/
def queued? (worker : Worker) (service : Service σ) : Option Nat :=
  match worker with
  | .reclaimPriority => service.updates.map fun queue => queue.pending.length
  | .lowMemoryKiller => service.signals

def startWorker (worker : Worker) (hasRuntime : Bool) (service : Service σ) :
    Bool × Service σ :=
  match worker with
  | .reclaimPriority => service.startUpdates hasRuntime
  | .lowMemoryKiller => service.startKiller hasRuntime

/-- A worker ends, and its queue with all that is left in it. -/
def endWorker (worker : Worker) (service : Service σ) : Service σ :=
  match worker with
  | .reclaimPriority => { service with updates := none }
  | .lowMemoryKiller => { service with signals := none }

/-- What waits to be applied. -/
def queuedUpdates (service : Service σ) : List UpdateRequest :=
  (service.updates.map fun queue => queue.pending).getD []

end Service

/-- The client waits for a worker to deal with `ahead` messages more. -/
structure Marker where
  worker : Worker
  /-- Whether the worker ends there. -/
  stops : Bool
  ahead : Nat
  deriving DecidableEq

/-- The worker has dealt with one message. -/
def Marker.approach (worker : Worker) (marker : Marker) : Marker :=
  if marker.worker = worker then { marker with ahead := marker.ahead - 1 } else marker

structure Session (σ : Type) where
  service : Service σ
  /-- Who sent the updates that wait. -/
  senders : List Sender
  awaited : Option Marker
  trace : Trace

inductive ClientCall
  | post (request : UpdateRequest)
  | signal
  | start (worker : Worker) (hasRuntime : Bool)
  | flush (worker : Worker)
  | stop (worker : Worker)
  | subscribe (name : SubscriberName)
  | unsubscribe (name : SubscriberName)

inductive Move
  | call (call : ClientCall)
  /-- A worker takes what comes next in its queue. -/
  | take (worker : Worker)
  | fire (timer : Timer)

namespace Session

variable {σ : Type}

/-- A session begins with no worker running. -/
def begin (service : Service σ) : Session σ where
  service := service.requeued none none
  senders := []
  awaited := none
  trace := []

def note (happening : Happening) (service : Service σ) (session : Session σ) : Session σ :=
  { session with service, trace := session.trace ++ [happening] }

def post (request : UpdateRequest) (session : Session σ) : Session σ :=
  let (result, service) := session.service.post request
  let noted := session.note (.posted request result) service
  match result with
  | .ok () => { noted with senders := session.senders ++ [.client] }
  | .error _ => noted

/-- Waits for a worker; there is nothing to wait for if it does not run. -/
def await (worker : Worker) (stops : Bool) (session : Session σ) : Session σ :=
  match session.service.queued? worker with
  | none => session.note (.returned worker stops) session.service
  | some ahead => { session with awaited := some ⟨worker, stops, ahead⟩ }

def call (session : Session σ) : ClientCall → Session σ
  | .post request => session.post request
  | .signal =>
      let (accepted, service) := session.service.signalPressure
      session.note (.signalled accepted) service
  | .start worker hasRuntime =>
      let (succeeded, service) := session.service.startWorker worker hasRuntime
      session.note (.started worker succeeded) service
  | .flush worker => session.await worker false
  | .stop worker => session.await worker true
  | .subscribe name => session.note (.subscribed name) (session.service.subscribe name).2
  | .unsubscribe name => session.note (.unsubscribed name) (session.service.unsubscribe name).2

/-- The worker of updates applies the next one. -/
def applyNext (setup : Setup σ) (session : Session σ) : Session σ :=
  match session.service.nextUpdate?, session.senders with
  | some request, sender :: senders =>
      let noted := session.note (.applied sender request) (session.service.updateStep setup)
      { noted with senders, awaited := session.awaited.map (.approach .reclaimPriority) }
  | _, _ => session

/-- The killer runs a cycle for the next signal. -/
def cycleNext (setup : Setup σ) (session : Session σ) : Session σ :=
  match session.service.signals with
  | some (_ + 1) =>
      let noted := session.note .cycled (session.service.signalStep setup)
      { noted with awaited := session.awaited.map (.approach .lowMemoryKiller) }
  | _ => session

def work (setup : Setup σ) (session : Session σ) : Worker → Session σ
  | .reclaimPriority => session.applyNext setup
  | .lowMemoryKiller => session.cycleNext setup

/-- The worker reaches the marker for which the client waits. -/
def reach (marker : Marker) (session : Session σ) : Session σ :=
  let noted := session.note (.returned marker.worker marker.stops) session.service
  let freed := { noted with awaited := none }
  if marker.stops then
    { freed with
      service := freed.service.endWorker marker.worker
      senders := if marker.worker = .reclaimPriority then [] else session.senders }
  else freed

def take (setup : Setup σ) (worker : Worker) (session : Session σ) : Session σ :=
  match session.awaited with
  | some marker =>
      if marker.worker = worker ∧ marker.ahead = 0 then session.reach marker
      else session.work setup worker
  | none => session.work setup worker

/-- A timer runs out; one whose queue is gone does nothing. -/
def fire (timer : Timer) (session : Session σ) : Session σ :=
  match session.service.updates with
  | some queue =>
      if timer ∈ queue.timers then
        { session with
          service := session.service.fireTimer timer
          senders := session.senders ++ [.timer] }
      else session
  | none => session

/-- A client that waits makes no call. -/
def move (setup : Setup σ) (session : Session σ) : Move → Session σ
  | .call request => if session.awaited = none then session.call request else session
  | .take worker => session.take setup worker
  | .fire timer => session.fire timer

def run (setup : Setup σ) (moves : List Move) (session : Session σ) : Session σ :=
  moves.foldl (move setup) session

/-- Those of the queued updates that the client sent. -/
def ofClient (senders : List Sender) (pending : List UpdateRequest) : List UpdateRequest :=
  (senders.zip pending).filterMap fun (sender, request) =>
    if sender = .client then some request else none

/-- The updates of the client that wait to be applied, in order. -/
def waiting (session : Session σ) : List UpdateRequest :=
  ofClient session.senders session.service.queuedUpdates

end Session

end MemoryReclaim
