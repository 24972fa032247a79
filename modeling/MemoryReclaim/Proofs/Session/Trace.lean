import MemoryReclaim.Proofs.Service.Requeued
import MemoryReclaim.Proofs.Service.Told

/-!
# What happens between a client and the workers

A trace lists what a client did and was told, and what the workers did, in order.  Who
wants to know what was accepted, what was dealt with, which workers run and what has become
of the service finds it there, without looking into the queues.
-/

namespace MemoryReclaim

/-- Who put an update into the queue. -/
inductive Sender
  | client
  | timer
  deriving DecidableEq

inductive Happening
  | posted (request : UpdateRequest) (result : Except Fault Unit)
  | signalled (accepted : Bool)
  | started (worker : Worker) (succeeded : Bool)
  /-- A flush came back to the client, or a stop. -/
  | returned (worker : Worker) (stops : Bool)
  | applied (sender : Sender) (request : UpdateRequest)
  | cycled
  | subscribed (name : SubscriberName)
  | unsubscribed (name : SubscriberName)
  deriving DecidableEq

abbrev Trace := List Happening

/-! ## What a trace tells -/

namespace Happening

def acceptedPost? : Happening → Option UpdateRequest
  | .posted request (.ok ()) => some request
  | _ => none

/-- The update that was applied, if it came from the client. -/
def handledPost? : Happening → Option UpdateRequest
  | .applied .client request => some request
  | _ => none

def appliedUpdate? : Happening → Option UpdateRequest
  | .applied _ request => some request
  | _ => none

def isSignal : Happening → Bool
  | .signalled accepted => accepted
  | _ => false

def isCycle : Happening → Bool
  | .cycled => true
  | _ => false

/-- Whether a worker runs, given whether it did before. -/
def leavesRunning (worker : Worker) (running : Bool) : Happening → Bool
  | .started other true => running || other = worker
  | .returned other true => running && other ≠ worker
  | _ => running

/-- To start a worker that runs makes no difference. -/
theorem leavesRunning_started {worker other : Worker} {running : Bool} (succeeded : Bool)
    (hruns : succeeded = true → worker = other → running = true) :
    leavesRunning other running (.started worker succeeded) = running := by
  cases succeeded with
  | false => rfl
  | true =>
      rw [leavesRunning, Bool.or_eq_left_iff_imp, decide_eq_true_eq]
      exact hruns rfl

/-- To stop a worker that does not run makes no difference. -/
theorem leavesRunning_returned {worker other : Worker} {running : Bool} (stops : Bool)
    (hstopped : worker = other → running = false) :
    leavesRunning other running (.returned worker stops) = running := by
  cases stops with
  | false => rfl
  | true =>
      rw [leavesRunning, Bool.and_eq_left_iff_imp, decide_eq_true_eq]
      intro hruns hother
      rw [hstopped hother] at hruns
      cases hruns

/-- What became of the service, its queues apart. -/
def effect {σ : Type} (setup : Setup σ) (service : Service σ) : Happening → Service σ
  | .applied _ request => service.updateQueued setup request
  | .cycled => (service.killCycle setup).2
  | .subscribed name => (service.subscribe name).2
  | .unsubscribed name => (service.unsubscribe name).2
  | .posted _ _ | .signalled _ | .started _ _ | .returned _ _ => service

end Happening

namespace Trace

/-- The updates of the client whose posting succeeded, in order. -/
def accepted (trace : Trace) : List UpdateRequest := trace.filterMap Happening.acceptedPost?

/-- The updates of the client that were applied, in order. -/
def handled (trace : Trace) : List UpdateRequest := trace.filterMap Happening.handledPost?

/-- All updates that were applied, in order. -/
def applied (trace : Trace) : List UpdateRequest := trace.filterMap Happening.appliedUpdate?

/-- The number of signals that were accepted. -/
def signals (trace : Trace) : Nat := trace.countP Happening.isSignal

def cycles (trace : Trace) : Nat := trace.countP Happening.isCycle

/-- A worker runs from its start until a stop of it has come back. -/
def running (worker : Worker) (trace : Trace) : Bool :=
  trace.foldl (Happening.leavesRunning worker) false

/-- A worker has dealt with all that the client was told would be dealt with. -/
def Settled (trace : Trace) : Worker → Prop
  | .reclaimPriority => trace.accepted = trace.handled
  | .lowMemoryKiller => trace.signals = trace.cycles

/-- The service after all that has happened, its queues apart. -/
def replay {σ : Type} (setup : Setup σ) (trace : Trace) (service : Service σ) : Service σ :=
  trace.foldl (Happening.effect setup) service

end Trace

/-! ## One more happening -/

namespace Trace

variable {σ : Type} {setup : Setup σ} {trace : Trace} {happening : Happening}

theorem filterMap_concat {α β : Type} (select : α → Option β) (earlier : List α) (last : α) :
    (earlier ++ [last]).filterMap select = earlier.filterMap select ++ (select last).toList := by
  rw [List.filterMap_append]
  cases hlast : select last with
  | none => rw [List.filterMap_cons_none hlast, List.filterMap_nil]; rfl
  | some value => rw [List.filterMap_cons_some hlast, List.filterMap_nil]; rfl

theorem accepted_concat :
    (trace ++ [happening] : Trace).accepted = trace.accepted ++ happening.acceptedPost?.toList :=
  filterMap_concat _ _ _

theorem handled_concat :
    (trace ++ [happening] : Trace).handled = trace.handled ++ happening.handledPost?.toList :=
  filterMap_concat _ _ _

theorem signals_concat :
    (trace ++ [happening] : Trace).signals = trace.signals + happening.isSignal.toNat := by
  rw [signals, List.countP_append, List.countP_singleton]
  cases happening.isSignal <;> rfl

theorem cycles_concat :
    (trace ++ [happening] : Trace).cycles = trace.cycles + happening.isCycle.toNat := by
  rw [cycles, List.countP_append, List.countP_singleton]
  cases happening.isCycle <;> rfl

theorem running_concat (worker : Worker) :
    (trace ++ [happening] : Trace).running worker =
      happening.leavesRunning worker (trace.running worker) :=
  List.foldl_append

theorem replay_concat (first : Service σ) :
    (trace ++ [happening] : Trace).replay setup first =
      happening.effect setup (trace.replay setup first) :=
  List.foldl_append

end Trace

/-- What the client is told is right, given what has happened before. -/
def Happening.Lawful (earlier : Trace) : Happening → Prop
  | .posted _ result =>
      result =
        if earlier.running .reclaimPriority then .ok ()
        else .error (.workerUnavailable .reclaimPriority)
  | .signalled accepted => accepted = earlier.running .lowMemoryKiller
  | .returned worker _ => earlier.Settled worker
  | _ => True

def Trace.Lawful (trace : Trace) : Prop :=
  ∀ earlier happening later, trace = earlier ++ happening :: later → happening.Lawful earlier

theorem Trace.Lawful.concat {trace : Trace} {happening : Happening} (hlawful : trace.Lawful)
    (hlast : happening.Lawful trace) : (trace ++ [happening] : Trace).Lawful := by
  intro earlier other later htrace
  rcases List.eq_nil_or_concat later with rfl | ⟨rest, last, rfl⟩
  · obtain ⟨rfl, hother⟩ := List.append_inj' htrace rfl
    rw [← List.singleton_injective hother]
    exact hlast
  · apply hlawful earlier other rest
    rw [List.concat_eq_append, ← List.cons_append, ← List.append_assoc] at htrace
    exact (List.append_inj' htrace rfl).1

theorem Happening.effect_requeued {σ : Type} (setup : Setup σ) (happening : Happening)
    (service : Service σ) (updates : Option UpdateQueue) (signals : Option Nat) :
    happening.effect setup (service.requeued updates signals) =
      (happening.effect setup service).requeued updates signals := by
  cases happening with
  | applied sender request => exact Service.perform_requeued setup updates signals service _
  | cycled => exact Service.killCycle_requeued setup updates signals service
  | _ => rfl

/-- No happening queues anything by itself. -/
theorem Happening.effect_queues {σ : Type} (setup : Setup σ) (happening : Happening)
    (service : Service σ) :
    (happening.effect setup service).updates = service.updates ∧
      (happening.effect setup service).signals = service.signals := by
  have hkept := happening.effect_requeued setup service service.updates service.signals
  exact ⟨congrArg (fun after => after.updates) hkept, congrArg (fun after => after.signals) hkept⟩

/-- What happens tells a subscriber of the changes made by the updates that are applied. -/
theorem Happening.effect_told {σ : Type} {setup : Setup σ} {service : Service σ}
    {name : SubscriberName} {happening : Happening}
    (hregistered : service.registry.contains name) (hstays : happening ≠ .unsubscribed name) :
    (happening.effect setup service).registry.contains name ∧
      (happening.effect setup service).changesTold name =
        service.changesTold name ++ (happening.appliedUpdate?.bind UpdateRequest.change?).toList := by
  cases happening with
  | applied sender request =>
      rw [effect, Service.registry_updateQueued]
      exact ⟨hregistered, Service.changesTold_updateQueued hregistered request⟩
  | cycled =>
      have hdiscreet : Service.Discreet service (service.killCycle setup).2 := .killCycle
      rw [effect, hdiscreet.registry_eq, hdiscreet.changesTold_eq]
      exact ⟨hregistered, (List.append_nil _).symm⟩
  | subscribed other =>
      rw [effect, Service.changesTold_subscribe]
      exact ⟨Service.contains_subscribe hregistered other, (List.append_nil _).symm⟩
  | unsubscribed other =>
      have hother : other ≠ name := fun heq => hstays (congrArg Happening.unsubscribed heq)
      rw [effect, Service.changesTold_unsubscribe]
      exact ⟨Service.contains_unsubscribe hregistered hother, (List.append_nil _).symm⟩
  | _ => exact ⟨hregistered, (List.append_nil _).symm⟩

theorem Trace.replay_told {σ : Type} {setup : Setup σ} {service : Service σ}
    {name : SubscriberName} {trace : Trace} (hregistered : service.registry.contains name)
    (hstays : .unsubscribed name ∉ trace) :
    (trace.replay setup service).changesTold name =
      service.changesTold name ++ trace.applied.filterMap UpdateRequest.change? := by
  induction trace generalizing service with
  | nil => exact (List.append_nil _).symm
  | cons happening later ih =>
      rw [List.mem_cons, not_or] at hstays
      obtain ⟨hkept, htold⟩ : (happening.effect setup service).registry.contains name ∧ _ :=
        Happening.effect_told hregistered (Ne.symm hstays.1)
      have hchanges : (applied (happening :: later)).filterMap UpdateRequest.change? =
          (happening.appliedUpdate?.bind UpdateRequest.change?).toList ++
            (applied later).filterMap UpdateRequest.change? := by
        rw [applied, List.filterMap_cons]
        cases happening.appliedUpdate? with
        | none => rfl
        | some request =>
            dsimp only
            rw [List.filterMap_cons, Option.bind_some]
            cases request.change? <;> rfl
      rw [hchanges, ← List.append_assoc, ← htold]
      exact ih hkept hstays.2

end MemoryReclaim
