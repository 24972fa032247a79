import MemoryReclaim.Proofs.Session.Moves

/-!
# The books of a session

What was accepted has been dealt with or lies in a queue.  This rests on one fact about
markers: of what lies behind the marker for which the client waits, all comes from timers.
So a worker that stops at its marker drops timeouts only, and what the client posted before
has been dealt with when the marker is reached.
-/

namespace MemoryReclaim

namespace Session

variable {σ : Type} {setup : Setup σ} {first : Service σ} {session : Session σ}

/-! ## What lies in the queues -/

theorem ofClient_concat {senders : List Sender} {pending : List UpdateRequest}
    (hlength : senders.length = pending.length) (sender : Sender) (request : UpdateRequest) :
    ofClient (senders ++ [sender]) (pending ++ [request]) =
      ofClient senders pending ++ ofClient [sender] [request] := by
  rw [ofClient, List.zip_append hlength, List.filterMap_append]
  rfl

theorem ofClient_cons (sender : Sender) (senders : List Sender) (request : UpdateRequest)
    (pending : List UpdateRequest) :
    ofClient (sender :: senders) (request :: pending) =
      ofClient [sender] [request] ++ ofClient senders pending := by
  cases sender <;> rfl

/-- Who sent the messages that wait for a worker. -/
def sendersTo (session : Session σ) : Worker → List Sender
  | .reclaimPriority => session.senders
  | .lowMemoryKiller => List.replicate session.service.pendingSignals .client

/-- Nothing that the client sent lies behind the marker. -/
structure Holds (session : Session σ) (marker : Marker) : Prop where
  running : (session.service.queued? marker.worker).isSome
  ahead_le : marker.ahead ≤ (session.sendersTo marker.worker).length
  behind : ∀ sender ∈ (session.sendersTo marker.worker).drop marker.ahead, sender = .timer

/-- What is true of a session that began with `first`. -/
structure Sound (setup : Setup σ) (first : Service σ) (session : Session σ) : Prop where
  running_eq : ∀ worker, session.trace.running worker = (session.service.queued? worker).isSome
  senders_length : session.senders.length = session.service.queuedUpdates.length
  accepted_eq : session.trace.accepted = session.trace.handled ++ session.waiting
  signals_eq : session.trace.signals = session.trace.cycles + session.service.pendingSignals
  marked : ∀ marker, session.awaited = some marker → session.Holds marker
  lawful : session.trace.Lawful
  history : session.service = (session.trace.replay setup first).requeued
    session.service.updates session.service.signals

theorem begin_sound : (begin first).Sound setup first where
  running_eq worker := by cases worker <;> rfl
  senders_length := rfl
  accepted_eq := rfl
  signals_eq := rfl
  marked _ hmarker := by cases hmarker
  lawful earlier happening later htrace := by simp [begin] at htrace
  history := rfl

theorem waiting_eq_nil
    (hsenders : ∀ sender ∈ session.sendersTo .reclaimPriority, sender = .timer) :
    session.waiting = [] := by
  rw [waiting, ofClient, List.filterMap_eq_nil_iff]
  rintro ⟨sender, request⟩ hmem
  have htimer : sender = .timer := hsenders sender (List.of_mem_zip hmem).1
  rw [htimer]
  rfl

theorem pendingSignals_eq_zero
    (hsenders : ∀ sender ∈ session.sendersTo .lowMemoryKiller, sender = .timer) :
    session.service.pendingSignals = 0 := by
  by_contra hsome
  have hclient : Sender.client = .timer :=
    hsenders .client (List.mem_replicate.2 ⟨hsome, rfl⟩)
  cases hclient

namespace Sound

theorem length_sendersTo (hsound : session.Sound setup first) (worker : Worker) :
    (session.sendersTo worker).length = (session.service.queued? worker).getD 0 := by
  cases worker with
  | reclaimPriority =>
      rw [sendersTo, hsound.senders_length, Service.queuedUpdates, Service.queued?]
      cases session.service.updates <;> rfl
  | lowMemoryKiller => exact List.length_replicate

/-- A worker is settled when all that waits for it comes from timers. -/
theorem settled (hsound : session.Sound setup first) {worker : Worker}
    (hsenders : ∀ sender ∈ session.sendersTo worker, sender = .timer) :
    session.trace.Settled worker := by
  cases worker with
  | reclaimPriority =>
      have haccepted := hsound.accepted_eq
      rwa [waiting_eq_nil hsenders, List.append_nil] at haccepted
  | lowMemoryKiller =>
      have hsignals := hsound.signals_eq
      rwa [pendingSignals_eq_zero hsenders, Nat.add_zero] at hsignals

theorem settled_of_empty (hsound : session.Sound setup first) {worker : Worker}
    (hempty : (session.service.queued? worker).getD 0 = 0) : session.trace.Settled worker := by
  apply hsound.settled
  intro sender hmem
  rw [← hsound.length_sendersTo, List.length_eq_zero_iff] at hempty
  rw [hempty] at hmem
  exact absurd hmem List.not_mem_nil

theorem history_requeued (hsound : session.Sound setup first) (updates : Option UpdateQueue)
    (signals : Option Nat) :
    session.service.requeued updates signals =
      (session.trace.replay setup first).requeued updates signals :=
  (congrArg (Service.requeued updates signals) hsound.history).trans rfl

/-- A client that has come back waits for nothing. -/
theorem free (hsound : session.Sound setup first) :
    { session with awaited := none }.Sound setup first :=
  { hsound with marked := fun _ hmarker => by cases hmarker }

end Sound

/-! ## What happens is booked -/

/-- What is accepted enters a queue, and what is dealt with comes out of it. -/
structure Books (setup : Setup σ) (happening : Happening) (before after : Session σ) : Prop where
  trace_eq : after.trace = before.trace ++ [happening]
  service_eq : after.service = (happening.effect setup before.service).requeued
    after.service.updates after.service.signals
  running_eq : ∀ worker, (after.service.queued? worker).isSome =
    happening.leavesRunning worker (before.service.queued? worker).isSome
  senders_length : after.senders.length = after.service.queuedUpdates.length
  waiting_eq : before.waiting ++ happening.acceptedPost?.toList =
    happening.handledPost?.toList ++ after.waiting
  signals_eq : before.service.pendingSignals + happening.isSignal.toNat =
    after.service.pendingSignals + happening.isCycle.toNat
  marked : ∀ marker, after.awaited = some marker → after.Holds marker
  lawful : happening.Lawful before.trace

theorem Sound.book {before after : Session σ} {happening : Happening}
    (hsound : before.Sound setup first) (hbooks : Books setup happening before after) :
    after.Sound setup first where
  running_eq worker := by
    rw [hbooks.trace_eq, Trace.running_concat, hsound.running_eq, hbooks.running_eq]
  senders_length := hbooks.senders_length
  accepted_eq := by
    rw [hbooks.trace_eq, Trace.accepted_concat, Trace.handled_concat, hsound.accepted_eq,
      List.append_assoc, List.append_assoc, hbooks.waiting_eq]
  signals_eq := by
    rw [hbooks.trace_eq, Trace.signals_concat, Trace.cycles_concat, hsound.signals_eq,
      Nat.add_assoc, hbooks.signals_eq, Nat.add_assoc, Nat.add_comm happening.isCycle.toNat]
  marked := hbooks.marked
  lawful := by
    rw [hbooks.trace_eq]
    exact hsound.lawful.concat hbooks.lawful
  history := by
    rw [hbooks.service_eq, hbooks.trace_eq, Trace.replay_concat, hsound.history,
      Happening.effect_requeued]
    rfl

/-- Something happens that touches no queue. -/
theorem Sound.idle (hsound : session.Sound setup first) (hfree : session.awaited = none)
    (happening : Happening) (haccepted : happening.acceptedPost? = none)
    (hhandled : happening.handledPost? = none) (hsignal : happening.isSignal = false)
    (hcycle : happening.isCycle = false)
    (hrunning : ∀ worker, happening.leavesRunning worker (session.service.queued? worker).isSome =
      (session.service.queued? worker).isSome)
    (hlawful : happening.Lawful session.trace) :
    (session.note happening (happening.effect setup session.service)).Sound setup first := by
  obtain ⟨hupdates, hsignals⟩ := happening.effect_queues setup session.service
  have hqueued : (happening.effect setup session.service).queuedUpdates =
      session.service.queuedUpdates := by
    rw [Service.queuedUpdates, hupdates]
    rfl
  have hrest : Books setup happening session
      (session.note happening (happening.effect setup session.service)) := {
    trace_eq := rfl
    service_eq := rfl
    running_eq worker := by
      rw [hrunning]
      cases worker with
      | reclaimPriority => rw [note, Service.queued?, hupdates]; rfl
      | lowMemoryKiller => rw [note, Service.queued?, hsignals]; rfl
    senders_length := hsound.senders_length.trans (congrArg List.length hqueued.symm)
    waiting_eq := by
      rw [haccepted, hhandled, waiting, waiting, note, hqueued]
      exact List.append_nil _
    signals_eq := by
      rw [hsignal, hcycle, Service.pendingSignals, note, Service.pendingSignals, hsignals]
    marked marker hmarker := by
      rw [note, hfree] at hmarker
      cases hmarker
    lawful := hlawful }
  exact hsound.book hrest

end Session

end MemoryReclaim
