import MemoryReclaim.Proofs.Session.Books

/-!
# Every move keeps the books

What a call accepts enters a queue, a worker takes from its queue what it deals with, and a
timer puts its timeout behind everything else.
-/

namespace MemoryReclaim

namespace Session

variable {σ : Type} {setup : Setup σ} {first : Service σ} {session : Session σ}

/-! ## Calls -/

theorem queuedUpdates_of_running {service : Service σ} {queue : UpdateQueue}
    (hqueue : service.updates = some queue) : service.queuedUpdates = queue.pending := by
  rw [Service.queuedUpdates, hqueue]
  rfl

theorem post_of_running {queue : UpdateQueue} (hqueue : session.service.updates = some queue)
    (request : UpdateRequest) :
    session.post request =
      { session with
        service := session.service.requeued
          (some { queue with pending := queue.pending ++ [request] }) session.service.signals
        senders := session.senders ++ [.client]
        trace := session.trace ++ [.posted request (.ok ())] } := by
  rw [Session.post, Service.post_of_running hqueue]
  rfl

theorem Sound.post (hsound : session.Sound setup first) (hfree : session.awaited = none)
    (request : UpdateRequest) : (session.post request).Sound setup first := by
  have hrunning := hsound.running_eq .reclaimPriority
  cases hqueue : session.service.updates with
  | none =>
      have hstopped : session.trace.running .reclaimPriority = false := by
        rw [hrunning, Service.queued?, hqueue]
        rfl
      rw [Session.post, Service.post, hqueue]
      refine hsound.idle hfree (.posted request _) rfl rfl rfl rfl (fun _ => rfl) ?_
      rw [Happening.Lawful, hstopped]
      rfl
  | some queue =>
      have hgoing : session.trace.running .reclaimPriority = true := by
        rw [hrunning, Service.queued?, hqueue]
        rfl
      have hlength := hsound.senders_length
      rw [queuedUpdates_of_running hqueue] at hlength
      rw [post_of_running hqueue]
      refine hsound.book {
        trace_eq := rfl
        service_eq := rfl
        running_eq := ?_
        senders_length := ?_
        waiting_eq := ?_
        signals_eq := rfl
        marked := fun marker hmarker => by cases hfree.symm.trans hmarker
        lawful := (if_pos hgoing).symm }
      · intro worker
        cases worker with
        | reclaimPriority => rw [Service.queued?, Service.queued?, hqueue]; rfl
        | lowMemoryKiller => rfl
      · rw [List.length_append, hlength, queuedUpdates_of_running rfl, List.length_append]
        rfl
      · rw [waiting, queuedUpdates_of_running hqueue]
        exact (ofClient_concat hlength .client request).symm

theorem Sound.signal (hsound : session.Sound setup first) (hfree : session.awaited = none) :
    (session.call .signal).Sound setup first := by
  have hrunning := hsound.running_eq .lowMemoryKiller
  rw [Session.call, Service.signalPressure]
  cases hsignals : session.service.signals with
  | none =>
      rw [Service.queued?, hsignals] at hrunning
      exact hsound.idle hfree (.signalled false) rfl rfl rfl rfl (fun _ => rfl) hrunning.symm
  | some count =>
      rw [Service.queued?, hsignals] at hrunning
      refine hsound.book {
        trace_eq := rfl
        service_eq := rfl
        running_eq := ?_
        senders_length := hsound.senders_length
        waiting_eq := List.append_nil _
        signals_eq := ?_
        marked := fun marker hmarker => by cases hfree.symm.trans hmarker
        lawful := hrunning.symm }
      · intro worker
        cases worker with
        | reclaimPriority => rfl
        | lowMemoryKiller => rw [Service.queued?, Service.queued?, hsignals]; rfl
      · rw [Service.pendingSignals, hsignals]
        rfl

/-- A worker begins with an empty queue. -/
def beginWorker (worker : Worker) (service : Service σ) : Service σ :=
  match worker with
  | .reclaimPriority => service.requeued (some ⟨[], []⟩) service.signals
  | .lowMemoryKiller => service.requeued service.updates (some 0)

/-- To start a worker that runs, or without a runtime, changes nothing. -/
theorem startWorker_cases (worker : Worker) (hasRuntime : Bool) (service : Service σ) :
    ((service.startWorker worker hasRuntime).2 = service ∧
      ((service.startWorker worker hasRuntime).1 = true → (service.queued? worker).isSome)) ∨
    service.queued? worker = none ∧
      service.startWorker worker hasRuntime = (true, beginWorker worker service) := by
  cases worker with
  | reclaimPriority =>
      rw [Service.startWorker, Service.startUpdates, Service.queued?]
      cases service.updates with
      | some queue => exact .inl ⟨rfl, fun _ => rfl⟩
      | none =>
          cases hasRuntime with
          | false => exact .inl ⟨rfl, fun hstarted => absurd hstarted Bool.false_ne_true⟩
          | true => exact .inr ⟨rfl, rfl⟩
  | lowMemoryKiller =>
      rw [Service.startWorker, Service.startKiller, Service.queued?]
      cases service.signals with
      | some count => exact .inl ⟨rfl, fun _ => rfl⟩
      | none =>
          cases hasRuntime with
          | false => exact .inl ⟨rfl, fun hstarted => absurd hstarted Bool.false_ne_true⟩
          | true => exact .inr ⟨rfl, rfl⟩

theorem Sound.start (hsound : session.Sound setup first) (hfree : session.awaited = none)
    (worker : Worker) (hasRuntime : Bool) :
    (session.call (.start worker hasRuntime)).Sound setup first := by
  rcases startWorker_cases worker hasRuntime session.service with
    ⟨hsame, hruns⟩ | ⟨hstopped, hstarted⟩
  · have hrunning : ∀ other, Happening.leavesRunning other
        (session.service.queued? other).isSome
        (.started worker (session.service.startWorker worker hasRuntime).1) =
          (session.service.queued? other).isSome := by
      intro other
      apply Happening.leavesRunning_started
      rintro hsucceeded rfl
      exact hruns hsucceeded
    have hcall : session.call (.start worker hasRuntime) =
        session.note (.started worker (session.service.startWorker worker hasRuntime).1)
          (session.service.startWorker worker hasRuntime).2 := rfl
    rw [hcall, hsame]
    exact hsound.idle hfree (.started worker _) rfl rfl rfl rfl hrunning trivial
  · have hlength := hsound.senders_length
    rw [Session.call, hstarted]
    cases worker with
    | reclaimPriority =>
        have hnone : session.service.updates = none := Option.map_eq_none_iff.1 hstopped
        have hempty : session.service.queuedUpdates = [] := by
          rw [Service.queuedUpdates, hnone]
          rfl
        refine hsound.book {
          trace_eq := rfl
          service_eq := rfl
          running_eq := ?_
          senders_length := hlength.trans (congrArg List.length hempty)
          waiting_eq := ?_
          signals_eq := rfl
          marked := fun marker hmarker => by cases hfree.symm.trans hmarker
          lawful := trivial }
        · intro other
          cases other with
          | reclaimPriority => rw [hstopped]; rfl
          | lowMemoryKiller => exact (Bool.or_false _).symm
        · rw [waiting, hempty]
          exact List.append_nil _
    | lowMemoryKiller =>
        have hnone : session.service.signals = none := hstopped
        refine hsound.book {
          trace_eq := rfl
          service_eq := rfl
          running_eq := ?_
          senders_length := hlength
          waiting_eq := List.append_nil _
          signals_eq := ?_
          marked := fun marker hmarker => by cases hfree.symm.trans hmarker
          lawful := trivial }
        · intro other
          cases other with
          | reclaimPriority => exact (Bool.or_false _).symm
          | lowMemoryKiller => rw [hstopped]; rfl
        · rw [Service.pendingSignals, hnone]
          rfl

/-- A worker that does not run has nothing left to deal with. -/
theorem Sound.await (hsound : session.Sound setup first) (hfree : session.awaited = none)
    (worker : Worker) (stops : Bool) : (session.await worker stops).Sound setup first := by
  rw [Session.await]
  cases hqueued : session.service.queued? worker with
  | none =>
      have hrunning : ∀ other, Happening.leavesRunning other
          (session.service.queued? other).isSome (.returned worker stops) =
            (session.service.queued? other).isSome := by
        intro other
        apply Happening.leavesRunning_returned
        rintro rfl
        rw [hqueued]
        rfl
      refine hsound.idle hfree (.returned worker stops) rfl rfl rfl rfl hrunning
        (hsound.settled_of_empty ?_)
      rw [hqueued]
      rfl
  | some ahead =>
      refine { hsound with marked := ?_ }
      rintro marker ⟨⟩
      have hlength := hsound.length_sendersTo worker
      rw [hqueued] at hlength
      refine ⟨Option.isSome_of_eq_some hqueued, hlength.ge, ?_⟩
      intro sender hmem
      have hdropped : (session.sendersTo worker).drop ahead = [] :=
        List.drop_of_length_le hlength.le
      exact absurd (hdropped ▸ hmem) List.not_mem_nil

theorem Sound.call (hsound : session.Sound setup first) (hfree : session.awaited = none)
    (request : ClientCall) : (session.call request).Sound setup first := by
  cases request with
  | post request => exact hsound.post hfree request
  | signal => exact hsound.signal hfree
  | start worker hasRuntime => exact hsound.start hfree worker hasRuntime
  | flush worker => exact hsound.await hfree worker false
  | stop worker => exact hsound.await hfree worker true
  | subscribe name =>
      exact hsound.idle hfree (.subscribed name) rfl rfl rfl rfl (fun _ => rfl) trivial
  | unsubscribe name =>
      exact hsound.idle hfree (.unsubscribed name) rfl rfl rfl rfl (fun _ => rfl) trivial

/-! ## Timers -/

theorem fire_of_mem {queue : UpdateQueue} {timer : Timer}
    (hqueue : session.service.updates = some queue) (hmem : timer ∈ queue.timers) :
    session.fire timer =
      { session with
        service := session.service.requeued
          (some ⟨queue.pending ++ [.single timer.target .abilityStartTimeout],
            queue.timers.erase timer⟩) session.service.signals
        senders := session.senders ++ [.timer] } := by
  rw [Session.fire, Service.fireTimer, hqueue]
  exact if_pos hmem

/-- What a timer posts lies behind every marker, where timeouts may lie. -/
theorem Sound.fire (hsound : session.Sound setup first) (timer : Timer) :
    (session.fire timer).Sound setup first := by
  have hlength := hsound.senders_length
  cases hqueue : session.service.updates with
  | none =>
      rw [Session.fire, hqueue]
      exact hsound
  | some queue =>
  by_cases hmem : timer ∈ queue.timers
  · rw [queuedUpdates_of_running hqueue] at hlength
    rw [fire_of_mem hqueue hmem]
    refine {
      running_eq := ?_
      senders_length := ?_
      accepted_eq := ?_
      signals_eq := hsound.signals_eq
      marked := ?_
      lawful := hsound.lawful
      history := hsound.history_requeued _ _ }
    · intro worker
      rw [hsound.running_eq]
      cases worker with
      | reclaimPriority => rw [Service.queued?, hqueue]; rfl
      | lowMemoryKiller => rfl
    · rw [queuedUpdates_of_running rfl, List.length_append, List.length_append, hlength]
      rfl
    · rw [hsound.accepted_eq, waiting, waiting, queuedUpdates_of_running hqueue,
        queuedUpdates_of_running rfl, ofClient_concat hlength]
      exact congrArg _ (List.append_nil _).symm
    · rintro ⟨worker, stops, ahead⟩ hmarker
      have hholds := hsound.marked _ hmarker
      cases worker with
      | reclaimPriority =>
          have hle : ahead ≤ session.senders.length := hholds.ahead_le
          refine ⟨rfl, hle.trans (List.prefix_append _ _).length_le, ?_⟩
          intro sender hsender
          rw [sendersTo, List.drop_append_of_le_length hle] at hsender
          rcases List.mem_append.1 hsender with hearlier | hlast
          · exact hholds.behind sender hearlier
          · exact List.mem_singleton.1 hlast
      | lowMemoryKiller => exact ⟨hholds.running, hholds.ahead_le, hholds.behind⟩
  · rw [Session.fire, hqueue]
    simp only [if_neg hmem]
    exact hsound

/-! ## Steps of the workers -/

/-- A marker comes nearer as the worker takes what is first in its queue. -/
theorem Holds.approach {before after : Session σ} {marker : Marker} {worker : Worker}
    {sender : Sender} (hholds : before.Holds marker)
    (hrunning : ∀ other, (before.service.queued? other).isSome →
      (after.service.queued? other).isSome)
    (htaken : before.sendersTo worker = sender :: after.sendersTo worker)
    (hothers : ∀ other, other ≠ worker → after.sendersTo other = before.sendersTo other)
    (hfar : marker.worker = worker → marker.ahead ≠ 0) :
    after.Holds (marker.approach worker) := by
  rw [Marker.approach]
  by_cases hworker : marker.worker = worker
  · subst hworker
    obtain ⟨ahead, hahead⟩ := Nat.exists_eq_succ_of_ne_zero (hfar rfl)
    have hle := hholds.ahead_le
    have hbehind := hholds.behind
    rw [htaken, hahead] at hle hbehind
    rw [if_pos rfl, hahead]
    exact ⟨hrunning _ hholds.running, Nat.le_of_succ_le_succ hle, hbehind⟩
  · rw [if_neg hworker]
    refine ⟨hrunning _ hholds.running, ?_, ?_⟩
    · rw [hothers _ hworker]
      exact hholds.ahead_le
    · rw [hothers _ hworker]
      exact hholds.behind

theorem applyNext_of_queued (setup : Setup σ) {request : UpdateRequest}
    {later : List UpdateRequest} {timers : List Timer} {sender : Sender} {senders : List Sender}
    (hqueue : session.service.updates = some ⟨request :: later, timers⟩)
    (hsenders : session.senders = sender :: senders) :
    session.applyNext setup =
      { service := session.service.updateStep setup
        senders
        awaited := session.awaited.map (.approach .reclaimPriority)
        trace := session.trace ++ [.applied sender request] } := by
  have hnext : session.service.nextUpdate? = some request := by
    rw [Service.nextUpdate?, hqueue]
    rfl
  rw [applyNext, hnext, hsenders]
  rfl

theorem Sound.applyNext (hsound : session.Sound setup first)
    (hfar : ∀ marker, session.awaited = some marker → marker.worker = .reclaimPriority →
      marker.ahead ≠ 0) : (session.applyNext setup).Sound setup first := by
  have hidle : session.service.nextUpdate? = none →
      (session.applyNext setup).Sound setup first := by
    intro hnone
    rw [Session.applyNext, hnone]
    exact hsound
  cases hqueue : session.service.updates with
  | none => exact hidle (by rw [Service.nextUpdate?, hqueue]; rfl)
  | some queue =>
  obtain ⟨pending, timers⟩ := queue
  cases pending with
  | nil => exact hidle (by rw [Service.nextUpdate?, hqueue]; rfl)
  | cons request later =>
  have hlength := hsound.senders_length
  rw [queuedUpdates_of_running hqueue] at hlength
  obtain ⟨sender, senders, hsenders⟩ := List.exists_cons_of_length_eq_add_one hlength
  rw [hsenders] at hlength
  obtain ⟨left, hstep⟩ := Service.updateStep_of_queued setup hqueue
  rw [applyNext_of_queued setup hqueue hsenders, hstep]
  have hrunning : ∀ other, (session.service.queued? other).isSome =
      (((session.service.updateQueued setup request).requeued (some ⟨later, left⟩)
        session.service.signals).queued? other).isSome := by
    intro other
    cases other with
    | reclaimPriority => rw [Service.queued?, hqueue]; rfl
    | lowMemoryKiller => rfl
  refine hsound.book {
    trace_eq := rfl
    service_eq := rfl
    running_eq := fun other => (hrunning other).symm
    senders_length := Nat.succ_injective hlength
    waiting_eq := ?_
    signals_eq := rfl
    marked := ?_
    lawful := trivial }
  · rw [waiting, queuedUpdates_of_running hqueue, hsenders, ofClient_cons]
    cases sender <;> exact List.append_nil _
  · intro marker hmarker
    obtain ⟨former, hformer, rfl⟩ := Option.map_eq_some_iff.1 hmarker
    refine (hsound.marked former hformer).approach (fun other => (hrunning other).le) hsenders ?_
      (hfar former hformer)
    intro other hother
    cases other with
    | reclaimPriority => exact absurd rfl hother
    | lowMemoryKiller => rfl

theorem cycleNext_of_signalled (setup : Setup σ) {count : Nat}
    (hsignals : session.service.signals = some (count + 1)) :
    session.cycleNext setup =
      { session with
        service := session.service.signalStep setup
        awaited := session.awaited.map (.approach .lowMemoryKiller)
        trace := session.trace ++ [.cycled] } := by
  rw [cycleNext, hsignals]
  rfl

theorem Sound.cycleNext (hsound : session.Sound setup first)
    (hfar : ∀ marker, session.awaited = some marker → marker.worker = .lowMemoryKiller →
      marker.ahead ≠ 0) : (session.cycleNext setup).Sound setup first := by
  cases hsignals : session.service.signals with
  | none =>
      rw [Session.cycleNext, hsignals]
      exact hsound
  | some waiting =>
  cases waiting with
  | zero =>
      rw [Session.cycleNext, hsignals]
      exact hsound
  | succ count =>
  have hrunning : ∀ other, (session.service.queued? other).isSome =
      (((session.service.killCycle setup).2.requeued session.service.updates
        (some count)).queued? other).isSome := by
    intro other
    cases other with
    | reclaimPriority => rfl
    | lowMemoryKiller => rw [Service.queued?, hsignals]; rfl
  rw [cycleNext_of_signalled setup hsignals, Service.signalStep_of_signalled setup hsignals]
  refine hsound.book {
    trace_eq := rfl
    service_eq := rfl
    running_eq := fun other => (hrunning other).symm
    senders_length := hsound.senders_length
    waiting_eq := List.append_nil _
    signals_eq := ?_
    marked := ?_
    lawful := trivial }
  · rw [Service.pendingSignals, hsignals]
    rfl
  · intro marker hmarker
    obtain ⟨former, hformer, rfl⟩ := Option.map_eq_some_iff.1 hmarker
    have htaken : session.sendersTo .lowMemoryKiller =
        .client :: List.replicate count .client := by
      rw [sendersTo, Service.pendingSignals, hsignals]
      rfl
    refine (hsound.marked former hformer).approach (fun other => (hrunning other).le) htaken ?_
      (hfar former hformer)
    intro other hother
    cases other with
    | reclaimPriority => rfl
    | lowMemoryKiller => exact absurd rfl hother

/-- A worker that reaches its marker has only timeouts left, and drops no more than these if
it stops there. -/
theorem Sound.reach (hsound : session.Sound setup first) {marker : Marker}
    (hmarker : session.awaited = some marker) (hnear : marker.ahead = 0) :
    (session.reach marker).Sound setup first := by
  obtain ⟨worker, stops, ahead⟩ := marker
  have hholds := hsound.marked _ hmarker
  have htimers : ∀ sender ∈ session.sendersTo worker, sender = .timer := by
    have hbehind := hholds.behind
    rwa [hnear] at hbehind
  have hsettled := hsound.settled htimers
  cases stops with
  | false =>
      exact hsound.free.idle rfl (.returned worker false) rfl rfl rfl rfl (fun _ => rfl) hsettled
  | true =>
  have hrunning : ∀ other, ((session.service.endWorker worker).queued? other).isSome =
      Happening.leavesRunning other (session.service.queued? other).isSome
        (.returned worker true) := by
    intro other
    cases worker <;> cases other <;>
      simp [Service.endWorker, Service.queued?, Happening.leavesRunning]
  cases worker with
  | reclaimPriority =>
      refine hsound.free.book {
        trace_eq := rfl
        service_eq := rfl
        running_eq := hrunning
        senders_length := rfl
        waiting_eq := ?_
        signals_eq := rfl
        marked := fun _ hnone => by cases hnone
        lawful := hsettled }
      exact (List.append_nil _).trans (waiting_eq_nil htimers)
  | lowMemoryKiller =>
      refine hsound.free.book {
        trace_eq := rfl
        service_eq := rfl
        running_eq := hrunning
        senders_length := hsound.senders_length
        waiting_eq := List.append_nil _
        signals_eq := pendingSignals_eq_zero htimers
        marked := fun _ hnone => by cases hnone
        lawful := hsettled }

theorem Sound.take (hsound : session.Sound setup first) (worker : Worker) :
    (session.take setup worker).Sound setup first := by
  have hwork : (∀ marker, session.awaited = some marker → marker.worker = worker →
      marker.ahead ≠ 0) → (session.work setup worker).Sound setup first := by
    intro hfar
    cases worker with
    | reclaimPriority => exact hsound.applyNext hfar
    | lowMemoryKiller => exact hsound.cycleNext hfar
  rw [Session.take]
  split
  · next marker hmarker =>
    split
    · next hhere => exact hsound.reach hmarker hhere.2
    · next hfar =>
      apply hwork
      intro other hother hworker hnear
      obtain rfl := Option.some.inj (hmarker.symm.trans hother)
      exact hfar ⟨hworker, hnear⟩
  · next hnone =>
    apply hwork
    intro marker hmarker
    rw [hnone] at hmarker
    cases hmarker

/-! ## Whole sessions -/

theorem Sound.move (hsound : session.Sound setup first) (move : Move) :
    (session.move setup move).Sound setup first := by
  cases move with
  | call request =>
      rw [Session.move]
      split
      · next hfree => exact hsound.call hfree request
      · exact hsound
  | take worker => exact hsound.take worker
  | fire timer => exact hsound.fire timer

theorem Sound.run (hsound : session.Sound setup first) (moves : List Move) :
    (session.run setup moves).Sound setup first := by
  induction moves generalizing session with
  | nil => exact hsound
  | cons move later ih => exact ih (hsound.move move)

end Session

end MemoryReclaim
