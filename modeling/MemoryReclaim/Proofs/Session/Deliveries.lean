import MemoryReclaim.Host.Scripted
import MemoryReclaim.Proofs.Session.Progress

/-!
# Nothing is lost between a client and the workers

What the client and the subscribers can rely on, whatever the order of moves: nothing that
was accepted is lost, repeated or overtaken, also when workers stop and start again while
timers run.
-/

namespace MemoryReclaim

namespace Session

variable {σ : Type} {setup : Setup σ}

/-- What has happened stays in the trace. -/
theorem move_extends (session : Session σ) (move : Move) :
    session.trace <+: (session.move setup move).trace := by
  have hawait : ∀ worker stops, session.trace <+: (session.await worker stops).trace := by
    intro worker stops
    rw [await]
    split
    · exact List.prefix_append _ _
    · exact List.prefix_rfl
  cases move with
  | call request =>
      rw [Session.move]
      split
      · cases request with
        | post request =>
            rw [call, post]
            cases session.service.post request with
            | mk result service => cases result <;> exact List.prefix_append _ _
        | flush worker => exact hawait worker false
        | stop worker => exact hawait worker true
        | _ => exact List.prefix_append _ _
      · exact List.prefix_rfl
  | take worker =>
      have hwork : session.trace <+: (session.work setup worker).trace := by
        cases worker with
        | reclaimPriority =>
            rw [work, applyNext]
            split
            · exact List.prefix_append _ _
            · exact List.prefix_rfl
        | lowMemoryKiller =>
            rw [work, cycleNext]
            split
            · exact List.prefix_append _ _
            · exact List.prefix_rfl
      rw [Session.move, take]
      split
      · next marker _ =>
        split
        · rw [reach]
          cases marker.stops <;> exact List.prefix_append _ _
        · exact hwork
      · exact hwork
  | fire timer =>
      rw [Session.move, fire]
      split
      · split <;> exact List.prefix_rfl
      · exact List.prefix_rfl

theorem run_extends (session : Session σ) (moves : List Move) :
    session.trace <+: (session.run setup moves).trace := by
  induction moves generalizing session with
  | nil => exact List.prefix_rfl
  | cons move later ih => exact (session.move_extends move).trans (ih _)

/-- In every session, whatever the order in which the client, the workers and the timers
move: the updates that were accepted have been applied or wait, once each and in the order of
posting, and each signal that was accepted has run one cycle or waits.  Posts and signals are
accepted just while their worker runs.  When a flush or a stop comes back, all that was
accepted before has been dealt with; and a worker left to itself gets there.  The service is
what the updates, the cycles and the subscriptions make of it in the order in which they
happened, and a subscriber registered all the time has been told of the foreground changes
among the updates that were applied, once each and in that order. -/
theorem session_loses_nothing (setup : Setup σ) (service : Service σ) (moves : List Move) :
    let session := (begin service).run setup moves
    let trace := session.trace
    trace.accepted = trace.handled ++ session.waiting ∧
    trace.signals = trace.cycles + session.service.pendingSignals ∧
    (∀ earlier request result later, trace = earlier ++ .posted request result :: later →
      result =
        if Trace.running .reclaimPriority earlier then .ok ()
        else .error (.workerUnavailable .reclaimPriority)) ∧
    (∀ earlier accepted later, trace = earlier ++ .signalled accepted :: later →
      accepted = Trace.running .lowMemoryKiller earlier) ∧
    (∀ earlier worker stops later, trace = earlier ++ .returned worker stops :: later →
      Trace.Settled earlier worker) ∧
    (∀ worker, ∃ count,
      let after := session.run setup (List.replicate count (.take worker))
      trace <+: after.trace ∧ after.trace.Settled worker ∧ after.awaits worker = false) ∧
    session.service = (trace.replay setup service).requeued session.service.updates
      session.service.signals ∧
    ∀ name, service.registry.contains name → .unsubscribed name ∉ trace →
      session.service.changesTold name =
        service.changesTold name ++ trace.applied.filterMap UpdateRequest.change? := by
  intro session trace
  have hsound : session.Sound setup service := begin_sound.run moves
  refine ⟨hsound.accepted_eq, hsound.signals_eq, ?_, ?_, ?_, ?_, hsound.history, ?_⟩
  · intro earlier request result later htrace
    exact hsound.lawful earlier _ later htrace
  · intro earlier accepted later htrace
    exact hsound.lawful earlier _ later htrace
  · intro earlier worker stops later htrace
    exact hsound.lawful earlier _ later htrace
  · intro worker
    obtain ⟨count, hcount⟩ := hsound.drained worker
    refine ⟨count, session.run_extends _, ?_, ?_⟩
    · exact (hsound.run _).settled_of_empty (Nat.eq_zero_of_add_eq_zero_right hcount)
    · have hawaits := Nat.eq_zero_of_add_eq_zero_left hcount
      exact Bool.toNat_eq_zero.1 hawaits
  · intro name hregistered hstays
    rw [hsound.history]
    exact Trace.replay_told hregistered hstays

/-- A camera comes to the foreground and starts an ability.  The worker is stopped, and the
grace window ends while the client waits: the timeout lies behind the marker, and is lost.
Nothing is accepted before the worker is started again. -/
theorem session_loses_nothing_camera :
    let setup : Setup Script := ⟨Script.host, .nameless, .default, "/proc"⟩
    let service := ((Service.start Script.start).subscribe "watcher").2
    let camera : Identity := ⟨100, 20010002, "camera"⟩
    let shown : UpdateRequest := .single camera .foreground
    let started : UpdateRequest := .single camera .abilityStart
    let hidden : UpdateRequest := .single camera .background
    let moves : List Move :=
      [.call (.start .reclaimPriority true), .call (.post shown), .call (.post started),
        .take .reclaimPriority, .call (.stop .reclaimPriority), .take .reclaimPriority,
        .fire ⟨10000, camera⟩, .take .reclaimPriority, .call (.post hidden),
        .call (.start .reclaimPriority true), .call (.post hidden), .take .reclaimPriority]
    ((begin service).run setup moves).trace.applied = [shown, started, hidden] ∧
      .posted hidden (.error (.workerUnavailable .reclaimPriority)) ∈
        ((begin service).run setup moves).trace ∧
      ((begin service).run setup moves).service.changesTold "watcher" =
        [⟨100, 20010002, .foreground⟩, ⟨100, 20010002, .background⟩] := by
  intro setup service camera shown started hidden moves
  obtain ⟨-, -, -, -, -, -, -, htold⟩ := session_loses_nothing setup service moves
  have happlied : ((begin service).run setup moves).trace.applied = [shown, started, hidden] := by
    decide +kernel
  refine ⟨happlied, by decide +kernel, ?_⟩
  rw [htold "watcher" (by decide) (by decide +kernel), happlied]
  decide

end Session

end MemoryReclaim
