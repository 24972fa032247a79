import MemoryReclaim.Proofs.Session.Steps

/-!
# Workers come to the end of their queues

A worker that is left to itself deals with all that waits for it, and reaches the marker for
which the client waits.  With nothing in between, the client finds the service as a flush or
a stop in one piece would leave it.
-/

namespace MemoryReclaim

namespace Session

variable {σ : Type} {setup : Setup σ} {first : Service σ} {session : Session σ}

def awaits (worker : Worker) (session : Session σ) : Bool :=
  session.awaited.any fun marker => marker.worker = worker

/-- The number of messages that wait for a worker, with the marker for which the client
waits. -/
def backlog (worker : Worker) (session : Session σ) : Nat :=
  (session.service.queued? worker).getD 0 + (session.awaits worker).toNat

theorem awaits_approach (worker other : Worker) (awaited : Option Marker) :
    (awaited.map (Marker.approach other)).any (fun marker : Marker => marker.worker = worker) =
      awaited.any fun marker : Marker => marker.worker = worker := by
  cases awaited with
  | none => rfl
  | some marker =>
      rw [Option.map_some, Option.any_some, Option.any_some, Marker.approach]
      split <;> rfl

/-- What a worker makes of the service with one message. -/
def workStep (setup : Setup σ) (worker : Worker) (service : Service σ) : Service σ :=
  match worker with
  | .reclaimPriority => service.updateStep setup
  | .lowMemoryKiller => service.signalStep setup

/-- A worker that finds a message deals with it. -/
theorem Sound.work_spec (hsound : session.Sound setup first) {worker : Worker} {count : Nat}
    (hqueued : session.service.queued? worker = some (count + 1)) :
    (session.work setup worker).service = workStep setup worker session.service ∧
      (session.work setup worker).awaited = session.awaited.map (.approach worker) ∧
      (session.work setup worker).service.queued? worker = some count := by
  cases worker with
  | reclaimPriority =>
      rw [Service.queued?] at hqueued
      obtain ⟨⟨pending, timers⟩, hqueue, hpending⟩ := Option.map_eq_some_iff.1 hqueued
      obtain ⟨request, later, rfl⟩ := List.exists_cons_of_length_eq_add_one hpending
      have hlength := hsound.senders_length
      rw [queuedUpdates_of_running hqueue] at hlength
      obtain ⟨sender, senders, hsenders⟩ := List.exists_cons_of_length_eq_add_one hlength
      obtain ⟨left, hstep⟩ := Service.updateStep_of_queued setup hqueue
      rw [work, applyNext_of_queued setup hqueue hsenders]
      refine ⟨rfl, rfl, ?_⟩
      rw [hstep]
      exact congrArg some (Nat.succ_injective hpending)
  | lowMemoryKiller =>
      rw [work, cycleNext_of_signalled setup hqueued]
      refine ⟨rfl, rfl, ?_⟩
      rw [Service.signalStep_of_signalled setup hqueued]
      rfl

theorem Sound.work_backlog (hsound : session.Sound setup first) {worker : Worker}
    (hqueued : (session.service.queued? worker).getD 0 ≠ 0) :
    (session.work setup worker).backlog worker < session.backlog worker := by
  obtain ⟨count, hcount⟩ : ∃ count, session.service.queued? worker = some (count + 1) := by
    cases hsome : session.service.queued? worker with
    | none =>
        rw [hsome] at hqueued
        exact absurd rfl hqueued
    | some messages =>
        rw [hsome] at hqueued
        obtain ⟨count, hcount⟩ := Nat.exists_eq_succ_of_ne_zero hqueued
        exact ⟨count, congrArg some hcount⟩
  obtain ⟨-, hawaited, hless⟩ := hsound.work_spec hcount
  rw [backlog, backlog, awaits, awaits, hawaited, awaits_approach, hless, hcount]
  exact Nat.add_lt_add_right (Nat.lt_succ_self count) _

theorem reach_backlog {marker : Marker} (hmarker : session.awaited = some marker) :
    (session.reach marker).backlog marker.worker < session.backlog marker.worker := by
  obtain ⟨worker, stops, distance⟩ := marker
  have hawaits : session.awaits worker = true := by
    rw [awaits, hmarker]
    exact decide_eq_true rfl
  have hless : ((session.reach ⟨worker, stops, distance⟩).service.queued? worker).getD 0 ≤
      (session.service.queued? worker).getD 0 := by
    cases stops with
    | false => exact Nat.le_refl _
    | true => cases worker <;> exact Nat.zero_le _
  have hfree : (session.reach ⟨worker, stops, distance⟩).awaits worker = false := by
    cases stops <;> rfl
  rw [backlog, backlog, hawaits, hfree]
  exact Nat.lt_succ_of_le hless

theorem Sound.take_backlog (hsound : session.Sound setup first) {worker : Worker}
    (hmore : session.backlog worker ≠ 0) :
    (session.take setup worker).backlog worker < session.backlog worker := by
  rw [Session.take]
  cases hawaited : session.awaited with
  | none =>
      apply hsound.work_backlog
      rw [backlog, awaits, hawaited] at hmore
      exact hmore
  | some marker =>
  dsimp only
  split
  · next hhere =>
    rw [← hhere.1]
    exact reach_backlog hawaited
  · next hfar =>
    apply hsound.work_backlog
    intro hempty
    rw [backlog, hempty, awaits, hawaited, Option.any_some] at hmore
    -- The worker is awaited, so its marker stands at the end of an empty queue.
    have hworker : marker.worker = worker := by
      by_contra hother
      rw [decide_eq_false hother] at hmore
      exact hmore rfl
    have hle := (hsound.marked marker hawaited).ahead_le
    rw [hworker, hsound.length_sendersTo, hempty] at hle
    exact hfar ⟨hworker, Nat.le_zero.1 hle⟩

/-- Left to itself, a worker deals with all that waits for it. -/
theorem Sound.drained (hsound : session.Sound setup first) (worker : Worker) :
    ∃ count, (session.run setup (List.replicate count (.take worker))).backlog worker = 0 := by
  induction hbacklog : session.backlog worker using Nat.strong_induction_on
    generalizing session with
  | _ messages ih =>
  by_cases hnone : session.backlog worker = 0
  · exact ⟨0, hnone⟩
  · have htaken := hsound.take_backlog hnone
    rw [hbacklog] at htaken
    obtain ⟨count, hcount⟩ := ih _ htaken (hsound.take worker) rfl
    exact ⟨count + 1, hcount⟩

/-! ## With nothing in between -/

/-- A worker deals with a message that lies before the marker. -/
theorem Sound.take_before_marker (hsound : session.Sound setup first) {worker : Worker}
    {stops : Bool} {ahead : Nat} (hawaited : session.awaited = some ⟨worker, stops, ahead + 1⟩) :
    (session.take setup worker).service = workStep setup worker session.service ∧
      (session.take setup worker).awaited = some ⟨worker, stops, ahead⟩ := by
  have hholds := hsound.marked _ hawaited
  obtain ⟨messages, hmessages⟩ := Option.isSome_iff_exists.1 hholds.running
  have hle := hholds.ahead_le
  rw [hsound.length_sendersTo, hmessages] at hle
  obtain ⟨count, rfl⟩ := Nat.exists_eq_succ_of_ne_zero (Nat.ne_zero_of_lt hle)
  obtain ⟨hservice, hnear, -⟩ : (session.work setup worker).service = _ ∧ _ :=
    hsound.work_spec hmessages
  have hwork : session.take setup worker = session.work setup worker := by
    rw [Session.take, hawaited]
    exact if_neg fun hhere => absurd hhere.2 (Nat.succ_ne_zero ahead)
  rw [hwork, hservice, hnear, hawaited, Option.map_some, Marker.approach, if_pos rfl]
  exact ⟨rfl, rfl⟩

theorem Sound.run_to_marker (hsound : session.Sound setup first) {worker : Worker} {stops : Bool}
    {ahead : Nat} (hawaited : session.awaited = some ⟨worker, stops, ahead⟩) :
    let after := session.run setup (List.replicate ahead (.take worker))
    after.service = (workStep setup worker)^[ahead] session.service ∧
      after.awaited = some ⟨worker, stops, 0⟩ := by
  induction ahead generalizing session with
  | zero => exact ⟨rfl, hawaited⟩
  | succ ahead ih =>
      obtain ⟨hservice, hnear⟩ := hsound.take_before_marker hawaited
      have hlater := ih (hsound.take worker) hnear
      rw [hservice] at hlater
      exact hlater

/-- What a flush or a stop of a running worker does to the service in one piece. -/
def atOnce (setup : Setup σ) (worker : Worker) (stops : Bool) (service : Service σ) : Service σ :=
  match worker, stops with
  | .reclaimPriority, false => service.flush setup
  | .reclaimPriority, true => service.stopUpdates setup
  | .lowMemoryKiller, false => service.handleSignals setup
  | .lowMemoryKiller, true => service.stopKiller setup

theorem updateSteps_eq_iterate (setup : Setup σ) (count : Nat) (service : Service σ) :
    service.updateSteps setup count = (Service.updateStep setup)^[count] service := by
  induction count generalizing service with
  | zero => rfl
  | succ count ih => exact ih (service.updateStep setup)

theorem signalSteps_eq_iterate (setup : Setup σ) (count : Nat) (service : Service σ) :
    service.signalSteps setup count = (Service.signalStep setup)^[count] service := by
  induction count generalizing service with
  | zero => rfl
  | succ count ih => exact ih (service.signalStep setup)

theorem atOnce_eq {worker : Worker} {count : Nat} {service : Service σ}
    (hqueued : service.queued? worker = some count) (stops : Bool) :
    atOnce setup worker stops service =
      let done := (workStep setup worker)^[count] service
      if stops then done.endWorker worker else done := by
  cases worker with
  | reclaimPriority =>
      have hflush : service.flush setup = (Service.updateStep setup)^[count] service := by
        have hpending : service.pendingUpdates = count := by
          rw [Service.queued?] at hqueued
          rw [Service.pendingUpdates, hqueued]
          rfl
        rw [Service.flush, hpending, updateSteps_eq_iterate]
      cases stops with
      | false => exact hflush
      | true => exact congrArg (Service.endWorker .reclaimPriority) hflush
  | lowMemoryKiller =>
      have hflush : service.handleSignals setup = (Service.signalStep setup)^[count] service := by
        have hpending : service.pendingSignals = count := by
          rw [Service.queued?] at hqueued
          rw [Service.pendingSignals, hqueued]
          rfl
        rw [Service.handleSignals, hpending, signalSteps_eq_iterate]
      cases stops with
      | false => exact hflush
      | true => exact congrArg (Service.endWorker .lowMemoryKiller) hflush

/-- If only the worker moves while the client waits for it, the client finds the service as
the same call in one piece leaves it. -/
theorem Sound.await_undisturbed (hsound : session.Sound setup first)
    (hfree : session.awaited = none) {worker : Worker} {count : Nat}
    (hqueued : session.service.queued? worker = some count) (stops : Bool) :
    let after := (session.await worker stops).run setup
      (List.replicate (count + 1) (.take worker))
    after.service = atOnce setup worker stops session.service ∧ after.awaited = none := by
  have hawait : session.await worker stops =
      { session with awaited := some ⟨worker, stops, count⟩ } := by
    rw [Session.await, hqueued]
  have hwaiting := hsound.await hfree worker stops
  rw [hawait] at hwaiting
  obtain ⟨hservice, hawaited⟩ := hwaiting.run_to_marker rfl
  intro after
  -- After as many steps as there were messages the worker stands before the marker.
  have hafter : after =
      (({ session with awaited := some ⟨worker, stops, count⟩ } : Session σ).run setup
        (List.replicate count (.take worker))).take setup worker := by
    unfold after
    rw [hawait, List.replicate_succ', Session.run, List.foldl_append]
    rfl
  rw [hafter, Session.take, hawaited]
  simp only [and_self, if_true]
  rw [atOnce_eq hqueued, ← hservice, Session.reach]
  cases stops <;> exact ⟨rfl, rfl⟩

end Session

end MemoryReclaim
