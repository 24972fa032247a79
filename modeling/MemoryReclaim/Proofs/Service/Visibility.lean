import MemoryReclaim.Host.Scripted
import MemoryReclaim.Proofs.Service.Applied
import MemoryReclaim.Proofs.Table.Visibility

/-!
# Visible windows and visible processes

The service counts the visible windows of a pid when they are reported; the table learns of
it through the queue, and only of the first and the last of them.  So the two agree up to
what is still queued: `InStep` says that the queue would make the table see what the
service counts.
-/

namespace MemoryReclaim

namespace VisibleWindows

/-- Whether a process has visible windows. -/
def seen (windows : VisibleWindows) (pid : Pid) : Bool := !(windows.ofPid pid).isEmpty

theorem seen_set (windows : VisibleWindows) (pid : Pid) (visible : OrdSet WindowId) (other : Pid) :
    (windows.set pid visible).seen other =
      if pid = other then !visible.isEmpty else windows.seen other := by
  rw [seen, seen, ofPid, ofPid, set]
  cases hvisible : visible.isEmpty with
  | true =>
      rw [if_pos rfl, OrdMap.get?_erase]
      split <;> rfl
  | false =>
      rw [if_neg Bool.false_ne_true, OrdMap.get?_insert]
      split
      · rw [Option.getD_some, hvisible]
      · rfl

theorem seen_erase (windows : VisibleWindows) (pid : Pid) :
    seen (windows.erase pid) = Reason.processTerminated.seenAfter pid windows.seen := by
  funext other
  simp only [seen, ofPid, OrdMap.get?_erase, Reason.seenAfter]
  split <;> rfl

/-- What is predicted of a report is what it leaves. -/
theorem visibleAfter_eq (info : WindowInfo) (visible : OrdSet WindowId) :
    visibleAfter info visible = !(afterReport info visible).isEmpty := by
  rw [visibleAfter, afterReport]
  cases hshown : info.isVisible with
  | true =>
      have hpresent : (visible.insert info.window ()).isEmpty = false :=
        OrdMap.isEmpty_eq_false_iff.2 ⟨info.window, (), by rw [OrdMap.get?_insert, if_pos rfl]⟩
      rw [if_pos rfl, hpresent, Bool.true_or, Bool.not_false]
  | false =>
      rw [if_neg Bool.false_ne_true, Bool.false_or, Bool.eq_iff_iff, List.any_eq_true,
        Bool.not_eq_true', OrdMap.isEmpty_eq_false_iff]
      constructor
      · rintro ⟨window, hwindow, hother⟩
        obtain ⟨value, hvalue⟩ := Option.isSome_iff_exists.1 (OrdMap.mem_keys.1 hwindow)
        refine ⟨window, value, ?_⟩
        rw [OrdMap.get?_erase, if_neg (Ne.symm (of_decide_eq_true hother)), hvalue]
      · rintro ⟨window, value, hvalue⟩
        rw [OrdMap.get?_erase] at hvalue
        split at hvalue
        · cases hvalue
        · next hother =>
          have hwindow : visible.contains window := by rw [OrdMap.contains, hvalue]; rfl
          exact ⟨window, OrdMap.mem_keys.2 hwindow, decide_eq_true (Ne.symm hother)⟩

/-- A report that shows or hides a process makes a transition, and no other does. -/
theorem seen_apply (windows : VisibleWindows) (info : WindowInfo) :
    (windows.apply info).seen =
      match windows.transition? info with
      | none => windows.seen
      | some reason => reason.seenAfter info.pid windows.seen := by
  funext other
  have hbefore : windows.seen info.pid = !(windows.ofPid info.pid).isEmpty := rfl
  rw [apply, seen_set, transition?, visibleAfter_eq]
  -- Whether any window was visible before and whether one is now decide the transition.
  cases hempty : (windows.ofPid info.pid).isEmpty <;>
    cases hafter : (afterReport info (windows.ofPid info.pid)).isEmpty <;>
      by_cases hother : info.pid = other <;>
        simp_all [Reason.seenAfter]

end VisibleWindows

namespace Service

variable {σ : Type} {setup : Setup σ} {service before after : Service σ}

/-- Who will be visible once the updates that wait have been applied. -/
def foreseen (pending : List UpdateRequest) (seen : Pid → Bool) : Pid → Bool :=
  pending.foldl (fun seen request => request.reason.seenAfter request.target.pid seen) seen

theorem foreseen_append (pending : List UpdateRequest) (request : UpdateRequest)
    (seen : Pid → Bool) :
    foreseen (pending ++ [request]) seen =
      request.reason.seenAfter request.target.pid (foreseen pending seen) := by
  rw [foreseen, foreseen, List.foldl_append]
  rfl

/-- The queue runs, and takes the table to where the service sees visible windows. -/
structure InStep (service : Service σ) : Prop where
  consistent : service.table.Consistent
  queued : ∃ queue, service.updates = some queue ∧
    foreseen queue.pending service.table.seen = service.windows.seen

theorem post_of_running {queue : UpdateQueue} (hqueue : service.updates = some queue)
    (request : UpdateRequest) :
    service.post request =
      (.ok (), { service with
        updates := some { queue with pending := queue.pending ++ [request] } }) := by
  rw [post, hqueue]

theorem notifyChange_rest (change : Option AppStateChange) (service : Service σ) :
    (service.notifyChange change).updates = service.updates ∧
      (service.notifyChange change).windows = service.windows := by
  cases change <;> exact ⟨rfl, rfl⟩

theorem perform_rest (setup : Setup σ) (request : ResolvedRequest) (service : Service σ) :
    (service.perform setup request).updates = service.updates ∧
      (service.perform setup request).windows = service.windows :=
  notifyChange_rest _ _

theorem updateStep_rest (setup : Setup σ) {request : UpdateRequest} {later : List UpdateRequest}
    {timers : List Timer} (hqueue : service.updates = some ⟨request :: later, timers⟩) :
    (∃ added, (service.updateStep setup).updates = some ⟨later, timers ++ added⟩) ∧
      (service.updateStep setup).windows = service.windows := by
  rw [updateStep_eq, hqueue]
  exact ⟨⟨_, (perform_rest _ _ _).1⟩, (perform_rest _ _ _).2⟩

namespace InStep

theorem post (hinStep : InStep before) (request : UpdateRequest)
    (htable : after.table = before.table)
    (hupdates : after.updates = (before.post request).2.updates)
    (hwindows : after.windows.seen =
      request.reason.seenAfter request.target.pid before.windows.seen) : InStep after := by
  obtain ⟨queue, hqueue, hforeseen⟩ := hinStep.queued
  rw [post_of_running hqueue] at hupdates
  refine ⟨htable ▸ hinStep.consistent, _, hupdates, ?_⟩
  rw [foreseen_append, htable, hforeseen, hwindows]

theorem reportWindow (hinStep : InStep service) (info : WindowInfo) :
    InStep (service.reportWindow info).2 := by
  have hseen := service.windows.seen_apply info
  obtain ⟨queue, hqueue, hforeseen⟩ := hinStep.queued
  rw [Service.reportWindow]
  cases htransition : service.windows.transition? info with
  | none =>
      rw [htransition] at hseen
      exact ⟨hinStep.consistent, queue, hqueue, hforeseen.trans hseen.symm⟩
  | some reason =>
      rw [htransition] at hseen
      simp only [post_of_running hqueue]
      refine hinStep.post ⟨none, .unnamed info.pid info.uid, reason⟩ rfl ?_ hseen
      rw [post_of_running hqueue]
      rfl

theorem reportWindows (hinStep : InStep service) (windows : List WindowInfo) :
    InStep (service.reportWindows windows).2 := by
  induction windows generalizing service with
  | nil => exact hinStep
  | cons info later ih => exact ih (hinStep.reportWindow info)

theorem notifyLifecycle (hinStep : InStep service) {request : UpdateRequest}
    (hvisible : request.reason ≠ .visible) (hinvisible : request.reason ≠ .invisible) :
    InStep (service.notifyLifecycle request).2 := by
  obtain ⟨queue, hqueue, -⟩ := hinStep.queued
  rw [Service.notifyLifecycle]
  split
  · next hended =>
    have hrunning : { service with windows := service.windows.erase request.target.pid }.updates =
        some queue := hqueue
    rw [post_of_running hrunning]
    refine hinStep.post request rfl ?_ ?_
    · rw [post_of_running hqueue]
    · rw [hended]
      exact VisibleWindows.seen_erase _ _
  · next hgoing =>
    rw [post_of_running hqueue]
    refine hinStep.post request rfl ?_ ?_
    · rw [post_of_running hqueue]
    · rw [Reason.seenAfter_eq_self hvisible hinvisible hgoing]

theorem fireTimer (hinStep : InStep service) (timer : Timer) :
    InStep (service.fireTimer timer) := by
  obtain ⟨queue, hqueue, hforeseen⟩ := hinStep.queued
  have hothers : InStep
      { service with updates := some { queue with timers := queue.timers.erase timer } } :=
    ⟨hinStep.consistent, _, rfl, hforeseen⟩
  rw [Service.fireTimer, hqueue]
  exact hothers.post (.single timer.target .abilityStartTimeout) rfl rfl rfl

/-- What the worker takes from the queue, the table sees from then on. -/
theorem updateStep (hinStep : InStep service)
    (hspared : ∀ request ∈ service.applied? setup .takeUpdate, service.table.Spares request) :
    InStep (service.updateStep setup) := by
  obtain ⟨⟨pending, timers⟩, hqueue, hforeseen⟩ := hinStep.queued
  cases pending with
  | nil =>
      -- Nothing waits, so the worker does nothing.
      rw [updateStep_eq, hqueue]
      exact hinStep
  | cons request later =>
      have happlied : service.applied? setup .takeUpdate = some (queuedEvent setup request) := by
        rw [applied?, nextUpdate?, hqueue]
        rfl
      have htable := (act_applies happlied).table_eq
      rw [act] at htable
      have hseen : (service.updateStep setup).table.seen =
          request.reason.seenAfter request.target.pid service.table.seen := by
        rw [htable]
        exact Table.seen_apply hinStep.consistent (hspared _ happlied)
      obtain ⟨⟨added, hupdates⟩, hwindows⟩ := updateStep_rest setup hqueue
      refine ⟨?_, _, hupdates, ?_⟩
      · rw [htable]
        exact (Table.consistent_partsKeep setup.rules).apply hinStep.consistent _
      · rw [hseen, hwindows, ← hforeseen]
        rfl

theorem refreshed (hinStep : InStep service) : InStep (service.refreshed setup) := by
  obtain ⟨queue, hqueue, hforeseen⟩ := hinStep.queued
  refine ⟨(Table.consistent_partsKeep setup.rules).expire hinStep.consistent, queue, hqueue, ?_⟩
  exact (congrArg (foreseen queue.pending) (Table.seen_expire service.table)).trans hforeseen

end InStep

/-- What the window manager, the feed of lifecycle events and the worker of updates do.  The
feed leaves it to the window manager to say which processes are visible. -/
def Action.feeds : Action → Bool
  | .notifyWindows _ _ | .takeUpdate | .fireTimer _ | .setUptime _ | .read => true
  | .notifyLifecycle request => request.reason ≠ .visible && request.reason ≠ .invisible
  | _ => false

theorem InStep.act (hinStep : InStep service) {action : Action} (hfeeds : action.feeds)
    (hspared : ∀ request ∈ service.applied? setup action, service.table.Spares request) :
    InStep (service.act setup action) := by
  cases action with
  | notifyWindows caller windows =>
      rw [Service.act, notifyWindows, reserve_eq]
      split
      · exact hinStep.reportWindows windows
      · exact hinStep
  | notifyLifecycle request =>
      rw [Action.feeds, Bool.and_eq_true, decide_eq_true_eq, decide_eq_true_eq] at hfeeds
      exact hinStep.notifyLifecycle hfeeds.1 hfeeds.2
  | takeUpdate => exact hinStep.updateStep hspared
  | fireTimer timer => exact hinStep.fireTimer timer
  | setUptime uptime => exact ⟨hinStep.consistent, hinStep.queued⟩
  | read => exact hinStep.refreshed
  | _ => cases hfeeds

/-- In a run no event takes the pid of a visible process for another identity. -/
def SparesVisible (setup : Setup σ) : List Action → Service σ → Prop
  | [], _ => True
  | action :: later, service =>
      (∀ request ∈ service.applied? setup action, service.table.Spares request) ∧
        SparesVisible setup later (service.act setup action)

instance decidableSparesVisible (setup : Setup σ) :
    (actions : List Action) → (service : Service σ) →
      Decidable (service.SparesVisible setup actions)
  | [], _ => inferInstanceAs (Decidable True)
  | action :: later, service =>
      have := decidableSparesVisible setup later (service.act setup action)
      inferInstanceAs (Decidable (_ ∧ _))

theorem run_inStep (hinStep : InStep service) {actions : List Action}
    (hfeeds : ∀ action ∈ actions, action.feeds) (hspared : service.SparesVisible setup actions) :
    InStep (service.run setup actions) := by
  induction actions generalizing service with
  | nil => exact hinStep
  | cons action later ih =>
      have hnext := hinStep.act (hfeeds action List.mem_cons_self) hspared.1
      exact ih hnext (fun other hmem => hfeeds other (List.mem_cons_of_mem _ hmem)) hspared.2

theorem started_inStep (host : σ) : InStep ((start host).startUpdates true).2 where
  consistent := Table.empty_consistent
  queued := ⟨⟨[], []⟩, rfl, rfl⟩

/-- While the worker of updates runs, and as long as no event takes the pid of a visible
process for another identity, the tracked processes that are visible are those with
visible windows, whenever the queue is empty. -/
theorem visible_iff_windows (setup : Setup σ) (host : σ) (actions : List Action)
    (hfeeds : ∀ action ∈ actions, action.feeds)
    (hspared : ((start host).startUpdates true).2.SparesVisible setup actions) :
    let service := ((start host).startUpdates true).2.run setup actions
    service.pendingUpdates = 0 → ∀ pid process, service.table.process? pid = some process →
      (process.isVisible ↔ (service.windows.ofPid pid).isEmpty = false) := by
  intro service hdrained pid process hprocess
  obtain ⟨⟨pending, timers⟩, hqueue, hforeseen⟩ :=
    run_inStep (started_inStep host) hfeeds hspared |>.queued
  have hnone : pending = [] := by
    rw [pendingUpdates, hqueue] at hdrained
    exact List.eq_nil_of_length_eq_zero hdrained
  subst hnone
  -- With nothing queued, what the service foresees is what the table sees.
  have hseen : service.table.seen pid = service.windows.seen pid := congrFun hforeseen pid
  rw [Table.seen, hprocess, VisibleWindows.seen] at hseen
  have hvisible : process.isVisible = !(service.windows.ofPid pid).isEmpty := hseen
  rw [hvisible, Bool.not_eq_true']

/-- Two windows of a camera and one of a gallery, which is closed again before the worker
gets to any of it. -/
theorem visible_iff_windows_camera :
    let setup : Setup Script := ⟨Script.host, .nameless, .default, "/proc"⟩
    let actions : List Action :=
      [.notifyWindows 5523 [⟨1, 100, 20010002, true⟩, ⟨2, 100, 20010002, true⟩,
          ⟨3, 200, 20010003, true⟩],
        .notifyLifecycle (.single ⟨100, 20010002, "camera"⟩ .foreground),
        .notifyWindows 5523 [⟨1, 100, 20010002, false⟩, ⟨3, 200, 20010003, false⟩],
        .takeUpdate, .takeUpdate, .takeUpdate, .takeUpdate]
    let service := ((start Script.start).startUpdates true).2.run setup actions
    (service.table.process? 100).isSome ∧ (service.table.process? 200).isSome ∧
      (∀ process, service.table.process? 100 = some process → process.isVisible) ∧
      ∀ process, service.table.process? 200 = some process → process.isVisible = false := by
  intro setup actions service
  have hagree := visible_iff_windows setup Script.start actions (by decide) (by decide) rfl
  refine ⟨by decide, by decide, ?_, ?_⟩
  · intro process hprocess
    exact (hagree 100 process hprocess).2 (by decide)
  · intro process hprocess
    rw [← Bool.not_eq_true, hagree 200 process hprocess]
    decide

/-- A process ends unnoticed while one of its windows is visible.  The one that starts under
its pid shows a window as well, and is never said to be visible. -/
theorem reused_pid_hides_windows :
    let setup : Setup Script := ⟨Script.host, .nameless, .default, "/proc"⟩
    let actions : List Action :=
      [.notifyWindows 5523 [⟨1, 100, 20010002, true⟩],
        .notifyLifecycle (.single ⟨100, 20010003, "gallery"⟩ .createProcess),
        .notifyWindows 5523 [⟨2, 100, 20010003, true⟩], .takeUpdate, .takeUpdate]
    let service := ((start Script.start).startUpdates true).2.run setup actions
    (∀ action ∈ actions, action.feeds) ∧ service.pendingUpdates = 0 ∧
      (service.table.process? 100).any (fun process => !process.isVisible) ∧
      (service.windows.ofPid 100).isEmpty = false := by
  decide

end Service

end MemoryReclaim
