import MemoryReclaim.Proofs.Service.WindowReports

/-!
# Windows along a run

The windows of a process change by reports and are cleared by its end, and by nothing else
that a service does.  So the trace of a run determines what is stored in the end, and shows
that the updates posted of one process say by turns that it is visible and that it is not.
-/

namespace MemoryReclaim.Service

open VisibleWindows

variable {σ : Type} {setup : Setup σ} {service : Service σ}

/-! ## What leaves the windows alone -/

theorem windows_post (request : UpdateRequest) :
    (service.post request).2.windows = service.windows := by
  rw [post]
  split <;> rfl

theorem windows_updateNow (request : UpdateRequest) :
    (service.updateNow setup request).2.windows = service.windows := by
  rw [updateNow_eq]
  split
  · exact (perform_rest _ _ _).2
  · rfl

theorem windows_updateStep : (service.updateStep setup).windows = service.windows := by
  rw [updateStep_eq]
  split
  · exact (perform_rest _ _ _).2
  · rfl

theorem windows_fireTimer (timer : Timer) :
    (service.fireTimer timer).windows = service.windows := by
  rw [fireTimer]
  split
  · rfl
  · exact windows_post _

theorem windows_measure : (service.measure setup).2.windows = service.windows := rfl

theorem windows_publishLevel (level : Nat) :
    (service.publishLevel level).windows = service.windows := rfl

theorem windows_pressure? (path : Path) (threshold : Float) :
    (service.pressure? setup path threshold).2.windows = service.windows := by
  rw [pressure?, readFile]
  cases setup.host.read path service.host with
  | mk content host => cases content <;> rfl

theorem windows_readPriority (pid : Pid) :
    (service.readPriority setup pid).2.windows = service.windows := by
  rw [readPriority, readFile]
  cases setup.host.read (ProcFile.path setup.procRoot pid "oom_score_adj") service.host with
  | mk content host =>
  cases content with
  | error fault => rfl
  | ok content =>
      dsimp only
      split <;> rfl

theorem windows_announceLevel (level : Nat) :
    (service.announceLevel level).windows = service.windows := by
  rw [announceLevel]
  split <;> rfl

theorem windows_killAll (processes : List ProcessRecord) :
    (service.killAll setup processes).2.windows = service.windows := by
  induction processes generalizing service with
  | nil => rfl
  | cons process later ih => exact ih

theorem windows_killOne (floor : Priority) :
    (service.killOne setup floor).2.windows = service.windows := by
  rw [killOne_eq]
  cases service.choice? setup floor with
  | none => rfl
  | some bundle => exact windows_killAll _

theorem windows_killPasses (target : KillTarget) (deficit : Kilobytes) (left kills : Nat)
    (freed : Kilobytes) (service : Service σ) :
    (service.killPasses setup target deficit left kills freed).2.windows = service.windows := by
  have hkill : ∀ service : Service σ,
      ((service.passStart setup).killOne setup target.floor).2.windows = service.windows := by
    intro service
    rw [windows_killOne]
    rfl
  have hend : ∀ service : Service σ,
      ((service.passStart setup).passEnd setup target.floor).windows = service.windows := by
    intro service
    rw [passEnd, windows_measure, hkill]
  have hlast : ∀ service : Service σ,
      (((service.passStart setup).passEnd setup target.floor).publishLevel 0).windows =
        service.windows := by
    intro service
    rw [windows_publishLevel, hend]
  apply killPasses_induction (motive := fun _ _ _ service result _ =>
    result.2.windows = service.windows)
  case cap => exact fun _ _ _ => rfl
  case covered => exact fun _ _ _ _ _ => rfl
  case nothing =>
    intro left kills freed service _ _
    rw [hkill]
  case lost => exact fun _ _ _ service _ _ _ _ _ => hlast service
  case recovered => exact fun _ _ _ service _ _ _ _ _ _ _ => hlast service
  case again => exact fun _ _ _ service _ _ _ _ _ _ _ _ _ ih => ih.trans (hend service)

theorem windows_killCycle : (service.killCycle setup).2.windows = service.windows := by
  have hmeasured : ({ service with cycles := service.cycles + 1 }.measure setup).2.windows =
      service.windows := rfl
  rw [killCycle]
  cases hmeasure : { service with cycles := service.cycles + 1 }.measure setup with
  | mk reading measured =>
  rw [hmeasure] at hmeasured
  cases reading with
  | none => exact hmeasured
  | some available =>
      dsimp only
      split
      · exact hmeasured
      · split
        · exact (windows_killPasses _ _ _ _ _ _).trans
            ((windows_announceLevel _).trans hmeasured)
        · exact hmeasured

/-- Whether an action reports windows or clears those of a process. -/
def Action.tellsWindows : Action → Bool
  | .notifyWindows _ _ => true
  | .notifyLifecycle request => request.reason = .processTerminated
  | _ => false

theorem windows_act {action : Action} (hother : action.tellsWindows = false) :
    (service.act setup action).windows = service.windows := by
  cases action with
  | update request => exact windows_updateNow request
  | perform request => exact (perform_rest setup request service).2
  | post request => exact windows_post request
  | notifyState caller info =>
      rw [act, notifyStateNow_eq]
      split
      · split
        · exact windows_updateNow _
        · rfl
      · rfl
  | postState caller info =>
      rw [act, notifyStateQueued, reserve_eq]
      split
      · rw [withRequest]
        split
        · exact windows_post _
        · rfl
      · rfl
  | notifyWindows caller windows => cases hother
  | notifyLifecycle request =>
      have hgoing : request.reason ≠ .processTerminated := of_decide_eq_false hother
      rw [act, notifyLifecycle, if_neg hgoing]
      exact windows_post request
  | notifyDevice pid uid name connected => exact windows_post _
  | startUpdates hasRuntime =>
      rw [act, startUpdates]
      split
      · rfl
      · split <;> rfl
  | takeUpdate => exact windows_updateStep
  | fireTimer timer => exact windows_fireTimer timer
  | startKiller hasRuntime =>
      rw [act, startKiller]
      split
      · rfl
      · split <;> rfl
  | signal =>
      rw [act, signalPressure]
      split <;> rfl
  | cycle => exact windows_killCycle
  | killOne floor => exact windows_killOne floor
  | checkPressure path threshold => exact windows_pressure? path threshold
  | readPriority caller pid =>
      rw [act, kernelPriority, reserve_eq]
      split
      · exact windows_readPriority pid
      · rfl
  | _ => rfl

/-! ## Traces -/

inductive WindowEvent (σ : Type)
  | reported (report : WindowReport σ)
  /-- The end of the process under `pid` was told. -/
  | cleared (pid : Pid)

/-- What an action does to the windows of processes. -/
def windowEvents (setup : Setup σ) (service : Service σ) : Action → List (WindowEvent σ)
  | .notifyWindows caller windows =>
      if caller = setup.config.windowManager then
        (service.windowReports windows).map .reported
      else []
  | .notifyLifecycle request =>
      if request.reason = .processTerminated then [.cleared request.target.pid] else []
  | _ => []

def windowTrace (setup : Setup σ) : List Action → Service σ → List (WindowEvent σ)
  | [], _ => []
  | action :: later, service =>
      service.windowEvents setup action ++ windowTrace setup later (service.act setup action)

def noteReport (pid : Pid) (reports : List (WindowReport σ)) :
    WindowEvent σ → List (WindowReport σ)
  | .reported report => if report.info.pid = pid then reports ++ [report] else reports
  | .cleared ended => if ended = pid then [] else reports

/-- The reports of the windows of a process since they were last cleared. -/
def reportsSince (pid : Pid) (trace : List (WindowEvent σ)) : List (WindowReport σ) :=
  trace.foldl (noteReport pid) []

/-- The windows that are visible after some reports, where none was before. -/
def shown (reports : List (WindowReport σ)) : OrdSet WindowId :=
  (reports.filter WindowReport.isCommitted).foldl
    (fun visible report => afterReport report.info visible) .empty

theorem reportsSince_append (pid : Pid) (trace : List (WindowEvent σ)) (event : WindowEvent σ) :
    reportsSince pid (trace ++ [event]) = noteReport pid (reportsSince pid trace) event := by
  rw [reportsSince, List.foldl_append]
  rfl

theorem shown_append (reports : List (WindowReport σ)) (report : WindowReport σ) :
    shown (reports ++ [report]) =
      if report.isCommitted then afterReport report.info (shown reports) else shown reports := by
  rw [shown, List.filter_append, List.foldl_append]
  cases hcommitted : report.isCommitted with
  | true =>
      rw [List.filter_cons_of_pos hcommitted]
      rfl
  | false =>
      rw [List.filter_cons_of_neg (by rw [hcommitted]; exact Bool.false_ne_true)]
      rfl

/-- What to say by turns of a process that is not visible at first. -/
def turns (count : Nat) : List Reason :=
  (List.range count).map fun index => if index % 2 = 0 then .visible else .invisible

/-- The reasons are turns, and the next one is up to whether the process is visible. -/
structure ByTurns (reasons : List Reason) (visible : Bool) : Prop where
  reasons_eq : reasons = turns reasons.length
  visible_iff : visible = true ↔ reasons.length % 2 = 1

theorem ByTurns.nil : ByTurns [] false := ⟨rfl, by decide⟩

/-- Every edge is the next turn. -/
theorem ByTurns.edge {reasons : List Reason} {before : Bool} (hreasons : ByTurns reasons before)
    (info : WindowInfo) (after : Bool) :
    ByTurns (reasons ++ (info.edge before after).map UpdateRequest.reason) after := by
  have hnext : ∀ reason, (reason = if reasons.length % 2 = 0 then .visible else .invisible) →
      reasons ++ [reason] = turns (reasons ++ [reason]).length := by
    rintro reason rfl
    rw [List.length_append, List.length_singleton, turns, List.range_succ, List.map_append, ← turns,
      ← hreasons.reasons_eq]
    rfl
  have hlast := hreasons.visible_iff
  cases before <;> cases after
  case false.false | true.true =>
    rw [info.edge_self, List.map_nil, List.append_nil]
    exact hreasons
  case false.true =>
    have heven : reasons.length % 2 = 0 := by simpa using hlast
    refine ⟨hnext .visible (if_pos heven).symm, ?_⟩
    rw [List.length_append]
    simp only [WindowInfo.edge, List.map_cons, List.map_nil, List.length_singleton, true_iff]
    omega
  case true.false =>
    have hodd : reasons.length % 2 = 1 := by simpa using hlast
    refine ⟨hnext .invisible (if_neg (by omega)).symm, ?_⟩
    rw [List.length_append]
    simp only [WindowInfo.edge, List.map_cons, List.map_nil, List.length_singleton,
      Bool.false_eq_true, false_iff]
    omega

/-- The trace tells what is stored for each process, and the updates that it shows for a
process say by turns whether it has visible windows. -/
structure Noted (trace : List (WindowEvent σ)) (service : Service σ) : Prop where
  stored : ∀ pid, service.windows.get? pid = entry? (shown (reportsSince pid trace))
  byTurns : ∀ pid, ByTurns
    (((reportsSince pid trace).flatMap WindowReport.posted).map UpdateRequest.reason)
    (service.windows.seen pid)

theorem start_noted (host : σ) : Noted [] (start host) where
  stored _ := rfl
  byTurns _ := .nil

namespace Noted

variable {trace : List (WindowEvent σ)}

theorem congr {after : Service σ} (hnoted : Noted trace service)
    (hwindows : after.windows = service.windows) : Noted trace after where
  stored pid := hwindows ▸ hnoted.stored pid
  byTurns pid := hwindows ▸ hnoted.byTurns pid

theorem report (report : WindowReport σ) (hnoted : Noted trace report.before) :
    Noted (trace ++ [.reported report]) report.after := by
  have hreport := report.edgeTriggered
  have hown : reportsSince report.info.pid (trace ++ [.reported report]) =
      reportsSince report.info.pid trace ++ [report] := by
    rw [reportsSince_append, noteReport, if_pos rfl]
  have hothers : ∀ pid, report.info.pid ≠ pid →
      reportsSince pid (trace ++ [.reported report]) = reportsSince pid trace ∧
        report.after.windows.get? pid = report.before.windows.get? pid := by
    intro pid hother
    rw [reportsSince_append, noteReport, if_neg hother]
    cases hcommitted : report.isCommitted with
    | true =>
        rw [hreport.committed hcommitted, WindowReport.noted, apply, get?_set, if_neg hother]
        exact ⟨rfl, rfl⟩
    | false =>
        rw [(hreport.refused hcommitted).2]
        exact ⟨rfl, rfl⟩
  constructor
  · intro pid
    by_cases hpid : report.info.pid = pid
    · subst hpid
      rw [hown, shown_append]
      cases hcommitted : report.isCommitted with
      | true =>
          rw [hreport.committed hcommitted, WindowReport.noted, apply, get?_set, if_pos rfl,
            if_pos rfl, ofPid_of_entry (hnoted.stored _)]
      | false =>
          rw [(hreport.refused hcommitted).2, if_neg Bool.false_ne_true]
          exact hnoted.stored _
    · rw [(hothers pid hpid).1, (hothers pid hpid).2]
      exact hnoted.stored pid
  · intro pid
    by_cases hpid : report.info.pid = pid
    · subst hpid
      rw [hown, List.flatMap_append, List.flatMap_singleton, List.map_append, hreport.posted_eq]
      exact (hnoted.byTurns _).edge report.info _
    · rw [(hothers pid hpid).1, seen, ofPid, (hothers pid hpid).2]
      exact hnoted.byTurns pid

theorem reports (windows : List WindowInfo) (hnoted : Noted trace service) :
    Noted (trace ++ (service.windowReports windows).map .reported)
      (service.reportWindows windows).2 := by
  induction windows generalizing trace service with
  | nil => rwa [windowReports, List.map_nil, List.append_nil]
  | cons info later ih =>
      have hnext := ih (report ⟨info, service⟩ hnoted)
      rwa [List.append_assoc] at hnext

/-- Nothing is stored of a process that has ended, and the turns begin anew. -/
theorem clear (hnoted : Noted trace service) (ended : Pid) :
    Noted (trace ++ [.cleared ended])
      { service with windows := service.windows.erase ended } := by
  have hget : ∀ pid, (service.windows.erase ended).get? pid =
      if ended = pid then none else service.windows.get? pid := fun pid => OrdMap.get?_erase ..
  constructor
  · intro pid
    rw [reportsSince_append, noteReport, hget]
    split
    · rfl
    · exact hnoted.stored pid
  · intro pid
    rw [reportsSince_append, noteReport, seen, ofPid, hget]
    split
    · exact (start_noted service.host).byTurns pid
    · exact hnoted.byTurns pid

theorem act (hnoted : Noted trace service) (action : Action) :
    Noted (trace ++ service.windowEvents setup action) (service.act setup action) := by
  cases htells : action.tellsWindows with
  | false =>
      have hnone : service.windowEvents setup action = [] := by
        cases action with
        | notifyWindows caller windows => cases htells
        | notifyLifecycle request =>
            have hgoing : request.reason ≠ .processTerminated := of_decide_eq_false htells
            rw [windowEvents, if_neg hgoing]
        | _ => rfl
      rw [hnone, List.append_nil]
      exact hnoted.congr (windows_act htells)
  | true =>
      cases action with
      | notifyWindows caller windows =>
          rw [windowEvents, Service.act, notifyWindows, reserve_eq]
          split
          · exact hnoted.reports windows
          · rwa [List.append_nil]
      | notifyLifecycle request =>
          have hended : request.reason = .processTerminated := of_decide_eq_true htells
          rw [windowEvents, Service.act, notifyLifecycle, if_pos hended, if_pos hended]
          exact (hnoted.clear request.target.pid).congr (windows_post request)
      | _ => cases htells

theorem run (hnoted : Noted trace service) (actions : List Action) :
    Noted (trace ++ service.windowTrace setup actions) (service.run setup actions) := by
  induction actions generalizing trace service with
  | nil => rwa [windowTrace, List.append_nil]
  | cons action later ih =>
      rw [windowTrace, ← List.append_assoc]
      exact ih (hnoted.act action)

end Noted

/-- Whatever a service goes through, it stores of each process the windows that the reports
since its last clearing have left visible, as far as they were noted, and no entry of a
process without any; and the updates that these reports have posted say by turns, visible
first, whether the process has visible windows.  A report is noted unless it calls for an
update and no worker runs to take it; then it fails and changes nothing.  One that is noted
posts exactly what it changes of whether its process has visible windows.  A batch gives the
first fault of its reports, all others take effect in order, and it can as well be reported
in two parts. -/
theorem windows_follow_reports (setup : Setup σ) (host : σ) (actions : List Action) :
    let service := (start host).run setup actions
    let trace := (start host).windowTrace setup actions
    (∀ pid,
      let reports := reportsSince pid trace
      let posts := reports.flatMap WindowReport.posted
      service.windows.get? pid =
        (if (shown reports).isEmpty then none else some (shown reports)) ∧
      posts.map UpdateRequest.reason = turns posts.length) ∧
    (∀ report : WindowReport σ, report.EdgeTriggered) ∧
    (∀ windows,
      let notified := service.notifyWindows setup setup.config.windowManager windows
      let reports := service.windowReports windows
      reports.map WindowReport.info = windows ∧
      (∀ report ∈ reports, report.before.updates.isSome = service.updates.isSome) ∧
      notified.1 = firstFailure reports ∧
      notified.2.windows = (reports.filter WindowReport.isCommitted).foldl
        (fun windows report => windows.apply report.info) service.windows ∧
      notified.2.queued = service.queued ++ reports.flatMap WindowReport.posted) ∧
    ∀ first second,
      let earlier := service.notifyWindows setup setup.config.windowManager first
      let later := earlier.2.notifyWindows setup setup.config.windowManager second
      service.notifyWindows setup setup.config.windowManager (first ++ second) =
        (firstFault earlier.1 later.1, later.2) := by
  intro service trace
  have hnoted : Noted trace service := (start_noted host).run actions
  have hnotify : ∀ windows (service : Service σ),
      service.notifyWindows setup setup.config.windowManager windows =
        service.reportWindows windows := by
    intro windows service
    rw [notifyWindows, reserve_eq, if_pos rfl]
  refine ⟨fun pid => ⟨hnoted.stored pid, ?_⟩, fun report => report.edgeTriggered,
    fun windows => ?_, fun first second => ?_⟩
  · have hturns := (hnoted.byTurns pid).reasons_eq
    rwa [List.length_map] at hturns
  · dsimp only
    rw [hnotify]
    exact ⟨windowReports_infos windows service, windowReports_updates,
      reportWindows_eq windows service, windows_reportWindows windows service,
      queued_reportWindows windows service⟩
  · dsimp only
    rw [hnotify, hnotify, hnotify]
    exact reportWindows_append first second service

/-- A batch about three processes arrives while the worker is down.  The two reports in it
that call for no update are noted, the other two fail, and are made again once the worker is
back.  Last, a process ends, and its successor shows a window. -/
theorem windows_follow_reports_restart :
    let setup : Setup Script := ⟨Script.host, .nameless, .default, "/proc"⟩
    let earlier : List Action :=
      [.startUpdates true,
        .notifyWindows 5523 [⟨1, 100, 20010002, true⟩, ⟨2, 200, 20010003, true⟩], .dropUpdates]
    let batch : List WindowInfo :=
      [⟨3, 100, 20010002, true⟩, ⟨4, 300, 20010004, true⟩, ⟨2, 200, 20010003, false⟩,
        ⟨1, 100, 20010002, false⟩]
    let later : List Action :=
      [.startUpdates true,
        .notifyWindows 5523 [⟨4, 300, 20010004, true⟩, ⟨2, 200, 20010003, false⟩],
        .notifyLifecycle (.single ⟨300, 20010004, "gallery"⟩ .processTerminated),
        .notifyWindows 5523 [⟨5, 300, 20010005, true⟩]]
    let actions := earlier ++ .notifyWindows 5523 batch :: later
    let down := (start Script.start).run setup earlier
    let notified := down.notifyWindows setup 5523 batch
    let service := (start Script.start).run setup actions
    let trace := (start Script.start).windowTrace setup actions
    let posts := fun pid => (reportsSince pid trace).flatMap WindowReport.posted
    (down.windowReports batch).map WindowReport.isCommitted = [true, false, false, true] ∧
      notified.1 = .error (.workerUnavailable .reclaimPriority) ∧
      (notified.2.windows.ofPid 100).keys = [3] ∧ (notified.2.windows.ofPid 200).keys = [2] ∧
      notified.2.windows.get? 300 = none ∧ notified.2.queued = [] ∧
      (service.windows.ofPid 100).keys = [3] ∧ service.windows.get? 200 = none ∧
      (service.windows.ofPid 300).keys = [5] ∧
      (posts 100).map UpdateRequest.reason = [.visible] ∧
      (posts 200).map UpdateRequest.reason = [.visible, .invisible] ∧
      (posts 300).map UpdateRequest.reason = [.visible] := by
  intro setup earlier batch later actions down notified service trace posts
  obtain ⟨-, hreports, hbatches, -⟩ := windows_follow_reports setup Script.start earlier
  obtain ⟨-, -, houtcome, hwindows, hqueued⟩ := hbatches batch
  obtain ⟨hpids, -⟩ := windows_follow_reports setup Script.start actions
  have hcommitted : (down.windowReports batch).map WindowReport.isCommitted =
      (down.windowReports batch).map fun report => decide report.CanPost :=
    List.map_congr_left fun report _ =>
      Bool.eq_iff_iff.2 ((hreports report).committed_iff.trans decide_eq_true_iff.symm)
  have hleft : notified.2.windows = _ := hwindows
  rw [hleft]
  refine ⟨hcommitted.trans (by decide), houtcome.trans (by decide), by decide, by decide,
    by decide, hqueued.trans (by decide), ?_, (hpids 200).1.trans (by decide), ?_,
    (hpids 100).2.trans (by decide), (hpids 200).2.trans (by decide),
    (hpids 300).2.trans (by decide)⟩
  · rw [ofPid, (hpids 100).1]
    decide
  · rw [ofPid, (hpids 300).1]
    decide

end MemoryReclaim.Service
