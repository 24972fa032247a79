import MemoryReclaim.Proofs.Service.Faults
import MemoryReclaim.Proofs.Service.Visibility

/-!
# Reports of windows

The window manager reports single windows, and the end of a process clears what was
reported of it.  A trace lists both as they occur in a run.  What the service stores of a
process is what the reports since its last clearing amount to, and what it posts are the
edges between having visible windows and having none.
-/

namespace MemoryReclaim

theorem OrdMap.eq_empty_of_isEmpty {κ ν : Type} [Ord κ] [Std.LawfulEqOrd κ] [Std.TransOrd κ]
    [DecidableEq κ] {map : OrdMap κ ν} (hempty : map.isEmpty) : map = .empty :=
  ext_get? fun key => (isEmpty_eq_true_iff.1 hempty key).trans (get?_empty key).symm

namespace VisibleWindows

/-- What is stored for a process, of which no entry without windows is. -/
def entry? (visible : OrdSet WindowId) : Option (OrdSet WindowId) :=
  if visible.isEmpty then none else some visible

theorem get?_set (windows : VisibleWindows) (pid : Pid) (visible : OrdSet WindowId) (other : Pid) :
    (windows.set pid visible).get? other =
      if pid = other then entry? visible else windows.get? other := by
  rw [set, entry?]
  cases visible.isEmpty with
  | true => rw [if_pos rfl, if_pos rfl, OrdMap.get?_erase]
  | false =>
      rw [if_neg Bool.false_ne_true, if_neg Bool.false_ne_true, OrdMap.get?_insert]

theorem ofPid_of_entry {windows : VisibleWindows} {pid : Pid} {visible : OrdSet WindowId}
    (hstored : windows.get? pid = entry? visible) : windows.ofPid pid = visible := by
  rw [ofPid, hstored, entry?]
  split
  · next hempty => exact (OrdMap.eq_empty_of_isEmpty hempty).symm
  · rfl

end VisibleWindows

/-- What is to be posted when a process comes to have visible windows, or to have none. -/
def WindowInfo.edge (info : WindowInfo) (before after : Bool) : List UpdateRequest :=
  match before, after with
  | false, true => [.single (.unnamed info.pid info.uid) .visible]
  | true, false => [.single (.unnamed info.pid info.uid) .invisible]
  | _, _ => []

theorem WindowInfo.edge_self (info : WindowInfo) (visible : Bool) :
    info.edge visible visible = [] := by
  cases visible <;> rfl

theorem VisibleWindows.transition?_eq (windows : VisibleWindows) (info : WindowInfo) :
    (windows.transition? info).toList.map (.single (.unnamed info.pid info.uid)) =
      info.edge (windows.seen info.pid) ((windows.apply info).seen info.pid) := by
  have hbefore : windows.seen info.pid = !(windows.ofPid info.pid).isEmpty := rfl
  rw [apply, seen_set, if_pos rfl, ← visibleAfter_eq, hbefore, transition?]
  cases (windows.ofPid info.pid).isEmpty <;>
    cases visibleAfter info (windows.ofPid info.pid) <;> rfl

namespace Service

open VisibleWindows

variable {σ : Type} {setup : Setup σ} {service : Service σ}

/-- The updates that wait to be applied. -/
def queued (service : Service σ) : List UpdateRequest :=
  (service.updates.map UpdateQueue.pending).getD []

/-- One report of a window, with the service as it finds it. -/
structure WindowReport (σ : Type) where
  info : WindowInfo
  before : Service σ

namespace WindowReport

variable (report : WindowReport σ)

def outcome : Except Fault Unit := (report.before.reportWindow report.info).1

def after : Service σ := (report.before.reportWindow report.info).2

/-- Whether the window was noted; one whose update could not be posted is not. -/
def isCommitted : Bool := report.outcome.isOk

/-- What the report added to the queue. -/
def posted : List UpdateRequest := report.after.queued.drop report.before.queued.length

/-- What noting the window has to post. -/
def due : List UpdateRequest :=
  report.info.edge (report.before.windows.seen report.info.pid)
    ((report.before.windows.apply report.info).seen report.info.pid)

/-- Whether there is nothing to post, or the worker that would take it runs. -/
def CanPost : Prop := report.due = [] ∨ report.before.updates.isSome

instance : Decidable report.CanPost := inferInstanceAs (Decidable (_ ∨ _))

/-- The service with the window noted and what that has to post queued. -/
def noted : Service σ :=
  { report.before with
    windows := report.before.windows.apply report.info
    updates := report.before.updates.map fun queue =>
      { queue with pending := queue.pending ++ report.due } }

/-- A window is noted exactly when what that has to post can be posted, and nothing else
is changed by it; and what a report posts is told by whether its process has visible
windows before and after. -/
structure EdgeTriggered : Prop where
  committed_iff : report.isCommitted = true ↔ report.CanPost
  committed : report.isCommitted → report.after = report.noted
  refused : report.isCommitted = false →
    report.outcome = .error (.workerUnavailable .reclaimPriority) ∧ report.after = report.before
  queued_eq : report.after.queued = report.before.queued ++ report.posted
  posted_eq : report.posted = report.info.edge (report.before.windows.seen report.info.pid)
    (report.after.windows.seen report.info.pid)

theorem reportWindow_eq :
    report.before.reportWindow report.info =
      if report.CanPost then (.ok (), report.noted)
      else (.error (.workerUnavailable .reclaimPriority), report.before) := by
  have hdue : report.due = (report.before.windows.transition? report.info).toList.map
      (.single (.unnamed report.info.pid report.info.uid)) :=
    (transition?_eq report.before.windows report.info).symm
  cases htransition : report.before.windows.transition? report.info with
  | none =>
      have hnothing : report.due = [] := by rw [hdue, htransition]; rfl
      have hsame : (report.before.updates.map fun queue =>
          { queue with pending := queue.pending ++ [] }) = report.before.updates := by
        simp only [List.append_nil, Option.map_id']
      rw [if_pos (.inl hnothing), reportWindow, htransition, noted, hnothing, hsame]
  | some reason =>
      rw [htransition] at hdue
      cases hupdates : report.before.updates with
      | none =>
          have hdown : ¬report.CanPost := by simp [CanPost, hdue, hupdates]
          rw [if_neg hdown, reportWindow, htransition]
          dsimp only
          rw [post, hupdates]
      | some queue =>
          have hrunning : report.CanPost := .inr (by rw [hupdates]; rfl)
          rw [if_pos hrunning, reportWindow, htransition, noted, hdue, hupdates]
          dsimp only
          rw [post_of_running hupdates]
          rfl

theorem queued_noted (hpost : report.CanPost) :
    report.noted.queued = report.before.queued ++ report.due := by
  rw [queued, queued, noted]
  cases hupdates : report.before.updates with
  | some queue => rfl
  | none =>
      have hnothing : report.due = [] := by
        rcases hpost with hnothing | hrunning
        · exact hnothing
        · rw [hupdates] at hrunning
          cases hrunning
      rw [hnothing]
      rfl

theorem isCommitted_iff : report.isCommitted = true ↔ report.CanPost := by
  rw [isCommitted, outcome, reportWindow_eq]
  split
  · next hpost => exact iff_of_true rfl hpost
  · next hdown => exact iff_of_false Bool.false_ne_true hdown

theorem after_of_canPost (hpost : report.CanPost) : report.after = report.noted := by
  rw [after, reportWindow_eq, if_pos hpost]

theorem refused_of_not_canPost (hdown : ¬report.CanPost) :
    report.outcome = .error (.workerUnavailable .reclaimPriority) ∧
      report.after = report.before := by
  rw [outcome, after, reportWindow_eq, if_neg hdown]
  exact ⟨rfl, rfl⟩

theorem edgeTriggered : report.EdgeTriggered where
  committed_iff := report.isCommitted_iff
  committed hcommitted := report.after_of_canPost (report.isCommitted_iff.1 hcommitted)
  refused hrefused := report.refused_of_not_canPost fun hpost =>
    Bool.eq_false_iff.1 hrefused (report.isCommitted_iff.2 hpost)
  queued_eq := by
    by_cases hpost : report.CanPost
    · rw [posted, report.after_of_canPost hpost, report.queued_noted hpost, List.drop_left]
    · rw [posted, (report.refused_of_not_canPost hpost).2, List.drop_length, List.append_nil]
  posted_eq := by
    by_cases hpost : report.CanPost
    · rw [posted, report.after_of_canPost hpost, report.queued_noted hpost, List.drop_left]
      rfl
    · rw [posted, (report.refused_of_not_canPost hpost).2, List.drop_length,
        WindowInfo.edge_self]

/-- Whether its update can be posted or not, a report leaves the worker as it was. -/
theorem updates_after : report.after.updates.isSome = report.before.updates.isSome := by
  rw [after, reportWindow_eq]
  split
  · exact Option.isSome_map
  · rfl

end WindowReport

/-! ## Batches -/

/-- The reports of a batch, each after those before it. -/
def windowReports : List WindowInfo → Service σ → List (WindowReport σ)
  | [], _ => []
  | info :: later, service =>
      ⟨info, service⟩ :: windowReports later (service.reportWindow info).2

/-- The first fault among the outcomes of reports. -/
def firstFailure (reports : List (WindowReport σ)) : Except Fault Unit :=
  ((reports.map WindowReport.outcome).find? fun outcome => !outcome.isOk).getD (.ok ())

theorem reportWindows_eq (windows : List WindowInfo) (service : Service σ) :
    (service.reportWindows windows).1 = firstFailure (service.windowReports windows) := by
  induction windows generalizing service with
  | nil => rfl
  | cons info later ih =>
      rw [reportWindows, windowReports, firstFailure, List.map_cons, WindowReport.outcome]
      cases service.reportWindow info with
      | mk outcome after =>
      cases outcome with
      | ok => exact ih after
      | error fault => rfl

theorem windowReports_infos (windows : List WindowInfo) (service : Service σ) :
    (service.windowReports windows).map WindowReport.info = windows := by
  induction windows generalizing service with
  | nil => rfl
  | cons info later ih => rw [windowReports, List.map_cons, ih]

/-- The worker runs for all reports of a batch or for none. -/
theorem windowReports_updates {windows : List WindowInfo} {service : Service σ} :
    ∀ report ∈ service.windowReports windows,
      report.before.updates.isSome = service.updates.isSome := by
  induction windows generalizing service with
  | nil => exact fun report hmem => absurd hmem List.not_mem_nil
  | cons info later ih =>
      rw [windowReports, List.forall_mem_cons]
      refine ⟨rfl, fun report hmem => ?_⟩
      exact (ih report hmem).trans (WindowReport.mk info service).updates_after

/-- What a batch leaves is what the reports that were noted make of it, in order. -/
theorem windows_reportWindows (windows : List WindowInfo) (service : Service σ) :
    (service.reportWindows windows).2.windows =
      ((service.windowReports windows).filter WindowReport.isCommitted).foldl
        (fun windows report => windows.apply report.info) service.windows := by
  induction windows generalizing service with
  | nil => rfl
  | cons info later ih =>
      have hreport := (WindowReport.mk info service).edgeTriggered
      have hlater : (service.reportWindows (info :: later)).2.windows = _ :=
        ih (service.reportWindow info).2
      rw [hlater, windowReports]
      cases hcommitted : (WindowReport.mk info service).isCommitted with
      | true =>
          have hnoted : (service.reportWindow info).2.windows = service.windows.apply info :=
            congrArg Service.windows (hreport.committed hcommitted)
          rw [hnoted, List.filter_cons_of_pos hcommitted]
          rfl
      | false =>
          have hsame : (service.reportWindow info).2 = service :=
            (hreport.refused hcommitted).2
          have hrefused : ¬(WindowReport.mk info service).isCommitted := by
            rw [hcommitted]
            exact Bool.false_ne_true
          rw [hsame, List.filter_cons_of_neg hrefused]

theorem queued_reportWindows (windows : List WindowInfo) (service : Service σ) :
    (service.reportWindows windows).2.queued =
      service.queued ++ (service.windowReports windows).flatMap WindowReport.posted := by
  induction windows generalizing service with
  | nil => exact (List.append_nil _).symm
  | cons info later ih =>
      let report : WindowReport σ := ⟨info, service⟩
      have hlater : (service.reportWindows (info :: later)).2.queued = _ := ih report.after
      rw [hlater, report.edgeTriggered.queued_eq, List.append_assoc]
      rfl

theorem firstFault_assoc (one two three : Except Fault Unit) :
    firstFault (firstFault one two) three = firstFault one (firstFault two three) := by
  cases one <;> rfl

/-- A batch can be reported in two parts. -/
theorem reportWindows_append (first second : List WindowInfo) (service : Service σ) :
    service.reportWindows (first ++ second) =
      (firstFault (service.reportWindows first).1
          ((service.reportWindows first).2.reportWindows second).1,
        ((service.reportWindows first).2.reportWindows second).2) := by
  induction first generalizing service with
  | nil => rfl
  | cons info later ih =>
      rw [List.cons_append, reportWindows, reportWindows]
      simp only [ih, firstFault_assoc]

end Service

end MemoryReclaim
