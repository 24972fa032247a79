import MemoryReclaim.Host.Scripted
import MemoryReclaim.Proofs.Service.Applied

/-!
# Calls that fail

A notification is refused for its caller or its target, or fails because the worker of
updates is down.  The calls that notifications are made of are all or nothing: one that
fails has changed nothing, neither the service nor the host.  The one exception is the end
of a process, whose windows are forgotten before the event is posted.
-/

namespace MemoryReclaim.Service

variable {σ : Type} {setup : Setup σ}

/-- A call that fails leaves the service as it was. -/
def AllOrNothing (call : Service σ → Except Fault Unit × Service σ) : Prop :=
  ∀ {service fault}, (call service).1 = .error fault → (call service).2 = service

theorem post_allOrNothing (request : UpdateRequest) :
    AllOrNothing fun service : Service σ => service.post request := by
  intro service fault hfault
  simp only [post] at hfault ⊢
  split at hfault
  · rfl
  · cases hfault

theorem updateNow_allOrNothing (request : UpdateRequest) :
    AllOrNothing (updateNow setup request) := by
  intro service fault hfault
  rw [updateNow] at hfault ⊢
  split at hfault
  · rfl
  · cases hfault

namespace AllOrNothing

theorem reserve {call : Service σ → Except Fault Unit × Service σ} (hcall : AllOrNothing call)
    (caller expected : Uid) :
    AllOrNothing fun service => service.reserve caller expected call := by
  intro service fault hfault
  simp only [reserve_eq] at hfault ⊢
  split at hfault
  · next hcaller =>
    rw [if_pos hcaller]
    exact hcall hfault
  · next hcaller => rw [if_neg hcaller]

theorem withRequest {update : UpdateRequest → Service σ → Except Fault Unit × Service σ}
    (hupdate : ∀ request, AllOrNothing (update request)) (info : ProcessStateInfo) :
    AllOrNothing (Service.withRequest info update) := by
  intro service fault hfault
  rw [Service.withRequest] at hfault ⊢
  split at hfault
  · exact hupdate _ hfault
  · cases hfault

end AllOrNothing

/-- A window is noted only once its transition has been accepted. -/
theorem reportWindow_allOrNothing (info : WindowInfo) :
    AllOrNothing fun service : Service σ => service.reportWindow info := by
  intro service fault hfault
  simp only [reportWindow] at hfault ⊢
  split at hfault
  · cases hfault
  · next reason htransition =>
    split at hfault
    · cases hfault
    · next refused posted hposted =>
      have hfailed : (service.post (.single (.unnamed info.pid info.uid) reason)).1 =
          .error refused := congrArg Prod.fst hposted
      exact (congrArg Prod.snd hposted).symm.trans (post_allOrNothing _ hfailed)

theorem reportWindows_single (info : WindowInfo) (service : Service σ) :
    service.reportWindows [info] = service.reportWindow info := by
  rw [reportWindows]
  cases hreported : service.reportWindow info with
  | mk result after => cases result <;> rfl

/-! ## Notifications -/

/-- A call that tells the service of a change and may be refused or fail. -/
inductive Notification
  | lifecycle (request : UpdateRequest)
  | device (pid : Pid) (uid : Uid) (name : String) (connected : Bool)
  | stateNow (caller : Uid) (info : ProcessStateInfo)
  | stateQueued (caller : Uid) (info : ProcessStateInfo)
  | window (caller : Uid) (info : WindowInfo)

/-- The process that a notification says has ended. -/
def Notification.ended? : Notification → Option Pid
  | .lifecycle request =>
      if request.reason = .processTerminated then some request.target.pid else none
  | .device _ _ _ _ | .stateNow _ _ | .stateQueued _ _ | .window _ _ => none

def receive (setup : Setup σ) (service : Service σ) :
    Notification → Except Fault Unit × Service σ
  | .lifecycle request => service.notifyLifecycle request
  | .device pid uid name connected => service.notifyDevice pid uid name connected
  | .stateNow caller info => service.notifyStateNow setup caller info
  | .stateQueued caller info => service.notifyStateQueued setup caller info
  | .window caller info => service.notifyWindows setup caller [info]

theorem receive_allOrNothing {notification : Notification} (hgoing : notification.ended? = none) :
    AllOrNothing fun service => service.receive setup notification := by
  cases notification with
  | lifecycle request =>
      intro service fault hfault
      have hreason : request.reason ≠ .processTerminated := by
        intro hended
        rw [Notification.ended?, if_pos hended] at hgoing
        cases hgoing
      simp only [receive, notifyLifecycle, if_neg hreason] at hfault ⊢
      exact post_allOrNothing request hfault
  | device pid uid name connected => exact post_allOrNothing _
  | stateNow caller info =>
      exact AllOrNothing.reserve (AllOrNothing.withRequest updateNow_allOrNothing info) _ _
  | stateQueued caller info =>
      exact AllOrNothing.reserve (AllOrNothing.withRequest post_allOrNothing info) _ _
  | window caller info =>
      apply AllOrNothing.reserve
      intro service fault hfault
      simp only [reportWindows_single] at hfault ⊢
      exact reportWindow_allOrNothing info hfault

/-- The windows of a process that ended are forgotten before its end is posted. -/
theorem receive_ended_of_fault {notification : Notification} {service : Service σ} {pid : Pid}
    {fault : Fault} (hended : notification.ended? = some pid)
    (hfault : (service.receive setup notification).1 = .error fault) :
    (service.receive setup notification).2 =
      { service with windows := service.windows.erase pid } := by
  cases notification with
  | lifecycle request =>
      rw [Notification.ended?] at hended
      split at hended
      · next hreason =>
        rw [← Option.some.inj hended]
        simp only [receive, notifyLifecycle, if_pos hreason] at hfault ⊢
        exact post_allOrNothing request hfault
      · cases hended
  | device | stateNow | stateQueued | window => cases hended

/-- A notification that fails changes nothing, neither in the service nor on its host; only
the end of a process makes the service forget the windows of that process, if it had any. -/
theorem receive_fault_leaves_service (setup : Setup σ) (notification : Notification)
    (service : Service σ) (fault : Fault)
    (hfault : (service.receive setup notification).1 = .error fault) :
    (∀ pid, notification.ended? = some pid →
      (service.receive setup notification).2 =
        { service with windows := service.windows.erase pid }) ∧
    ((∀ pid, notification.ended? = some pid → service.windows.get? pid = none) →
      (service.receive setup notification).2 = service) := by
  refine ⟨fun pid hended => receive_ended_of_fault hended hfault, fun hwindowless => ?_⟩
  cases hended : notification.ended? with
  | none => exact receive_allOrNothing hended hfault
  | some pid =>
      rw [receive_ended_of_fault hended hfault, OrdMap.erase_of_absent (hwindowless pid hended)]

/-- While its worker is down the service refuses the first window of a process, and a
later report of the same window finds it as if nothing had been said before. -/
theorem receive_fault_leaves_service_window :
    let setup : Setup Script := ⟨Script.host, .nameless, .default, "/proc"⟩
    let actions : List Action :=
      [.startUpdates true, .notifyWindows 5523 [⟨1, 100, 20010002, true⟩], .takeUpdate,
        .dropUpdates]
    let service := (start Script.start).run setup actions
    let notification : Notification := .window 5523 ⟨2, 200, 20010003, true⟩
    (service.receive setup notification).1 = .error (.workerUnavailable .reclaimPriority) ∧
      (service.receive setup notification).2 = service := by
  intro setup actions service notification
  have hfault : (service.receive setup notification).1 =
      .error (.workerUnavailable .reclaimPriority) := by rfl
  have hleft := receive_fault_leaves_service setup notification service _ hfault
  exact ⟨hfault, hleft.2 fun pid hended => by cases hended⟩

/-- The end of a process with a visible window, reported while the worker is down, fails
and yet makes the service forget the window. -/
theorem receive_ended_forgets_windows :
    let setup : Setup Script := ⟨Script.host, .nameless, .default, "/proc"⟩
    let actions : List Action :=
      [.startUpdates true, .notifyWindows 5523 [⟨1, 100, 20010002, true⟩], .takeUpdate,
        .dropUpdates]
    let service := (start Script.start).run setup actions
    let notification : Notification :=
      .lifecycle (.single ⟨100, 20010002, "camera"⟩ .processTerminated)
    (service.receive setup notification).1 = .error (.workerUnavailable .reclaimPriority) ∧
      service.windows.contains 100 ∧
      (service.receive setup notification).2.windows.contains 100 = false := by
  intro setup actions service notification
  exact ⟨rfl, by decide, by decide⟩

end MemoryReclaim.Service
