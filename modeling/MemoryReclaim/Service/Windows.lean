import MemoryReclaim.Service.Worker

/-!
# Visible windows

A process is visible while any of its windows is.  The window manager reports single
windows; an update is posted only when the first window of a process appears or its last
one disappears, and the window is noted only once that update has been accepted.
-/

namespace MemoryReclaim

structure WindowInfo where
  window : WindowId
  pid : Pid
  uid : Uid
  isVisible : Bool
  deriving DecidableEq

namespace VisibleWindows

def ofPid (windows : VisibleWindows) (pid : Pid) : OrdSet WindowId :=
  (windows.get? pid).getD .empty

/-- A process without visible windows has no entry. -/
def set (windows : VisibleWindows) (pid : Pid) (visible : OrdSet WindowId) : VisibleWindows :=
  if visible.isEmpty then windows.erase pid else windows.insert pid visible

/-- The windows of a process after one of them was reported. -/
def afterReport (info : WindowInfo) (visible : OrdSet WindowId) : OrdSet WindowId :=
  if info.isVisible then visible.insert info.window () else visible.erase info.window

def apply (info : WindowInfo) (windows : VisibleWindows) : VisibleWindows :=
  windows.set info.pid (afterReport info (windows.ofPid info.pid))

/-- Whether a process has visible windows once one of them was reported. -/
def visibleAfter (info : WindowInfo) (visible : OrdSet WindowId) : Bool :=
  info.isVisible || visible.keys.any fun window => window ≠ info.window

/-- The reason to post when the visibility of the whole process changes; the windows are
not changed before it was posted. -/
def transition? (info : WindowInfo) (windows : VisibleWindows) : Option Reason :=
  let before := windows.ofPid info.pid
  match !before.isEmpty, visibleAfter info before with
  | false, true => some .visible
  | true, false => some .invisible
  | _, _ => none

end VisibleWindows

namespace Service

variable {σ : Type}

def reportWindow (info : WindowInfo) (service : Service σ) : Except Fault Unit × Service σ :=
  let committed (service : Service σ) : Service σ :=
    { service with windows := service.windows.apply info }
  match service.windows.transition? info with
  | none => (.ok (), committed service)
  | some reason =>
      match service.post (.single (.unnamed info.pid info.uid) reason) with
      | (.ok (), service) => (.ok (), committed service)
      | (.error fault, service) => (.error fault, service)

/-- The fault that was reported first, if any was. -/
def firstFault (earlier later : Except Fault Unit) : Except Fault Unit :=
  match earlier with
  | .ok () => later
  | .error fault => .error fault

/-- Reports every window in order; the result is the first fault. -/
def reportWindows : List WindowInfo → Service σ → Except Fault Unit × Service σ
  | [], service => (.ok (), service)
  | info :: later, service =>
      let (result, service) := service.reportWindow info
      let (resultLater, service) := reportWindows later service
      (firstFault result resultLater, service)

end Service

end MemoryReclaim
