import MemoryReclaim.ProcessRecord

/-!
# The tier of a process

The first state that holds, in order of importance, decides the tier; an important
process is then held at or below its floor.  The grace window after an ability start
ends by itself, so the tier depends on the time.
-/

namespace MemoryReclaim.ProcessRecord

/-- Grace after an ability start where none is configured. -/
def defaultGraceWindow : Seconds := 10

def stateTier (window now : Seconds) (process : ProcessRecord) : Priority :=
  if process.isForeground then .foreground
  else if process.isVisible || process.isRender then .visible
  else if process.bindStatus = .boundFromForeground then .boundFromForeground
  else if process.isBackgroundRunning || process.isEventStart then .perceived
  else if process.isAbilityStarting && !process.abilityStartExpired window now then
    .abilityStart
  else if process.isSuspendDelay then .suspendDelay
  else if process.isDistDevice then .connectedDevice
  else .background

def tier (window now : Seconds) (process : ProcessRecord) : Priority :=
  match process.floor with
  | some floor => min (process.stateTier window now) floor
  | none => process.stateTier window now

end MemoryReclaim.ProcessRecord
