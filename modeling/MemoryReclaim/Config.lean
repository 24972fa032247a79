import MemoryReclaim.KillLevels
import MemoryReclaim.ProcessRecord.Tier
import MemoryReclaim.Table
import MemoryReclaim.Text.Path

/-!
# Configuration

Everything an operator can set.  A value that is not set has the default given here.
-/

namespace MemoryReclaim

/-- Settings of the pressure monitor. -/
structure PressureSettings where
  enabled : Bool
  /-- Milliseconds between two readings. -/
  interval : Nat
  /-- The stall percentage above which there is pressure. -/
  threshold : Float

def PressureSettings.default : PressureSettings := ⟨true, 1000, 10.0⟩

structure Config where
  /-- An empty list stands for the default kill levels. -/
  killLevels : List KillLevel
  graceWindow : Seconds
  /-- The age below which a bundle is not killed. -/
  protection : Seconds
  maxKills : Nat
  floors : OrdMap String Priority
  windowManager : Uid
  foundation : Uid
  cameraService : Uid
  pressure : PressureSettings

namespace Config

def default : Config where
  killLevels := []
  graceWindow := ProcessRecord.defaultGraceWindow
  protection := 3
  maxKills := 3
  floors := .empty
  windowManager := 5523
  foundation := 5523
  cameraService := 1047
  pressure := .default

/-- Where the configuration is read from, unless the environment names another file. -/
def defaultPath : Path := "/etc/memmgr/memmgr_config.json"

def pathVariable : String := "MEMMGR_CONFIG"

def path (named : Option Path) : Path := named.getD defaultPath

def withKillLevels (killLevels : List KillLevel) (config : Config) : Config :=
  { config with killLevels }

def withFloor (name : String) (floor : Priority) (config : Config) : Config :=
  { config with floors := config.floors.insert name floor }

def withGraceWindow (graceWindow : Seconds) (config : Config) : Config :=
  { config with graceWindow }

def levels (config : Config) : KillLevels := .ofConfigured config.killLevels

def rules (config : Config) : Rules := ⟨config.graceWindow, config.floors⟩

/-- Agreement of two configurations, where thresholds agree as numbers. -/
def agrees (left right : Config) : Bool :=
  left.killLevels = right.killLevels && left.graceWindow = right.graceWindow &&
    left.protection = right.protection && left.maxKills = right.maxKills &&
    left.floors = right.floors && left.windowManager = right.windowManager &&
    left.foundation = right.foundation && left.cameraService = right.cameraService &&
    left.pressure.enabled = right.pressure.enabled &&
    left.pressure.interval = right.pressure.interval &&
    left.pressure.threshold == right.pressure.threshold

end Config

end MemoryReclaim
