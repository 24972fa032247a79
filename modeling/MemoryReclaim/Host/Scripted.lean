import MemoryReclaim.Host
import MemoryReclaim.Ordered.Map

/-!
# A scripted host

A host whose readings, freed amounts, files and clock are laid down in advance.  Queued
readings are used up in order and the last one then repeats; with `linked`, memory
freed by a kill adds to it.
-/

namespace MemoryReclaim

structure Script where
  queued : List (Option Kilobytes)
  reading : Option Kilobytes
  totalMemory : Option Kilobytes
  freed : OrdMap Pid Kilobytes
  linked : Bool
  files : OrdMap Path String
  failWrites : Bool
  clock : Seconds
  deriving DecidableEq

namespace Script

def start : Script where
  queued := []
  reading := none
  totalMemory := some 4194304
  freed := .empty
  linked := false
  files := .empty
  failWrites := false
  clock := 100

def takeReading (script : Script) : Option Kilobytes × Script :=
  match script.queued with
  | [] => (script.reading, script)
  | reading :: queued => (reading, { script with queued, reading })

theorem clock_takeReading (script : Script) : script.takeReading.2.clock = script.clock := by
  rw [takeReading]
  split <;> rfl

/-- Every later reading is this one until others are queued. -/
def setReading (reading : Option Kilobytes) (script : Script) : Script :=
  { script with queued := [], reading }

def freedBy (script : Script) (pid : Pid) : Kilobytes := (script.freed.get? pid).getD 0

def killProcess (pid : Pid) (script : Script) : Kilobytes × Script :=
  let freed := script.freedBy pid
  let reading := if script.linked then script.reading.map (· + freed) else script.reading
  (freed, { script with reading })

def putFile (path : Path) (content : String) (script : Script) : Script :=
  { script with files := script.files.insert path.canonical content }

def removeFile (path : Path) (script : Script) : Script :=
  { script with files := script.files.erase path.canonical }

def readFile (script : Script) (path : Path) : Except Fault String :=
  match script.files.get? path.canonical with
  | some content => .ok content
  | none => .error (.unreadable path "not found")

/-- Writes leave no trace in the script. -/
def host : Host Script where
  available := takeReading
  total script := (script.totalMemory, script)
  kill := killProcess
  read path script := (script.readFile path, script)
  write path _ _ script :=
    (if script.failWrites then .error (.unreadable path "writes fail") else .ok (), script)
  now script := (script.clock, script)

end Script

end MemoryReclaim
