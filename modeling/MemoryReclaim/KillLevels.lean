import MemoryReclaim.Identity
import MemoryReclaim.Priority

/-!
# Kill levels

A table of memory thresholds, each with the lowest priority that may be killed below
it.  Both columns increase strictly from one level to the next, so less available
memory never spares a bundle that more memory would not.
-/

namespace MemoryReclaim

structure KillLevel where
  /-- The level applies when less than this is available. -/
  buffer : Kilobytes
  /-- Bundles below this priority are spared. -/
  floor : Priority
  deriving DecidableEq

def KillLevel.below (level next : KillLevel) : Bool :=
  level.buffer < next.buffer && level.floor < next.floor

/-- What a reading of the available memory asks for. -/
structure KillTarget where
  minBuffer : Kilobytes
  floor : Priority
  targetBuffer : Kilobytes
  level : Nat
  deriving DecidableEq

/-- Why a list of levels is no table. -/
inductive LevelFault
  | empty
  | outOfRange (priority : Priority)
  | notIncreasing
  deriving DecidableEq

structure KillLevels where
  entries : List KillLevel
  deriving DecidableEq

namespace KillLevels

def increasing : List KillLevel → Bool
  | level :: next :: later => level.below next && increasing (next :: later)
  | _ => true

def ofEntries (entries : List KillLevel) : Except LevelFault KillLevels :=
  if entries.isEmpty then .error .empty
  else
    match entries.find? fun level => !level.floor.isValid with
    | some level => .error (.outOfRange level.floor)
    | none => if increasing entries then .ok ⟨entries⟩ else .error .notIncreasing

def default : KillLevels where
  entries := [⟨102400, 0⟩, ⟨204800, 100⟩, ⟨307200, 200⟩, ⟨409600, 300⟩, ⟨512000, 400⟩]

/-- The configured levels where they form a table, the default ones elsewhere. -/
def ofConfigured (entries : List KillLevel) : KillLevels :=
  match ofEntries entries with
  | .ok levels => levels
  | .error _ => default

/-- The highest threshold, which a kill cycle tries to get back to. -/
def maxBuffer (levels : KillLevels) : Kilobytes :=
  (levels.entries.getLast?.map KillLevel.buffer).getD 0

/-- The first level above a reading, with its number counted from `number`. -/
def firstAbove (available : Kilobytes) : Nat → List KillLevel → Option (Nat × KillLevel)
  | _, [] => none
  | number, level :: later =>
      if available < level.buffer then some (number, level)
      else firstAbove available (number + 1) later

/-- What to do about a reading; nothing when it is above every threshold. -/
def query (levels : KillLevels) (available : Kilobytes) : Option KillTarget :=
  (firstAbove available 1 levels.entries).map fun (number, level) =>
    { minBuffer := level.buffer
      floor := level.floor
      targetBuffer := levels.maxBuffer
      level := number }

end KillLevels

end MemoryReclaim
