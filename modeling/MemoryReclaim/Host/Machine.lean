import MemoryReclaim.Host
import MemoryReclaim.Host.FileTree
import MemoryReclaim.ProcFile

/-!
# A machine with a process file system

Memory is measured by the `meminfo` file, and the memory freed by a kill is the resident
set that the process had.  Process groups, which the kernel addresses by zero and
negative pids, are never killed.  A process is named by the first word of its command
line.
-/

namespace MemoryReclaim

structure Machine where
  /-- Where the process file system is mounted. -/
  root : Path
  tree : FileTree
  running : OrdSet Pid
  clock : Seconds
  deriving DecidableEq

namespace Machine

def withTree (root : Path) (tree : FileTree) : Machine := ⟨root, tree, .empty, 0⟩

/-- The part of a path below the root. -/
def inside? (machine : Machine) (path : Path) : Option (List Char) :=
  ProcFile.after? machine.root.toList path.toList

def readText (machine : Machine) (path : Path) : Except FileFault String :=
  match machine.inside? path with
  | some below => machine.tree.read below
  | none => .error .notFound

def readFile (machine : Machine) (path : Path) : Except Fault String :=
  match machine.readText path with
  | .ok content => .ok content
  | .error fault => .error (.unreadable path fault.reason)

def writeText (machine : Machine) (path : Path) (content : String) (mode : WriteMode) :
    Except FileFault Machine :=
  match machine.inside? path with
  | none => .error .notFound
  | some below =>
      (machine.tree.write below content (mode = .append)).map fun tree =>
        { machine with tree }

def writeFile (path : Path) (content : String) (mode : WriteMode) (machine : Machine) :
    Except Fault Unit × Machine :=
  match machine.writeText path content mode with
  | .ok written => (.ok (), written)
  | .error fault => (.error (.unreadable path fault.reason), machine)

def amount? (machine : Machine) (path : Path) (key : String) : Option Kilobytes :=
  match machine.readText path with
  | .ok content => ProcFile.amount? content key
  | .error _ => none

def memory? (machine : Machine) (key : String) : Option Kilobytes :=
  machine.amount? (machine.root.join "meminfo") key

def resident (machine : Machine) (pid : Pid) : Kilobytes :=
  (machine.amount? (ProcFile.path machine.root pid "status") "VmRSS").getD 0

def killProcess (pid : Pid) (machine : Machine) : Kilobytes × Machine :=
  if 0 < pid && machine.running.contains pid then
    (machine.resident pid, { machine with running := machine.running.erase pid })
  else (0, machine)

def host : Host Machine where
  available machine := (machine.memory? "MemAvailable", machine)
  total machine := (machine.memory? "MemTotal", machine)
  kill := killProcess
  read path machine := (machine.readFile path, machine)
  write := writeFile
  now machine := (machine.clock, machine)

/-- The text up to the first NUL, without blanks around it. -/
def firstArgument (commandLine : String) : String :=
  String.ofList (Text.trim (commandLine.toList.takeWhile fun c => c ≠ '\x00'))

def bundleName? (machine : Machine) (pid : Pid) (uid : Uid) : Option String :=
  if pid ≤ 0 || uid < 0 then none
  else
    match machine.readText (ProcFile.path machine.root pid "cmdline") with
    | .ok content => some (firstArgument content) |>.filter fun name => !name.isEmpty
    | .error _ => none

def directory (machine : Machine) : Directory := ⟨machine.bundleName?, Directory.accountOf⟩

end Machine

end MemoryReclaim
