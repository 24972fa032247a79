import MemoryReclaim.Service.Update

/-!
# Diagnostic dumps

Arguments are grouped under the options among them, and the options present select the
sections of the dump, which come in a fixed order.
-/

namespace MemoryReclaim

namespace Dump

open MemoryReclaim.Text

abbrev Options := OrdMap String (List String)

/-- An option and the values after it. -/
structure Group where
  option : String
  values : List String
  deriving DecidableEq

def isOption (argument : String) : Bool := argument.toList.head? = some '-'

/-- Groups `arguments`, where `values` belong to the option seen last. -/
def groupsAfter (option : String) : (values arguments : List String) → List Group
  | values, [] => [⟨option, values⟩]
  | values, argument :: later =>
      if argument.isEmpty then groupsAfter option values later
      else if isOption argument then ⟨option, values⟩ :: groupsAfter argument [] later
      else groupsAfter option (values ++ [argument]) later

/-- Groups `arguments`, of which the first takes the `values` before it too. -/
def groupsFrom : (values arguments : List String) → List Group
  | _, [] => []
  | values, argument :: later =>
      if argument.isEmpty then groupsFrom values later
      else if isOption argument then groupsAfter argument values later
      else groupsFrom (values ++ [argument]) later

def groups (arguments : List String) : List Group := groupsFrom [] arguments

/-- The values of each option; an option given again starts anew. -/
def options (arguments : List String) : Options :=
  .ofList ((groups arguments).map fun group => (group.option, group.values))

def help : String :=
  "usage: memmgr dump <option>\n" ++
  "  -h  show this help\n" ++
  "  -a  all bundles with their priorities\n" ++
  "  -l  current kill level and cycle count\n" ++
  "  -c  active kill level table\n"

/-- Text filled up with spaces on the right. -/
def column (width : Nat) (text : String) : String :=
  text ++ String.ofList (List.replicate (width - text.length) ' ')

def stateTitle : BundleState → String
  | .active => "Active"
  | .waitingForKill => "WaitingForKill"

def processLine (process : ProcessRecord) : String :=
  "    pid=" ++ column 8 (intText process.pid) ++
    " priority=" ++ intText process.priority ++ "\n"

def bundleLine (bundle : Bundle) : String :=
  "  uid=" ++ column 10 (intText bundle.uid) ++
    " account=" ++ column 4 (intText bundle.account) ++
    " priority=" ++ column 5 (intText bundle.priority) ++
    " state=" ++ stateTitle bundle.state ++ " name=" ++ bundle.name ++ "\n"

def bundleText (bundle : Bundle) : String :=
  bundleLine bundle ++ String.join (bundle.procs.values.map processLine)

def bundlesText (bundles : List Bundle) : String :=
  "bundles: " ++ natText bundles.length ++ "\n" ++ String.join (bundles.map bundleText)

def levelText (killLevel cycles : Nat) : String :=
  "kill level: " ++ natText killLevel ++ "\n" ++
    "pressure cycles: " ++ natText cycles ++ "\n"

def levelLine (number : Nat) (level : KillLevel) : String :=
  "  level " ++ natText number ++ ": buffer < " ++ natText level.buffer ++
    " KB -> min priority " ++ intText level.floor ++ "\n"

def levelLines : Nat → List KillLevel → String
  | _, [] => ""
  | number, level :: later => levelLine number level ++ levelLines (number + 1) later

def levelsText (levels : KillLevels) : String :=
  "kill levels:\n" ++ levelLines 1 levels.entries

end Dump

namespace Service

variable {σ : Type}

def dumpSections (setup : Setup σ) (options : Dump.Options) (service : Service σ) :
    String × Service σ :=
  let (bundles, service) :=
    if options.contains "-a" then
      let (bundles, service) := service.bundles setup
      (Dump.bundlesText bundles, service)
    else ("", service)
  let level :=
    if options.contains "-l" then Dump.levelText service.killLevel service.cycles else ""
  let levels := if options.contains "-c" then Dump.levelsText setup.levels else ""
  (bundles ++ level ++ levels, service)

/-- The dump that the arguments ask for, or help where they ask for none. -/
def dump (setup : Setup σ) (arguments : List String) (service : Service σ) :
    String × Service σ :=
  let options := Dump.options arguments
  let known := options.contains "-a" || options.contains "-l" || options.contains "-c"
  if known && !options.contains "-h" then service.dumpSections setup options
  else (Dump.help, service)

end Service

end MemoryReclaim
