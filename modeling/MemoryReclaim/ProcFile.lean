import MemoryReclaim.Decimal.Nearest
import MemoryReclaim.Identity
import MemoryReclaim.Priority
import MemoryReclaim.Text.Blank
import MemoryReclaim.Text.Lines
import MemoryReclaim.Text.Numeral
import MemoryReclaim.Text.Path

/-!
# Files of the process file system

How the kernel's text files are found and read: amounts of memory under a key, the
share of time that some task was stalled, and files that hold one priority.
-/

namespace MemoryReclaim.ProcFile

open MemoryReclaim.Text

/-- The file `leaf` of a process below `root`. -/
def path (root : Path) (pid : Pid) (leaf : String) : Path :=
  (root.join (intText pid)).join leaf

/-- The key that a word names: all of it but the colon it must end in. -/
def keyOf? (word : List Char) : Option (List Char) :=
  if word.getLast? = some ':' then some word.dropLast else none

def amountInLine? (key : List Char) (line : List Char) : Option Kilobytes :=
  match words line with
  | name :: amount :: _ => if keyOf? name = some key then readUInt64? amount else none
  | _ => none

/-- The amount in the first line that starts with the key, a colon and a number. -/
def amount? (content key : String) : Option Kilobytes :=
  (lines content.toList).findSome? (amountInLine? key.toList)

/-- What follows `start` in a text that begins with it. -/
def after? (start text : List Char) : Option (List Char) :=
  if start.isPrefixOf text then some (text.drop start.length) else none

/-- The ten-second average of the first line about some stalled task. -/
def someAverage? (content : String) : Option Float := do
  let line ← (lines content.toList).find? fun line => "some".toList.isPrefixOf line
  let value ← (words line).findSome? (after? "avg10=".toList)
  Decimal.readFloat? value

/-- The number that a file holds alone, blanks around it apart. -/
def priority? (content : String) : Option Priority := readInt32? (trim content.toList)

example : amount? "MemTotal: lots kB\nMemTotal:\t7 kB" "MemTotal" = some 7 := by decide
example : priority? " -1000\n" = some (-1000) := by decide

end MemoryReclaim.ProcFile
