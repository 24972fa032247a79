/-!
# File paths

A path is slash-separated text.  Joining puts one slash between its two parts unless
the first is empty or ends in one; a second part that starts with a slash replaces the
first.  Two spellings name the same place when their components agree: repeated and
trailing slashes and inner dots do not count.
-/

namespace MemoryReclaim

abbrev Path := String

namespace Path

def joinChars (base leaf : List Char) : List Char :=
  if leaf.head? = some '/' then leaf
  else if base.isEmpty || base.getLast? = some '/' then base ++ leaf
  else base ++ '/' :: leaf

def join (base leaf : Path) : Path := String.ofList (joinChars base.toList leaf.toList)

def isAbsolute (path : Path) : Bool := path.toList.head? = some '/'

/-- Pieces between slashes, empty ones included. -/
def pieces : List Char → List (List Char)
  | [] => [[]]
  | '/' :: rest => [] :: pieces rest
  | c :: rest =>
      match pieces rest with
      | [] => [[c]]
      | piece :: later => (c :: piece) :: later

def namedPieces (path : Path) : List (List Char) :=
  (pieces path.toList).filter fun piece => !piece.isEmpty

/-- Names on the way to a place; a leading dot of a relative path is kept. -/
def components (path : Path) : List (List Char) :=
  match namedPieces path with
  | [] => []
  | first :: later =>
      let named := later.filter fun piece => piece ≠ ['.']
      if first = ['.'] && path.isAbsolute then named else first :: named

/-- One spelling for every path with the same components. -/
def canonical (path : Path) : Path :=
  let body := (['/'].intercalate path.components)
  String.ofList (if path.isAbsolute then '/' :: body else body)

example : join "/proc/" "42" = "/proc/42" := by decide
example : join "7" "" = "7/" := by decide
example : canonical "/a//./b/" = "/a/b" := by decide

end Path

end MemoryReclaim
