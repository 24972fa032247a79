import MemoryReclaim.Ordered.Map
import MemoryReclaim.Text.Path

/-!
# A tree of files

Directories and files under one root.  A path is walked piece by piece, and each piece
but the last must be a directory; a path that ends in a slash names a directory.  Names
have a greatest length and hold no NUL.  The content of a file that is not text cannot
be read, but it can be written over.
-/

namespace MemoryReclaim

inductive Node
  | directory
  /-- A file, without content when that is not text. -/
  | file (content : Option String)
  deriving DecidableEq

inductive FileFault
  | notFound
  | notDirectory
  | isDirectory
  | notText
  | invalidName
  deriving DecidableEq

def FileFault.reason : FileFault → String
  | .notFound => "not found"
  | .notDirectory => "a part of the path is not a directory"
  | .isDirectory => "is a directory"
  | .notText => "content is not text"
  | .invalidName => "a part of the path is no name"

abbrev Place := List (List Char)

structure FileTree where
  nodes : OrdMap String Node
  deriving DecidableEq

namespace FileTree

def empty : FileTree := ⟨.empty⟩

def placeName (place : Place) : String := String.ofList (['/'].intercalate place)

def node? (tree : FileTree) (place : Place) : Option Node :=
  if place.isEmpty then some .directory else tree.nodes.get? (placeName place)

/-- In bytes. -/
def longestName : Nat := 255

def isTooLong (piece : List Char) : Bool := longestName < (String.ofList piece).utf8ByteSize

/-- Where the pieces of a path lead from `place`; the last one need not exist. -/
def walk (tree : FileTree) (place : Place) : Place → Except FileFault Place
  | [] => .ok place
  | piece :: later =>
      match tree.node? place with
      | none => .error .notFound
      | some (.file _) => .error .notDirectory
      | some .directory =>
          if piece.isEmpty || piece = ['.'] then tree.walk place later
          else if piece = ['.', '.'] then tree.walk place.dropLast later
          else if isTooLong piece then .error .invalidName
          else tree.walk (place ++ [piece]) later

def locate (tree : FileTree) (path : List Char) : Except FileFault Place :=
  if path.contains '\x00' then .error .invalidName else tree.walk [] (Path.pieces path)

def read (tree : FileTree) (path : List Char) : Except FileFault String := do
  let place ← tree.locate path
  match tree.node? place with
  | none => .error .notFound
  | some .directory => .error .isDirectory
  | some (.file none) => .error .notText
  | some (.file (some content)) => .ok content

def put (tree : FileTree) (place : Place) (node : Node) : FileTree :=
  ⟨tree.nodes.insert (placeName place) node⟩

/-- Creates the file where it is missing, inside a directory that exists. -/
def write (tree : FileTree) (path : List Char) (content : String) (append : Bool) :
    Except FileFault FileTree := do
  let place ← tree.locate path
  match tree.node? place with
  | some .directory => .error .isDirectory
  | some (.file old) =>
      .ok (tree.put place (.file (if append then old.map (· ++ content) else some content)))
  | none => .ok (tree.put place (.file (some content)))

/-- Puts a node at a path of plain names and makes the directories on the way. -/
def install (tree : FileTree) (path : Path) (node : Node) : FileTree :=
  let place := path.components
  let parents := (List.range place.length).drop 1
  let withParents := parents.foldl (fun tree count => tree.put (place.take count) .directory) tree
  withParents.put place node

end FileTree

end MemoryReclaim
