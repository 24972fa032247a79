import MemoryReclaim.Decimal.Scaled
import MemoryReclaim.Text.Numeral

/-!
# Parsed documents

A tree keeps what a document says before it is known which parts are wanted: numerals
keep their digits, text keeps its escaped code units, objects keep order and repeated
keys.  `Tree.text?` and the numeral readers then check exactly the parts that are read,
so a skipped value may hold a numeral of any size or an unpaired surrogate.
-/

namespace MemoryReclaim.Json

open MemoryReclaim.Text

/-- A character as it stands, or a code unit written with four hexadecimal digits. -/
inductive Piece
  | char (c : Char)
  | unit (code : Nat)
  deriving DecidableEq

structure Numeral where
  negative : Bool
  digits : Decimal.Digits
  deriving DecidableEq

inductive Tree
  | null
  | bool (value : Bool)
  | number (numeral : Numeral)
  | text (pieces : List Piece)
  | array (items : List Tree)
  | object (members : List (List Piece × Tree))

def isLeading (code : Nat) : Bool := 0xd800 ≤ code && code < 0xdc00

def isTrailing (code : Nat) : Bool := 0xdc00 ≤ code && code < 0xe000

/-- The character of a surrogate pair. -/
def combine (leading trailing : Nat) : Char :=
  Char.ofNat (0x10000 + (leading - 0xd800) * 0x400 + (trailing - 0xdc00))

/-- Characters of a text; surrogate code units must come in pairs. -/
def resolve : List Piece → Option (List Char)
  | [] => some []
  | .char c :: rest => (resolve rest).map (c :: ·)
  | .unit leading :: .unit trailing :: rest =>
      if isLeading leading then
        if isTrailing trailing then (resolve rest).map (combine leading trailing :: ·) else none
      else if isTrailing leading then none
      else (resolve (.unit trailing :: rest)).map (Char.ofNat leading :: ·)
  | .unit code :: rest =>
      if isLeading code || isTrailing code then none
      else (resolve rest).map (Char.ofNat code :: ·)

/-- The value of a numeral without point and exponent; minus zero has none. -/
def Numeral.int? (numeral : Numeral) : Option Int :=
  if numeral.digits.fraction.isEmpty && numeral.digits.exponent.isEmpty then
    let magnitude := ofDigits numeral.digits.whole
    if numeral.negative then
      if magnitude = 0 then none else some (-Int.ofNat magnitude)
    else some (Int.ofNat magnitude)
  else none

def Numeral.float? (numeral : Numeral) : Option Float :=
  numeral.digits.toFloat?.map fun value => if numeral.negative then -value else value

def Numeral.ofInt (value : Int) : Numeral :=
  ⟨value < 0, ⟨Text.digits value.natAbs, [], false, []⟩⟩

namespace Tree

def text? : Tree → Option String
  | .text pieces => (resolve pieces).map String.ofList
  | _ => none

def bool? : Tree → Option Bool
  | .bool value => some value
  | _ => none

def int? : Tree → Option Int
  | .number numeral => numeral.int?
  | _ => none

def int32? (tree : Tree) : Option Int := tree.int?.filter fitsInt32

def uint32? (tree : Tree) : Option Nat := (tree.int?.bind Int.toNat?).filter fitsUInt32

def uint64? (tree : Tree) : Option Nat := (tree.int?.bind Int.toNat?).filter fitsUInt64

def float? : Tree → Option Float
  | .number numeral => numeral.float?
  | _ => none

/-- `null` is no value; anything else is read by `read?`. -/
def optional? {α : Type} (read? : Tree → Option α) : Tree → Option (Option α)
  | .null => some none
  | tree => (read? tree).map some

def list? {α : Type} (read? : Tree → Option α) : Tree → Option (List α)
  | .array items => items.mapM read?
  | _ => none

/-- Members of an object under their resolved keys, in order. -/
def members? : Tree → Option (List (String × Tree))
  | .object members =>
      members.mapM fun member =>
        (resolve member.1).map fun key => (String.ofList key, member.2)
  | _ => none

def ofInt (value : Int) : Tree := .number (.ofInt value)

def ofNat (value : Nat) : Tree := .ofInt (Int.ofNat value)

def piecesOf (value : String) : List Piece := value.toList.map .char

def ofString (value : String) : Tree := .text (piecesOf value)

def ofOption {α : Type} (write : α → Tree) : Option α → Tree
  | none => .null
  | some value => write value

def ofMembers (members : List (String × Tree)) : Tree :=
  .object (members.map fun member => (piecesOf member.1, member.2))

end Tree

end MemoryReclaim.Json
