import MemoryReclaim.Json.Reader

/-!
# Writing a document

The written form has no blanks.  In a text the double quote, the backslash and the
control characters are escaped, by a short escape where there is one; a code unit kept
by number is written by number.
-/

namespace MemoryReclaim.Json

open MemoryReclaim.Text

def writeUnit (code : Nat) : List Char :=
  ['\\', 'u', hexDigit (code / 4096 % 16), hexDigit (code / 256 % 16),
    hexDigit (code / 16 % 16), hexDigit (code % 16)]

def writeChar (c : Char) : List Char :=
  if c = '"' then ['\\', '"']
  else if c = '\\' then ['\\', '\\']
  else if c = '\x08' then ['\\', 'b']
  else if c = '\x0c' then ['\\', 'f']
  else if c = '\n' then ['\\', 'n']
  else if c = '\r' then ['\\', 'r']
  else if c = '\t' then ['\\', 't']
  else if c.toNat < 0x20 then writeUnit c.toNat
  else [c]

def writePiece : Piece → List Char
  | .char c => writeChar c
  | .unit code => writeUnit code

def writeText (pieces : List Piece) : List Char :=
  '"' :: pieces.flatMap writePiece ++ ['"']

def writeDigits (digits : List Nat) : List Char := digits.map digitChar

def writeFraction (digits : List Nat) : List Char :=
  if digits.isEmpty then [] else '.' :: writeDigits digits

def writePower (negative : Bool) (digits : List Nat) : List Char :=
  if digits.isEmpty then []
  else 'e' :: (if negative then ['-'] else []) ++ writeDigits digits

def writeNumeral (numeral : Numeral) : List Char :=
  (if numeral.negative then ['-'] else []) ++ writeDigits numeral.digits.whole ++
    writeFraction numeral.digits.fraction ++
    writePower numeral.digits.exponentNegative numeral.digits.exponent

mutual

def Tree.write : Tree → List Char
  | .null => "null".toList
  | .bool true => "true".toList
  | .bool false => "false".toList
  | .number numeral => writeNumeral numeral
  | .text pieces => writeText pieces
  | .array items => '[' :: writeItems items ++ [']']
  | .object members => '\x7b' :: writeMembers members ++ ['\x7d']

def writeItems : List Tree → List Char
  | [] => []
  | [item] => item.write
  | item :: next :: later => item.write ++ ',' :: writeItems (next :: later)

def writeMembers : List (List Piece × Tree) → List Char
  | [] => []
  | [(key, value)] => writeText key ++ ':' :: value.write
  | (key, value) :: next :: later =>
      writeText key ++ ':' :: value.write ++ ',' :: writeMembers (next :: later)

end

def Tree.render (tree : Tree) : String := String.ofList tree.write

end MemoryReclaim.Json
