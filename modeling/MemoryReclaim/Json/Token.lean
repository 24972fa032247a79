import MemoryReclaim.Json.Tree

/-!
# Tokens of a document

Blanks between tokens are the four ASCII ones.  A numeral has no leading zero, and a
digit on each side of its point; a text holds no raw control character, and its
escapes are the eight short ones and `\u` with four hexadecimal digits.
-/

namespace MemoryReclaim.Json

open MemoryReclaim.Text

inductive Token
  | null
  | bool (value : Bool)
  | number (numeral : Numeral)
  | text (pieces : List Piece)
  | beginArray
  | endArray
  | beginObject
  | endObject
  | comma
  | colon
  deriving DecidableEq

def isSpace (c : Char) : Bool := c = ' ' || c = '\t' || c = '\n' || c = '\r'

def hexValue? (c : Char) : Option Nat :=
  if '0' ≤ c ∧ c ≤ '9' then some (c.toNat - '0'.toNat)
  else if 'a' ≤ c ∧ c ≤ 'f' then some (c.toNat - 'a'.toNat + 10)
  else if 'A' ≤ c ∧ c ≤ 'F' then some (c.toNat - 'A'.toNat + 10)
  else none

def codeUnit? (first second third fourth : Char) : Option Nat := do
  let one ← hexValue? first
  let two ← hexValue? second
  let three ← hexValue? third
  let four ← hexValue? fourth
  some (((one * 16 + two) * 16 + three) * 16 + four)

def shortEscape? (c : Char) : Option Char :=
  if c = '"' || c = '\\' || c = '/' then some c
  else if c = 'b' then some '\x08'
  else if c = 'f' then some '\x0c'
  else if c = 'n' then some '\n'
  else if c = 'r' then some '\r'
  else if c = 't' then some '\t'
  else none

/-- The pieces up to the closing quote, and what follows it. -/
def readText? : List Char → Option (List Piece × List Char)
  | [] => none
  | '"' :: rest => some ([], rest)
  | '\\' :: 'u' :: first :: second :: third :: fourth :: rest => do
      let code ← codeUnit? first second third fourth
      let (pieces, after) ← readText? rest
      some (.unit code :: pieces, after)
  | '\\' :: escape :: rest => do
      let c ← shortEscape? escape
      let (pieces, after) ← readText? rest
      some (.char c :: pieces, after)
  | c :: rest =>
      if c.toNat < 0x20 then none
      else (readText? rest).map fun (pieces, after) => (.char c :: pieces, after)

/-- The longest run of digits, and what follows it. -/
def takeDigits : List Char → List Nat × List Char
  | [] => ([], [])
  | c :: rest =>
      match digitOf? c with
      | none => ([], c :: rest)
      | some digit => (digit :: (takeDigits rest).1, (takeDigits rest).2)

def readWhole? (text : List Char) : Option (List Nat × List Char) :=
  match takeDigits text with
  | ([], _) => none
  | (0 :: _ :: _, _) => none
  | found => some found

def readFraction? : List Char → Option (List Nat × List Char)
  | '.' :: rest =>
      match takeDigits rest with
      | ([], _) => none
      | found => some found
  | text => some ([], text)

def readSign : List Char → Bool × List Char
  | '+' :: rest => (false, rest)
  | '-' :: rest => (true, rest)
  | text => (false, text)

def readPower? : List Char → Option (Bool × List Nat × List Char)
  | [] => some (false, [], [])
  | mark :: rest =>
      if mark = 'e' || mark = 'E' then
        let (negative, digits) := readSign rest
        match takeDigits digits with
        | ([], _) => none
        | (power, after) => some (negative, power, after)
      else some (false, [], mark :: rest)

def readUnsignedNumeral? (negative : Bool) (text : List Char) :
    Option (Numeral × List Char) := do
  let (whole, afterWhole) ← readWhole? text
  let (fraction, afterFraction) ← readFraction? afterWhole
  let (exponentNegative, exponent, after) ← readPower? afterFraction
  some (⟨negative, ⟨whole, fraction, exponentNegative, exponent⟩⟩, after)

def readNumeral? : List Char → Option (Numeral × List Char)
  | '-' :: rest => readUnsignedNumeral? true rest
  | text => readUnsignedNumeral? false text

/-- The token at the start of a text, and what follows it. -/
def readToken? : List Char → Option (Token × List Char)
  | [] => none
  | '[' :: rest => some (.beginArray, rest)
  | ']' :: rest => some (.endArray, rest)
  | '\x7b' :: rest => some (.beginObject, rest)
  | '\x7d' :: rest => some (.endObject, rest)
  | ',' :: rest => some (.comma, rest)
  | ':' :: rest => some (.colon, rest)
  | 'n' :: 'u' :: 'l' :: 'l' :: rest => some (.null, rest)
  | 't' :: 'r' :: 'u' :: 'e' :: rest => some (.bool true, rest)
  | 'f' :: 'a' :: 'l' :: 's' :: 'e' :: rest => some (.bool false, rest)
  | '"' :: rest => (readText? rest).map fun (pieces, after) => (.text pieces, after)
  | text => (readNumeral? text).map fun (numeral, after) => (.number numeral, after)

/-- A token takes at least one character, so `fuel` bounds the number of steps. -/
def tokensWith : Nat → List Char → Option (List Token)
  | _, [] => some []
  | 0, _ :: _ => none
  | fuel + 1, c :: rest =>
      if isSpace c then tokensWith fuel rest
      else do
        let (token, after) ← readToken? (c :: rest)
        let later ← tokensWith fuel after
        some (token :: later)

def tokens? (text : List Char) : Option (List Token) := tokensWith text.length text

end MemoryReclaim.Json
