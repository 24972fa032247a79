/-!
# Decimal numerals

Whole numbers are written with ASCII digits and at most one sign.  Reading accepts
leading zeros and a plus sign, and a reader with a width refuses a numeral outside it:
nothing is wrapped or clamped.
-/

namespace MemoryReclaim.Text

def digitOf? (c : Char) : Option Nat :=
  if '0' ≤ c ∧ c ≤ '9' then some (c.toNat - '0'.toNat) else none

def digitsOf? (text : List Char) : Option (List Nat) := text.mapM digitOf?

/-- The number whose decimal digits follow those of `start`. -/
def ofDigitsFrom (start : Nat) (digits : List Nat) : Nat :=
  digits.foldl (fun total digit => 10 * total + digit) start

def ofDigits (digits : List Nat) : Nat := ofDigitsFrom 0 digits

def readUnsigned? (text : List Char) : Option Nat :=
  if text.isEmpty then none else (digitsOf? text).map ofDigits

def readNat? : List Char → Option Nat
  | '+' :: text => readUnsigned? text
  | text => readUnsigned? text

def readInt? : List Char → Option Int
  | '+' :: text => (readUnsigned? text).map Int.ofNat
  | '-' :: text => (readUnsigned? text).map fun number => -Int.ofNat number
  | text => (readUnsigned? text).map Int.ofNat

def fitsInt32 (number : Int) : Bool := -2147483648 ≤ number && number ≤ 2147483647

def fitsUInt32 (number : Nat) : Bool := number ≤ 4294967295

def fitsUInt64 (number : Nat) : Bool := number ≤ 18446744073709551615

def readUInt64? (text : List Char) : Option Nat := (readNat? text).filter fitsUInt64

def readInt32? (text : List Char) : Option Int := (readInt? text).filter fitsInt32

def digitChar (digit : Nat) : Char := Char.ofNat ('0'.toNat + digit)

def hexDigit (digit : Nat) : Char :=
  if digit < 10 then digitChar digit else Char.ofNat ('a'.toNat + (digit - 10))

/-- Digits of `number`, most significant first, with `fuel` bounding their count. -/
def digitsWith : Nat → Nat → List Nat → List Nat
  | 0, _, later => later
  | fuel + 1, number, later =>
      if number < 10 then number :: later
      else digitsWith fuel (number / 10) (number % 10 :: later)

def digits (number : Nat) : List Nat := digitsWith (number + 1) number []

def writeNat (number : Nat) : List Char := (digits number).map digitChar

def writeInt : Int → List Char
  | .ofNat number => writeNat number
  | .negSucc number => '-' :: writeNat (number + 1)

def natText (number : Nat) : String := String.ofList (writeNat number)

def intText (number : Int) : String := String.ofList (writeInt number)

example : readInt32? "+007".toList = some 7 := by decide
example : readInt32? "2147483648".toList = none := by decide
example : readUInt64? "-0".toList = none := by decide
example : writeInt (-2147483648) = "-2147483648".toList := by decide

end MemoryReclaim.Text
