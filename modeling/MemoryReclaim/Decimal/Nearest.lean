import MemoryReclaim.Text.Numeral

/-!
# Decimal text as the nearest double

A decimal is an optional sign, digits with at most one point among or around them, and
an optional exponent; `inf`, `infinity` and `nan` in any case are read too.  The result
is the double nearest to the written number, infinity when that is out of range.
-/

namespace MemoryReclaim.Decimal

open MemoryReclaim.Text

structure Magnitude where
  significand : Nat
  exponent : Int
  deriving DecidableEq

/-- Beyond these powers of ten every number rounds to infinity or to zero. -/
def largestPower : Int := 310

def smallestPower : Int := -330

def Magnitude.toFloat (magnitude : Magnitude) : Float :=
  let power := ((digits magnitude.significand).length : Int) + magnitude.exponent
  if magnitude.significand = 0 then 0.0
  else if power > largestPower then 1.0 / 0.0
  else if power < smallestPower then 0.0
  else Float.ofScientific magnitude.significand (magnitude.exponent < 0)
    magnitude.exponent.natAbs

def isDigit (c : Char) : Bool := (digitOf? c).isSome

def readExponent? : List Char → Option Int
  | [] => some 0
  | mark :: rest =>
      if mark = 'e' || mark = 'E' then readInt? rest else none

def readMagnitude? (text : List Char) : Option Magnitude := do
  let whole := text.takeWhile isDigit
  let afterWhole := text.dropWhile isDigit
  let (fraction, rest) :=
    match afterWhole with
    | '.' :: tail => (tail.takeWhile isDigit, tail.dropWhile isDigit)
    | _ => ([], afterWhole)
  let exponent ← readExponent? rest
  let significand ← readUnsigned? (whole ++ fraction)
  some ⟨significand, exponent - fraction.length⟩

def lower (text : List Char) : List Char := text.map Char.toLower

def readUnsignedFloat? (text : List Char) : Option Float :=
  let word := lower text
  if word = "inf".toList || word = "infinity".toList then some (1.0 / 0.0)
  else if word = "nan".toList then some (0.0 / 0.0)
  else (readMagnitude? text).map Magnitude.toFloat

def readFloat? : List Char → Option Float
  | '+' :: text => readUnsignedFloat? text
  | '-' :: text => (readUnsignedFloat? text).map fun value => -value
  | text => readUnsignedFloat? text

example : readMagnitude? "00012.25e-3".toList = some ⟨1225, -5⟩ := by decide
example : readMagnitude? ".".toList = none := by decide

end MemoryReclaim.Decimal
