/-!
# Decimal digits scaled in double arithmetic

A quick conversion for numbers of moderate length: the leading digits that fit into 64
bits become a double, which is then multiplied or divided by one power of ten (several
divisions by the largest one when the number is very small).  The result may differ
from the nearest double in its last bits.  A number that leaves the range upwards has no
value; one that leaves it downwards is zero.
-/

namespace MemoryReclaim.Decimal

structure Digits where
  whole : List Nat
  fraction : List Nat
  exponentNegative : Bool
  exponent : List Nat
  deriving DecidableEq

def largestWord : Nat := 18446744073709551615

/-- Digits are taken as long as the number stays a 64-bit word; the rest is returned. -/
def takeDigits (start : Nat) : List Nat → Nat × List Nat
  | [] => (start, [])
  | digit :: rest =>
      if 10 * start + digit ≤ largestWord then takeDigits (10 * start + digit) rest
      else (start, digit :: rest)

def largestTabledPower : Nat := 308

def powerOfTen (power : Nat) : Float := Float.ofScientific 1 false power

def scaleWith : Nat → Float → Int → Option Float
  | 0, value, _ => some value
  | fuel + 1, value, power =>
      if power.natAbs ≤ largestTabledPower then
        if power < 0 then some (value / powerOfTen power.natAbs)
        else
          let scaled := value * powerOfTen power.natAbs
          if scaled.isInf then none else some scaled
      else if value == 0.0 then some value
      else if power < 0 then
        scaleWith fuel (value / powerOfTen largestTabledPower) (power + largestTabledPower)
      else none

/-- `value · 10^power`, where nothing is left to divide after a few large steps. -/
def scale (value : Float) (power : Int) : Option Float :=
  scaleWith (power.natAbs / largestTabledPower + 1) value power

def largestExponent : Nat := 2147483647

def clampExponent (power : Int) : Int := max (-2147483648) (min 2147483647 power)

def Digits.toFloat? (digits : Digits) : Option Float :=
  let (wholePart, dropped) := takeDigits 0 digits.whole
  let (significand, unused) := takeDigits wholePart digits.fraction
  let taken := digits.fraction.length - unused.length
  let shift : Int := (dropped.length : Int) - taken
  let exponent := digits.exponent.foldl (fun total digit => 10 * total + digit) 0
  if exponent > largestExponent then
    if significand ≠ 0 && !digits.exponentNegative then none else some 0.0
  else
    let power := if digits.exponentNegative then shift - exponent else shift + exponent
    scale (UInt64.ofNat significand).toFloat (clampExponent power)

end MemoryReclaim.Decimal
