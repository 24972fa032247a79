import MemoryReclaim.Text.Numeral
import MemoryReclaim.Text.Unprintable

/-!
# Quoted text

A quotation stands between double quotes.  NUL, tab, line feed, carriage return, the
double quote and the backslash have two-character escapes, every other character
without a printed form is written by its hexadecimal code point, and all remaining
characters stand for themselves.
-/

namespace MemoryReclaim.Text

/-- Hexadecimal digits of `number`, with `fuel` bounding their count. -/
def hexWith : Nat → Nat → List Char → List Char
  | 0, _, later => later
  | fuel + 1, number, later =>
      if number < 16 then hexDigit number :: later
      else hexWith fuel (number / 16) (hexDigit (number % 16) :: later)

def writeHex (number : Nat) : List Char := hexWith (number + 1) number []

def escapeChar (c : Char) : List Char :=
  if c = '\x00' then ['\\', '0']
  else if c = '\t' then ['\\', 't']
  else if c = '\r' then ['\\', 'r']
  else if c = '\n' then ['\\', 'n']
  else if c = '"' then ['\\', '"']
  else if c = '\\' then ['\\', '\\']
  else if isPrintable c then [c]
  else ['\\', 'u', '\x7b'] ++ writeHex c.toNat ++ ['\x7d']

def quoted (text : String) : String :=
  String.ofList ('"' :: text.toList.flatMap escapeChar ++ ['"'])

example : quoted "a\n\"\u0301'" = "\"a\\n\\\"\\u\x7b301\x7d'\"" := by decide

end MemoryReclaim.Text
