/-!
# Blank characters

A blank is a character with the Unicode property `White_Space`.  Text is trimmed and
cut into words at blanks; zero-width characters and the information separators
U+001C to U+001F are not blanks.
-/

namespace MemoryReclaim.Text

def isBlank (c : Char) : Bool :=
  ('\t' ≤ c && c ≤ '\r') || c = ' ' || c = '\u0085' || c = '\u00a0' || c = '\u1680' ||
    ('\u2000' ≤ c && c ≤ '\u200a') || c = '\u2028' || c = '\u2029' || c = '\u202f' ||
    c = '\u205f' || c = '\u3000'

def trim (text : List Char) : List Char :=
  ((text.dropWhile isBlank).reverse.dropWhile isBlank).reverse

/-- The longest blank-free pieces of a text, in order; none is empty. -/
def words : List Char → List (List Char)
  | [] => []
  | c :: rest =>
      if isBlank c then words rest
      else
        match rest, words rest with
        | next :: _, word :: later =>
            if isBlank next then [c] :: word :: later else (c :: word) :: later
        | _, later => [c] :: later

example : words " a\u3000bc\u200bd ".toList = ["a".toList, "bc\u200bd".toList] := by decide
example : trim "\t 300 \r\n".toList = "300".toList := by decide

end MemoryReclaim.Text
