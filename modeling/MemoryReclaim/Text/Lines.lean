/-!
# Lines

A line ends at a line feed, which may be preceded by one carriage return; both belong
to the line end.  A carriage return elsewhere is an ordinary character, and a text
that ends in a line end has no empty last line.
-/

namespace MemoryReclaim.Text

def lines : List Char → List (List Char)
  | [] => []
  | '\n' :: rest => [] :: lines rest
  | '\r' :: '\n' :: rest => [] :: lines rest
  | c :: rest =>
      match lines rest with
      | [] => [[c]]
      | line :: later => (c :: line) :: later

example : lines "a\r\n\nb\rc\n".toList = ["a".toList, [], "b\rc".toList] := by decide
example : lines "a\r".toList = ["a\r".toList] := by decide

end MemoryReclaim.Text
