import MemoryReclaim.Json.Token

/-!
# From tokens to a tree

The tokens of a document drive a stack of containers begun and not yet ended.  Each
token is used once and nothing is read ahead, so nesting is bounded by nothing but the
document, and a document is read exactly when its last token completes the outermost
value.
-/

namespace MemoryReclaim.Json

/-- A container around the current place, its earlier parts last first. -/
inductive Frame
  | items (earlier : List Tree)
  | members (earlier : List (List Piece × Tree)) (key : List Piece)

/-- What may come next. -/
inductive Stage
  | value
  | firstItem
  | firstKey
  | key (earlier : List (List Piece × Tree))
  | colon (earlier : List (List Piece × Tree)) (key : List Piece)
  | done (tree : Tree)

structure Reading where
  stage : Stage
  frames : List Frame

def Reading.start : Reading := ⟨.value, []⟩

def beginValue (frames : List Frame) : Token → Option Reading
  | .null => some ⟨.done .null, frames⟩
  | .bool value => some ⟨.done (.bool value), frames⟩
  | .number numeral => some ⟨.done (.number numeral), frames⟩
  | .text pieces => some ⟨.done (.text pieces), frames⟩
  | .beginArray => some ⟨.firstItem, frames⟩
  | .beginObject => some ⟨.firstKey, frames⟩
  | _ => none

def continueAfter (tree : Tree) : List Frame → Token → Option Reading
  | .items earlier :: frames, .comma => some ⟨.value, .items (tree :: earlier) :: frames⟩
  | .items earlier :: frames, .endArray =>
      some ⟨.done (.array (tree :: earlier).reverse), frames⟩
  | .members earlier key :: frames, .comma => some ⟨.key ((key, tree) :: earlier), frames⟩
  | .members earlier key :: frames, .endObject =>
      some ⟨.done (.object ((key, tree) :: earlier).reverse), frames⟩
  | _, _ => none

def Reading.next (reading : Reading) (token : Token) : Option Reading :=
  match reading.stage, token with
  | .value, _ => beginValue reading.frames token
  | .firstItem, .endArray => some ⟨.done (.array []), reading.frames⟩
  | .firstItem, _ => beginValue (.items [] :: reading.frames) token
  | .firstKey, .endObject => some ⟨.done (.object []), reading.frames⟩
  | .firstKey, .text key => some ⟨.colon [] key, reading.frames⟩
  | .key earlier, .text key => some ⟨.colon earlier key, reading.frames⟩
  | .colon earlier key, .colon => some ⟨.value, .members earlier key :: reading.frames⟩
  | .done tree, _ => continueAfter tree reading.frames token
  | _, _ => none

def Reading.result? (reading : Reading) : Option Tree :=
  match reading.stage, reading.frames with
  | .done tree, [] => some tree
  | _, _ => none

def Tree.ofTokens? (tokens : List Token) : Option Tree :=
  (tokens.foldlM Reading.next Reading.start).bind Reading.result?

def Tree.ofChars? (text : List Char) : Option Tree := (tokens? text).bind Tree.ofTokens?

def Tree.ofText? (text : String) : Option Tree := Tree.ofChars? text.toList

end MemoryReclaim.Json
