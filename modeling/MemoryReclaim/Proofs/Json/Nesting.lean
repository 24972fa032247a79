import MemoryReclaim.Proofs.Json.Token

/-!
# Trees and their texts

A tree has one sequence of tokens, and a text spells the tree when it spells these.  The
reader finds the tree in every such text: `ofTokens?_tokens` undoes the nesting and
`ofChars?_of_spells` the spelling.  What the writer makes of a tree is one of its texts, up
to the control characters that have to be escaped.
-/

namespace MemoryReclaim.Json

variable {tree : Tree} {text : List Char} {frames : List Frame}

/-! ## Trees -/

/-- A property of trees that passes from the parts of a container to the container. -/
theorem Tree.induction {motive : Tree → Prop} (null : motive .null)
    (bool : ∀ value, motive (.bool value)) (number : ∀ numeral, motive (.number numeral))
    (text : ∀ pieces, motive (.text pieces))
    (array : ∀ items : List Tree, (∀ item ∈ items, motive item) → motive (.array items))
    (object : ∀ members : List (List Piece × Tree), (∀ member ∈ members, motive member.2) →
      motive (.object members)) (tree : Tree) : motive tree :=
  @Tree.rec motive (fun items => ∀ item ∈ items, motive item)
    (fun members => ∀ member ∈ members, motive member.2) (fun member => motive member.2)
    null bool number text array object (by simp)
    (fun _ _ hitem hlater => List.forall_mem_cons.2 ⟨hitem, hlater⟩) (by simp)
    (fun _ _ hmember hlater => List.forall_mem_cons.2 ⟨hmember, hlater⟩) (fun _ _ hvalue => hvalue)
    tree

mutual

def Tree.tokens : Tree → List Token
  | .null => [.null]
  | .bool value => [.bool value]
  | .number numeral => [.number numeral]
  | .text pieces => [.text pieces]
  | .array items => .beginArray :: itemTokens items ++ [.endArray]
  | .object members => .beginObject :: memberTokens members ++ [.endObject]

/-- The items of an array, with commas between them. -/
def itemTokens : List Tree → List Token
  | [] => []
  | [item] => item.tokens
  | item :: next :: later => item.tokens ++ .comma :: itemTokens (next :: later)

/-- The members of an object, with commas between them. -/
def memberTokens : List (List Piece × Tree) → List Token
  | [] => []
  | [(key, value)] => .text key :: .colon :: value.tokens
  | (key, value) :: next :: later =>
      .text key :: .colon :: value.tokens ++ .comma :: memberTokens (next :: later)

end

/-- The text is the tokens of the tree, with white space wherever it may stand. -/
def Tree.Spells (tree : Tree) (text : List Char) : Prop := Spelled tree.tokens text

/-! ## From tokens to trees -/

/-- The first token of a value is not the end of an array, and begins a value. -/
theorem Tree.next_firstItem (tree : Tree) (frames : List Frame) :
    ∃ token later, tree.tokens = token :: later ∧
      Reading.next ⟨.firstItem, frames⟩ token =
        Reading.next ⟨.value, .items [] :: frames⟩ token := by
  cases tree with
  | null | bool _ | number _ | text _ => exact ⟨_, [], by rw [Tree.tokens], rfl⟩
  | array items | object members => exact ⟨_, _, by rw [Tree.tokens, List.cons_append], rfl⟩

/-- `tree`, read as a value inside any frames, leaves them as they were. -/
def Tree.IsRead (tree : Tree) : Prop :=
  ∀ frames, tree.tokens.foldlM Reading.next ⟨.value, frames⟩ = some ⟨.done tree, frames⟩

theorem Tree.IsRead.firstItem (hread : tree.IsRead) (frames : List Frame) :
    tree.tokens.foldlM Reading.next ⟨.firstItem, frames⟩ =
      some ⟨.done tree, .items [] :: frames⟩ := by
  obtain ⟨token, later, htokens, hnext⟩ := tree.next_firstItem frames
  rw [← hread, htokens, List.foldlM_cons, List.foldlM_cons, hnext]

theorem foldlM_tokens_append {reading after : Reading} {earlier : List Token}
    (hearlier : earlier.foldlM Reading.next reading = some after) (later : List Token) :
    (earlier ++ later).foldlM Reading.next reading = later.foldlM Reading.next after := by
  rw [List.foldlM_append, hearlier]
  rfl

/-- Reading on after an item, up to the end of the array.  The first item of an array is read
from another stage than the later ones, so how the item is read is left open. -/
theorem foldlM_items {items : List Tree} (hitems : ∀ item ∈ items, item.IsRead) (item : Tree)
    (earlier : List Tree) (frames : List Frame) {reading : Reading}
    (hitem : item.tokens.foldlM Reading.next reading =
      some ⟨.done item, .items earlier :: frames⟩) :
    (itemTokens (item :: items) ++ [Token.endArray]).foldlM Reading.next reading =
      some ⟨.done (.array (earlier.reverse ++ item :: items)), frames⟩ := by
  induction items generalizing item earlier reading with
  | nil =>
      rw [itemTokens, foldlM_tokens_append hitem]
      have harray : earlier.reverse ++ [item] = (item :: earlier).reverse := by simp
      rw [harray]
      rfl
  | cons next later ih =>
      rw [List.forall_mem_cons] at hitems
      rw [itemTokens, List.append_assoc, foldlM_tokens_append hitem, List.cons_append,
        List.foldlM_cons]
      change (itemTokens (next :: later) ++ [Token.endArray]).foldlM Reading.next
        ⟨.value, .items (item :: earlier) :: frames⟩ = _
      rw [ih hitems.2 next (item :: earlier) (hitems.1 _), List.reverse_cons, List.append_assoc]
      rfl

/-- The stages at which a key may come. -/
inductive AtKey : Stage → List (List Piece × Tree) → Prop
  | first : AtKey .firstKey []
  | later (earlier : List (List Piece × Tree)) : AtKey (.key earlier) earlier

theorem foldlM_members {members : List (List Piece × Tree)}
    (hmembers : ∀ member ∈ members, member.2.IsRead) (key : List Piece) {value : Tree}
    (hvalue : value.IsRead) {stage : Stage} {earlier : List (List Piece × Tree)}
    (hstage : AtKey stage earlier) (frames : List Frame) :
    (memberTokens ((key, value) :: members) ++ [Token.endObject]).foldlM Reading.next
        ⟨stage, frames⟩ =
      some ⟨.done (.object (earlier.reverse ++ (key, value) :: members)), frames⟩ := by
  have hkey : Reading.next ⟨stage, frames⟩ (.text key) = some ⟨.colon earlier key, frames⟩ := by
    cases hstage <;> rfl
  have hcolon : ([.text key, .colon] : List Token).foldlM Reading.next ⟨stage, frames⟩ =
      some ⟨.value, .members earlier key :: frames⟩ := by
    rw [List.foldlM_cons, hkey]
    rfl
  have hmember : (.text key :: .colon :: value.tokens).foldlM Reading.next ⟨stage, frames⟩ =
      some ⟨.done value, .members earlier key :: frames⟩ := by
    rw [← hvalue, ← foldlM_tokens_append hcolon]
    rfl
  induction members generalizing key value stage earlier with
  | nil =>
      rw [memberTokens, foldlM_tokens_append hmember]
      have hobject : earlier.reverse ++ [(key, value)] = ((key, value) :: earlier).reverse := by
        simp
      rw [hobject]
      rfl
  | cons next later ih =>
      obtain ⟨nextKey, nextValue⟩ := next
      rw [List.forall_mem_cons] at hmembers
      have hcomma : Reading.next ⟨.done value, .members earlier key :: frames⟩ .comma =
          some ⟨.key ((key, value) :: earlier), frames⟩ := rfl
      have hlater := ih hmembers.2 nextKey hmembers.1 (.later ((key, value) :: earlier)) rfl
        (by rw [List.foldlM_cons]; rfl) (by
          rw [← hmembers.1 (.members ((key, value) :: earlier) nextKey :: frames)]
          rfl)
      rw [memberTokens, List.append_assoc, foldlM_tokens_append hmember, List.cons_append,
        List.foldlM_cons, hcomma]
      refine hlater.trans ?_
      rw [List.reverse_cons, List.append_assoc]
      rfl

theorem Tree.isRead (tree : Tree) : tree.IsRead := by
  intro frames
  induction tree using Tree.induction generalizing frames with
  | null | bool _ | number _ | text _ =>
      rw [Tree.tokens]
      rfl
  | array items ih =>
      rw [Tree.tokens, List.cons_append, List.foldlM_cons]
      change (itemTokens items ++ [Token.endArray]).foldlM Reading.next ⟨.firstItem, frames⟩ = _
      cases items with
      | nil =>
          rw [itemTokens]
          rfl
      | cons item later =>
          rw [List.forall_mem_cons] at ih
          exact foldlM_items ih.2 item [] frames (Tree.IsRead.firstItem ih.1 frames)
  | object members ih =>
      rw [Tree.tokens, List.cons_append, List.foldlM_cons]
      change (memberTokens members ++ [Token.endObject]).foldlM Reading.next ⟨.firstKey, frames⟩ = _
      cases members with
      | nil =>
          rw [memberTokens]
          rfl
      | cons member later =>
          rw [List.forall_mem_cons] at ih
          exact foldlM_members ih.2 member.1 ih.1 .first frames

theorem ofTokens?_tokens (tree : Tree) : Tree.ofTokens? tree.tokens = some tree := by
  rw [Tree.ofTokens?, Reading.start, tree.isRead]
  rfl

/-! ## From texts to trees -/

theorem separated_append_closing {earlier later : List Token} {token : Token}
    (hcloses : token.Closes) (hearlier : Separated earlier) (hlater : Separated (token :: later)) :
    Separated (earlier ++ token :: later) := by
  refine List.isChain_append.2 ⟨hearlier, hlater, ?_⟩
  intro last _ next hnext _
  rwa [← Option.some.inj hnext]

theorem separated_cons {token : Token} (hother : ¬ token.IsNumber) {later : List Token}
    (hlater : Separated later) : Separated (token :: later) :=
  List.isChain_cons.2 ⟨fun _ _ hnumber => absurd hnumber hother, hlater⟩

theorem separated_single (token : Token) : Separated [token] := List.isChain_singleton _

theorem not_isNumber_of_ne {token : Token} (hother : ∀ numeral, token ≠ .number numeral) :
    ¬ token.IsNumber := fun ⟨numeral, htoken⟩ => hother numeral htoken

theorem separated_items {items : List Tree} (hitems : ∀ item ∈ items, Separated item.tokens) :
    Separated (itemTokens items) := by
  induction items with
  | nil => exact List.isChain_nil
  | cons item later ih =>
      rw [List.forall_mem_cons] at hitems
      cases later with
      | nil => exact hitems.1
      | cons next others =>
          exact separated_append_closing (.inl rfl) hitems.1
            (separated_cons (not_isNumber_of_ne (by simp)) (ih hitems.2))

theorem separated_members {members : List (List Piece × Tree)}
    (hmembers : ∀ member ∈ members, Separated member.2.tokens) :
    Separated (memberTokens members) := by
  have hvalue : ∀ (key : List Piece) {later : List Token}, Separated later →
      Separated (.text key :: .colon :: later) := fun key later hlater =>
    separated_cons (not_isNumber_of_ne (by simp))
      (separated_cons (not_isNumber_of_ne (by simp)) hlater)
  induction members with
  | nil => exact List.isChain_nil
  | cons member later ih =>
      obtain ⟨key, value⟩ := member
      rw [List.forall_mem_cons] at hmembers
      cases later with
      | nil => exact hvalue key hmembers.1
      | cons next others =>
          exact separated_append_closing (.inl rfl) (hvalue key hmembers.1)
            (separated_cons (not_isNumber_of_ne (by simp)) (ih hmembers.2))

theorem Tree.separated_tokens (tree : Tree) : Separated tree.tokens := by
  induction tree using Tree.induction with
  | null | bool _ | number _ | text _ =>
      rw [Tree.tokens]
      exact separated_single _
  | array items ih =>
      rw [Tree.tokens, List.cons_append]
      exact separated_cons (not_isNumber_of_ne (by simp))
        (separated_append_closing (.inr (.inl rfl)) (separated_items ih) (separated_single _))
  | object members ih =>
      rw [Tree.tokens, List.cons_append]
      exact separated_cons (not_isNumber_of_ne (by simp))
        (separated_append_closing (.inr (.inr rfl)) (separated_members ih) (separated_single _))

/-- Every text of a tree is read as this tree, so a text spells one tree at most. -/
theorem ofChars?_of_spells (hspells : tree.Spells text) : Tree.ofChars? text = some tree := by
  rw [Tree.ofChars?, tokens?_of_spelled hspells tree.separated_tokens, Option.bind_some,
    ofTokens?_tokens]

theorem ofText?_of_spells {text : String} (hspells : tree.Spells text.toList) :
    Tree.ofText? text = some tree := ofChars?_of_spells hspells

end MemoryReclaim.Json
