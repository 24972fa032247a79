import MemoryReclaim.Proofs.Json.Numeral
import MemoryReclaim.Proofs.Json.Text

/-!
# The tokens of a text

A text spells tokens when it consists of their spellings in order, with white space before,
between and behind them.  Only numerals can run into what follows them; where each is
followed by a comma or the end of a container, the tokens of a text are the ones that it
spells.
-/

namespace MemoryReclaim.Json

open MemoryReclaim.Text

variable {token : Token} {tokens : List Token} {text rest : List Char}

inductive Token.Spelled : Token → List Char → Prop
  | null : Token.Spelled .null "null".toList
  | isTrue : Token.Spelled (.bool true) "true".toList
  | isFalse : Token.Spelled (.bool false) "false".toList
  | number {numeral : Numeral} {text : List Char} (hnumeral : NumeralSpelled numeral text) :
      Token.Spelled (.number numeral) text
  | text {pieces : List Piece} {text : List Char} (hpieces : PiecesSpelled pieces text) :
      Token.Spelled (.text pieces) ('"' :: text ++ ['"'])
  | beginArray : Token.Spelled .beginArray ['[']
  | endArray : Token.Spelled .endArray [']']
  | beginObject : Token.Spelled .beginObject ['\x7b']
  | endObject : Token.Spelled .endObject ['\x7d']
  | comma : Token.Spelled .comma [',']
  | colon : Token.Spelled .colon [':']

inductive Spelled : List Token → List Char → Prop
  | nil : Spelled [] []
  | space {c : Char} {tokens : List Token} {text : List Char} (hspace : isSpace c = true)
      (htokens : Spelled tokens text) : Spelled tokens (c :: text)
  | token {token : Token} {tokens : List Token} {spelling text : List Char}
      (htoken : token.Spelled spelling) (htokens : Spelled tokens text) :
      Spelled (token :: tokens) (spelling ++ text)

/-- The tokens that may follow a value inside a container. -/
def Token.Closes (token : Token) : Prop :=
  token = .comma ∨ token = .endArray ∨ token = .endObject

def Token.IsNumber (token : Token) : Prop := ∃ numeral, token = .number numeral

/-- No numeral is followed by something that it could run into. -/
def Separated (tokens : List Token) : Prop :=
  tokens.IsChain fun token next => token.IsNumber → next.Closes

/-! ## One token -/

theorem readToken?_digit {digit : Nat} (hdigit : digit < 10) (rest : List Char) :
    readToken? (digitChar digit :: rest) =
      (readNumeral? (digitChar digit :: rest)).map
        fun (numeral, after) => (.number numeral, after) := by
  interval_cases digit <;> rfl

theorem readToken?_numeral {numeral : Numeral} (hnumeral : NumeralSpelled numeral text)
    (hrest : EndsNumeral rest) :
    readToken? (text ++ rest) = some (.number numeral, rest) := by
  have hread := readNumeral?_of_spelled hnumeral hrest
  cases hnumeral with
  | negative _ =>
      rw [List.cons_append] at hread ⊢
      change (readNumeral? _).map _ = _
      rw [hread, Option.map_some]
  | positive hdigits =>
      obtain ⟨digit, hdigit, later, rfl⟩ := hdigits.head_digit
      rw [List.cons_append] at hread ⊢
      rw [readToken?_digit hdigit, hread, Option.map_some]

theorem readToken?_of_spelled (htoken : token.Spelled text)
    (hrest : token.IsNumber → EndsNumeral rest) :
    readToken? (text ++ rest) = some (token, rest) := by
  cases htoken with
  | number hnumeral => exact readToken?_numeral hnumeral (hrest ⟨_, rfl⟩)
  | text hpieces =>
      rw [List.cons_append, List.cons_append, List.append_assoc, List.singleton_append]
      change (readText? _).map _ = _
      rw [readText?_of_spelled hpieces, Option.map_some]
  | _ => rfl

/-- A token does not begin with white space. -/
theorem Token.Spelled.head (htoken : token.Spelled text) :
    ∃ c later, text = c :: later ∧ isSpace c = false := by
  have hdigits : ∀ {digits : Decimal.Digits} {text : List Char}, UnsignedSpelled digits text →
      ∃ c later, text = c :: later ∧ isSpace c = false := by
    intro digits text hspelled
    obtain ⟨digit, hdigit, later, htext⟩ := hspelled.head_digit
    refine ⟨digitChar digit, later, htext, ?_⟩
    interval_cases digit <;> decide
  cases htoken with
  | number hnumeral =>
      cases hnumeral with
      | negative _ => exact ⟨'-', _, rfl, by decide⟩
      | positive hspelled => exact hdigits hspelled
  | _ => exact ⟨_, _, rfl, by decide⟩

theorem endsNumeral_space {c : Char} (hspace : isSpace c = true) (text : List Char) :
    EndsNumeral (c :: text) := by
  intro d hd
  rw [← Option.some.inj hd]
  simp only [isSpace, Bool.or_eq_true, decide_eq_true_eq] at hspace
  rcases hspace with ((rfl | rfl) | rfl) | rfl <;> simp [IsPowerMark] <;> decide

theorem endsNumeral_closing (hcloses : token.Closes) (htoken : token.Spelled text)
    (rest : List Char) : EndsNumeral (text ++ rest) := by
  rcases hcloses with rfl | rfl | rfl <;> cases htoken <;> intro d hd <;>
    rw [← Option.some.inj hd] <;> simp [IsPowerMark] <;> decide

/-! ## All tokens -/

theorem Spelled.endsNumeral (htokens : Spelled tokens text)
    (hcloses : ∀ token ∈ tokens.head?, token.Closes) : EndsNumeral text := by
  cases htokens with
  | nil => simp [EndsNumeral]
  | space hspace _ => exact endsNumeral_space hspace _
  | token htoken _ => exact endsNumeral_closing (hcloses _ rfl) htoken _

theorem tokensWith_of_spelled (htokens : Spelled tokens text) (hseparated : Separated tokens)
    {fuel : Nat} (hfuel : text.length ≤ fuel) : tokensWith fuel text = some tokens := by
  induction htokens generalizing fuel with
  | nil => cases fuel <;> rfl
  | space hspace _ ih =>
      cases fuel with
      | zero => simp at hfuel
      | succ fuel =>
          rw [tokensWith, if_pos hspace]
          exact ih hseparated (Nat.le_of_succ_le_succ hfuel)
  | @token token tokens spelling text htoken htokens ih =>
      obtain ⟨hclosed, hlater⟩ := List.isChain_cons.1 hseparated
      have hends : token.IsNumber → EndsNumeral text := fun hnumber =>
        htokens.endsNumeral fun next hnext => hclosed next hnext hnumber
      have hread := readToken?_of_spelled htoken hends
      obtain ⟨c, others, rfl, hsolid⟩ := htoken.head
      rw [List.cons_append] at hread hfuel ⊢
      cases fuel with
      | zero => simp at hfuel
      | succ fuel =>
          have htext : text.length ≤ fuel := by
            simp only [List.length_cons, List.length_append] at hfuel
            omega
          rw [tokensWith, if_neg (by simp [hsolid]), hread]
          simp only [Option.bind_eq_bind, Option.bind_some, ih hlater htext]

theorem tokens?_of_spelled (htokens : Spelled tokens text) (hseparated : Separated tokens) :
    tokens? text = some tokens :=
  tokensWith_of_spelled htokens hseparated (Nat.le_refl _)

theorem Spelled.append {earlier later : List Token} {front back : List Char}
    (hearlier : Spelled earlier front) (hlater : Spelled later back) :
    Spelled (earlier ++ later) (front ++ back) := by
  induction hearlier with
  | nil => exact hlater
  | space hspace _ ih => exact .space hspace ih
  | token htoken _ ih =>
      rw [List.append_assoc]
      exact .token htoken ih

theorem Spelled.single (htoken : token.Spelled text) : Spelled [token] text := by
  rw [← List.append_nil text]
  exact .token htoken .nil

end MemoryReclaim.Json
