import MemoryReclaim.Proofs.Text.Blank
import MemoryReclaim.Proofs.Text.Numeral

/-!
# Padded words

Trimming takes the blanks off both ends of a text and nothing else.  A text trims to a word
exactly if it is that word with blanks around it.  Blanks are the characters with the Unicode
property `White_Space`, and a numeral has none, so every numeral is a word.
-/

namespace MemoryReclaim.Text

variable {front back word text : List Char} {number : Nat} {value : Int}

/-- The code points with the property `White_Space`. -/
def whiteSpace : List Nat :=
  [0x9, 0xa, 0xb, 0xc, 0xd, 0x20, 0x85, 0xa0, 0x1680, 0x2000, 0x2001, 0x2002, 0x2003, 0x2004,
    0x2005, 0x2006, 0x2007, 0x2008, 0x2009, 0x200a, 0x2028, 0x2029, 0x202f, 0x205f, 0x3000]

theorem isBlank_iff_whiteSpace {c : Char} : isBlank c = true ↔ c.toNat ∈ whiteSpace := by
  simp only [isBlank, whiteSpace, Bool.or_eq_true, Bool.and_eq_true, decide_eq_true_eq,
    Char.le_def, UInt32.le_iff_toNat_le, ← Char.toNat_inj, List.mem_cons, List.not_mem_nil,
    Char.reduceVal, UInt32.reduceToNat, Char.toNat_val, Char.reduceToNat, or_false]
  omega

/-- All characters are white space. -/
def IsPadding (text : List Char) : Prop := ∀ c ∈ text, c.toNat ∈ whiteSpace

theorem all_isBlank_iff : text.all isBlank = true ↔ IsPadding text := by
  simp only [List.all_eq_true, isBlank_iff_whiteSpace, IsPadding]

instance (text : List Char) : Decidable (IsPadding text) := decidable_of_iff _ all_isBlank_iff

theorem IsPadding.blank (hpadding : IsPadding text) : ∀ c ∈ text, isBlank c = true :=
  fun c hc => isBlank_iff_whiteSpace.2 (hpadding c hc)

theorem isPadding_takeWhile (text : List Char) : IsPadding (text.takeWhile isBlank) :=
  fun _ hc => isBlank_iff_whiteSpace.1 (List.all_eq_true.1 List.all_takeWhile _ hc)

/-- A text is what trimming leaves of it, between two pieces of padding. -/
theorem exists_padding (text : List Char) :
    ∃ front back, IsPadding front ∧ IsPadding back ∧ text = front ++ trim text ++ back := by
  let rest := text.dropWhile isBlank
  refine ⟨text.takeWhile isBlank, (rest.reverse.takeWhile isBlank).reverse,
    isPadding_takeWhile text, fun c hc => ?_, ?_⟩
  · exact isPadding_takeWhile rest.reverse c (List.mem_reverse.1 hc)
  · have hrest : trim text ++ (rest.reverse.takeWhile isBlank).reverse = rest := by
      rw [trim, ← List.reverse_append, List.takeWhile_append_dropWhile, List.reverse_reverse]
    rw [List.append_assoc, hrest, List.takeWhile_append_dropWhile]

theorem dropWhile_padding (hpadding : IsPadding front)
    (hsolid : ∀ c ∈ text.head?, isBlank c = false) : (front ++ text).dropWhile isBlank = text := by
  rw [List.dropWhile_append_of_pos hpadding.blank]
  cases text with
  | nil => rfl
  | cons c later => rw [List.dropWhile_cons_of_neg (by simp [hsolid c rfl])]

theorem IsWord.solid_head (hword : IsWord word) (rest : List Char) :
    ∀ c ∈ (word ++ rest).head?, isBlank c = false := by
  cases word with
  | nil => exact absurd rfl hword.nonempty
  | cons first later =>
      intro c hc
      exact hword.solid c (Option.some.inj hc ▸ List.mem_cons_self)

theorem IsWord.reverse (hword : IsWord word) : IsWord word.reverse where
  nonempty := by simpa using hword.nonempty
  solid c hc := hword.solid c (List.mem_reverse.1 hc)

theorem trim_padded (hfront : IsPadding front) (hword : IsWord word) (hback : IsPadding back) :
    trim (front ++ word ++ back) = word := by
  have hlast : IsPadding back.reverse := fun c hc => hback c (List.mem_reverse.1 hc)
  have hends := hword.reverse.solid_head []
  rw [List.append_nil] at hends
  rw [trim, List.append_assoc, dropWhile_padding hfront (hword.solid_head back),
    List.reverse_append, dropWhile_padding hlast hends, List.reverse_reverse]

theorem trim_eq_word_iff (hword : IsWord word) :
    trim text = word ↔
      ∃ front back, IsPadding front ∧ IsPadding back ∧ text = front ++ word ++ back := by
  constructor
  · rintro rfl
    exact exists_padding text
  · rintro ⟨front, back, hfront, hback, rfl⟩
    exact trim_padded hfront hword hback

/-! ## Numerals as words -/

theorem isBlank_digitChar {digit : Nat} (hdigit : digit < 10) :
    isBlank (digitChar digit) = false := by
  interval_cases digit <;> decide

theorem IsDecimal.isWord (hdecimal : IsDecimal number text) : IsWord text := by
  obtain ⟨digits, hnonempty, hsmall, rfl, -⟩ := hdecimal
  refine ⟨by simpa using hnonempty, fun c hc => ?_⟩
  obtain ⟨digit, hdigit, rfl⟩ := List.mem_map.1 hc
  exact isBlank_digitChar (hsmall digit hdigit)

theorem IsWord.cons {c : Char} (hword : IsWord text) (hsolid : isBlank c = false) :
    IsWord (c :: text) :=
  ⟨List.cons_ne_nil _ _, List.forall_mem_cons.2 ⟨hsolid, hword.solid⟩⟩

theorem IsInteger.isWord (hinteger : IsInteger value text) : IsWord text := by
  cases hinteger with
  | plain hdecimal => exact hdecimal.isWord
  | plus hdecimal | minus hdecimal => exact hdecimal.isWord.cons (by decide)

end MemoryReclaim.Text
