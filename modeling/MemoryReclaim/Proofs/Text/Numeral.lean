import Mathlib.Data.Nat.Digits.Lemmas
import Mathlib.Tactic.IntervalCases
import Mathlib.Tactic.Ring
import MemoryReclaim.Text.Numeral

/-!
# Decimal numerals, read and written

The digits of a number are those of its expansion in base ten, most significant first, so
reading is the inverse of writing.  Reading accepts more: a numeral may begin with zeros and
with a plus sign.  `readNat?_eq_some_iff` says that it accepts nothing else, and
`readInt?_eq_some_iff` says so where a minus sign is accepted too.
-/

namespace MemoryReclaim.Text

variable {number : Nat} {text : List Char}

/-! ## Single digits -/

theorem digitOf?_digitChar {digit : Nat} (hdigit : digit < 10) :
    digitOf? (digitChar digit) = some digit := by
  interval_cases digit <;> rfl

theorem digitOf?_eq_some_iff {c : Char} {digit : Nat} :
    digitOf? c = some digit ↔ digit < 10 ∧ c = digitChar digit := by
  constructor
  · intro hdigit
    rw [digitOf?] at hdigit
    split at hdigit
    · next hrange =>
        have hlow : 48 ≤ c.toNat := hrange.1
        have hhigh : c.toNat ≤ 57 := hrange.2
        have hvalue : c.toNat - 48 = digit := Option.some.inj hdigit
        refine ⟨by omega, ?_⟩
        have hcode : '0'.toNat + digit = c.toNat := by
          rw [← hvalue]
          exact Nat.add_sub_of_le hlow
        rw [digitChar, hcode, Char.ofNat_toNat]
    · simp at hdigit
  · rintro ⟨hsmall, rfl⟩
    exact digitOf?_digitChar hsmall

/-! ## Runs of digits -/

/-- One or more ASCII digits, of which `number` is the value. -/
def IsDecimal (number : Nat) (text : List Char) : Prop :=
  ∃ digits : List Nat, digits ≠ [] ∧ (∀ digit ∈ digits, digit < 10) ∧
    text = digits.map digitChar ∧ Nat.ofDigits 10 digits.reverse = number

theorem ofDigitsFrom_eq (start : Nat) (digits : List Nat) :
    ofDigitsFrom start digits = Nat.ofDigits 10 (digits.reverse ++ [start]) := by
  induction digits generalizing start with
  | nil => exact Nat.ofDigits_singleton.symm
  | cons digit later ih =>
      rw [ofDigitsFrom, List.foldl_cons, ← ofDigitsFrom, ih, List.reverse_cons, List.append_assoc,
        Nat.ofDigits_append, Nat.ofDigits_append]
      simp only [List.cons_append, List.nil_append, Nat.ofDigits_cons, Nat.ofDigits_nil]
      ring

theorem ofDigits_eq (digits : List Nat) :
    ofDigits digits = Nat.ofDigits 10 digits.reverse := by
  rw [ofDigits, ofDigitsFrom_eq, Nat.ofDigits_append, Nat.ofDigits_singleton, Nat.mul_zero,
    Nat.add_zero]

theorem digitsOf?_map {digits : List Nat} (hdigits : ∀ digit ∈ digits, digit < 10) :
    digitsOf? (digits.map digitChar) = some digits := by
  induction digits with
  | nil => rfl
  | cons digit later ih =>
      rw [List.forall_mem_cons] at hdigits
      have hlater : (later.map digitChar).mapM digitOf? = some later := ih hdigits.2
      rw [digitsOf?, List.map_cons, List.mapM_cons, digitOf?_digitChar hdigits.1, hlater]
      rfl

theorem digitsOf?_eq_some_iff {digits : List Nat} :
    digitsOf? text = some digits ↔
      (∀ digit ∈ digits, digit < 10) ∧ text = digits.map digitChar := by
  constructor
  · intro hread
    induction text generalizing digits with
    | nil =>
        obtain rfl : [] = digits := Option.some.inj hread
        exact ⟨by simp, rfl⟩
    | cons c later ih =>
        rw [digitsOf?, List.mapM_cons] at hread
        obtain ⟨digit, hdigit, hread⟩ := Option.bind_eq_some_iff.1 hread
        obtain ⟨others, hothers, hread⟩ := Option.bind_eq_some_iff.1 hread
        obtain rfl : digit :: others = digits := Option.some.inj hread
        obtain ⟨hsmall, rfl⟩ := digitOf?_eq_some_iff.1 hdigit
        obtain ⟨hothersSmall, rfl⟩ := ih hothers
        exact ⟨List.forall_mem_cons.2 ⟨hsmall, hothersSmall⟩, rfl⟩
  · rintro ⟨hdigits, rfl⟩
    exact digitsOf?_map hdigits

theorem readUnsigned?_eq_some_iff : readUnsigned? text = some number ↔ IsDecimal number text := by
  rw [readUnsigned?]
  constructor
  · intro hread
    split at hread
    · simp at hread
    · next hnonempty =>
        obtain ⟨digits, hdigits, rfl⟩ := Option.map_eq_some_iff.1 hread
        obtain ⟨hsmall, rfl⟩ := digitsOf?_eq_some_iff.1 hdigits
        refine ⟨digits, ?_, hsmall, rfl, (ofDigits_eq digits).symm⟩
        rintro rfl
        exact hnonempty rfl
  · rintro ⟨digits, hnonempty, hsmall, rfl, rfl⟩
    rw [if_neg (by simpa using hnonempty), digitsOf?_map hsmall, Option.map_some, ofDigits_eq]

/-! ## Numerals with a sign -/

/-- Digits that a plus sign may precede. -/
inductive IsNatural (number : Nat) : List Char → Prop
  | plain {text : List Char} (hdecimal : IsDecimal number text) : IsNatural number text
  | plus {text : List Char} (hdecimal : IsDecimal number text) : IsNatural number ('+' :: text)

/-- A run of digits does not begin with a sign. -/
theorem IsDecimal.head_ne {sign : Char} (hdecimal : IsDecimal number text)
    (hsign : digitOf? sign = none) : text.head? ≠ some sign := by
  obtain ⟨digits, hnonempty, hsmall, rfl, -⟩ := hdecimal
  cases digits with
  | nil => exact absurd rfl hnonempty
  | cons digit later =>
      have hread := digitOf?_digitChar (hsmall digit List.mem_cons_self)
      intro hhead
      rw [Option.some.inj hhead, hsign] at hread
      simp at hread

theorem readNat?_eq_some_iff : readNat? text = some number ↔ IsNatural number text := by
  rw [readNat?.eq_def]
  split
  · next digits =>
      rw [readUnsigned?_eq_some_iff]
      constructor
      · exact .plus
      · rintro (hdecimal | hdecimal)
        · exact absurd rfl (hdecimal.head_ne (by decide))
        · exact hdecimal
  · next hunsigned =>
      rw [readUnsigned?_eq_some_iff]
      constructor
      · exact .plain
      · rintro (hdecimal | hdecimal)
        · exact hdecimal
        · exact absurd rfl (hunsigned _)

theorem readUInt64?_eq_some_iff :
    readUInt64? text = some number ↔
      IsNatural number text ∧ number ≤ 18446744073709551615 := by
  rw [readUInt64?, Option.filter_eq_some_iff, readNat?_eq_some_iff, fitsUInt64, decide_eq_true_eq]

/-- Digits with at most one sign before them. -/
inductive IsInteger : Int → List Char → Prop
  | plain {number : Nat} {text : List Char} (hdecimal : IsDecimal number text) :
      IsInteger number text
  | plus {number : Nat} {text : List Char} (hdecimal : IsDecimal number text) :
      IsInteger number ('+' :: text)
  | minus {number : Nat} {text : List Char} (hdecimal : IsDecimal number text) :
      IsInteger (-number) ('-' :: text)

theorem readInt?_eq_some_iff {value : Int} :
    readInt? text = some value ↔ IsInteger value text := by
  constructor
  · intro hread
    rw [readInt?.eq_def] at hread
    split at hread
    all_goals
      obtain ⟨number, hnumber, rfl⟩ := Option.map_eq_some_iff.1 hread
      rw [readUnsigned?_eq_some_iff] at hnumber
    · exact .plus hnumber
    · exact .minus hnumber
    · exact .plain hnumber
  · rintro (hdecimal | hdecimal | hdecimal)
    · -- Neither sign is a digit, so the branches for signs are not taken.
      have hread := readUnsigned?_eq_some_iff.2 hdecimal
      rw [readInt?.eq_def]
      split
      · exact absurd rfl (hdecimal.head_ne (by decide))
      · exact absurd rfl (hdecimal.head_ne (by decide))
      · rw [hread]
        rfl
    · rw [readInt?, readUnsigned?_eq_some_iff.2 hdecimal]
      rfl
    · rw [readInt?, readUnsigned?_eq_some_iff.2 hdecimal]
      rfl

theorem readInt32?_eq_some_iff {value : Int} :
    readInt32? text = some value ↔
      IsInteger value text ∧ -2147483648 ≤ value ∧ value ≤ 2147483647 := by
  rw [readInt32?, Option.filter_eq_some_iff, readInt?_eq_some_iff, fitsInt32, Bool.and_eq_true,
    decide_eq_true_eq, decide_eq_true_eq]

/-! ## Written numerals -/

theorem digitsWith_eq {fuel : Nat} (hpositive : 0 < number) (hfuel : number < fuel)
    (later : List Nat) :
    digitsWith fuel number later = (Nat.digits 10 number).reverse ++ later := by
  induction fuel generalizing number later with
  | zero => exact absurd hfuel (Nat.not_lt_zero _)
  | succ fuel ih =>
      rw [digitsWith]
      split
      · next hsmall =>
          rw [Nat.digits_of_lt 10 number hpositive.ne' hsmall]
          rfl
      · rw [ih (by omega) (by omega), Nat.digits_def' (by decide) hpositive, List.reverse_cons,
          List.append_assoc]
        rfl

theorem digits_zero : digits 0 = [0] := rfl

theorem digits_of_pos (hpositive : 0 < number) :
    digits number = (Nat.digits 10 number).reverse := by
  rw [digits, digitsWith_eq hpositive (Nat.lt_succ_self _), List.append_nil]

theorem digits_ne_nil (number : Nat) : digits number ≠ [] := by
  rcases Nat.eq_zero_or_pos number with rfl | hpositive
  · decide
  · rw [digits_of_pos hpositive, Ne, List.reverse_eq_nil_iff, Nat.digits_eq_nil_iff_eq_zero]
    exact hpositive.ne'

theorem digits_lt_ten {digit : Nat} (hdigit : digit ∈ digits number) : digit < 10 := by
  rcases Nat.eq_zero_or_pos number with rfl | hpositive
  · simp_all [digits_zero]
  · rw [digits_of_pos hpositive, List.mem_reverse] at hdigit
    exact Nat.digits_lt_base (by decide) hdigit

theorem ofDigits_digits (number : Nat) : ofDigits (digits number) = number := by
  rw [ofDigits_eq]
  rcases Nat.eq_zero_or_pos number with rfl | hpositive
  · rfl
  · rw [digits_of_pos hpositive, List.reverse_reverse, Nat.ofDigits_digits]

/-- Only zero is written with a zero in front. -/
theorem head_digits_ne_zero (hpositive : 0 < number) : (digits number).head? ≠ some 0 := by
  rw [digits_of_pos hpositive, List.head?_reverse]
  intro hzero
  have hnonempty := (Nat.digits_ne_nil_iff_ne_zero (b := 10)).2 hpositive.ne'
  rw [List.getLast?_eq_some_getLast hnonempty] at hzero
  exact Nat.getLast_digit_ne_zero 10 hpositive.ne' (Option.some.inj hzero)

theorem isDecimal_writeNat (number : Nat) : IsDecimal number (writeNat number) :=
  ⟨digits number, digits_ne_nil number, fun _ => digits_lt_ten, rfl,
    (ofDigits_eq _).symm.trans (ofDigits_digits number)⟩

theorem isInteger_writeInt : ∀ value : Int, IsInteger value (writeInt value)
  | .ofNat number => .plain (isDecimal_writeNat number)
  | .negSucc number => .minus (isDecimal_writeNat (number + 1))

end MemoryReclaim.Text
