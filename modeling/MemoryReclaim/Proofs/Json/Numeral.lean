import MemoryReclaim.Json.Writer
import MemoryReclaim.Proofs.Text.Numeral

/-!
# Numerals inside a document

A numeral is spelled with one or more digits and no zero in front of others, then perhaps a
point and digits, then perhaps an exponent.  It goes on as far as it can, so what follows it
must not look like more of it.  A whole number has one numeral only.
-/

namespace MemoryReclaim.Json

open MemoryReclaim.Text

variable {digits whole fraction exponent : List Nat} {negative exponentNegative : Bool}
variable {numeral : Numeral} {text rest : List Char} {value : Int}

/-! ## Spelling -/

structure IsRun (digits : List Nat) : Prop where
  nonempty : digits ≠ []
  lt_ten : ∀ digit ∈ digits, digit < 10

/-- A run of digits that begins with a zero only if that is all. -/
structure IsWhole (digits : List Nat) : Prop extends IsRun digits where
  no_zero : digits.head? = some 0 → digits = [0]

inductive FractionSpelled : List Nat → List Char → Prop
  | none : FractionSpelled [] []
  | point {digits : List Nat} (hrun : IsRun digits) :
      FractionSpelled digits ('.' :: writeDigits digits)

def IsPowerMark (mark : Char) : Prop := mark = 'e' ∨ mark = 'E'

inductive PowerSpelled : Bool → List Nat → List Char → Prop
  | none : PowerSpelled false [] []
  | unsigned {mark : Char} {digits : List Nat} (hmark : IsPowerMark mark) (hrun : IsRun digits) :
      PowerSpelled false digits (mark :: writeDigits digits)
  | plus {mark : Char} {digits : List Nat} (hmark : IsPowerMark mark) (hrun : IsRun digits) :
      PowerSpelled false digits (mark :: '+' :: writeDigits digits)
  | minus {mark : Char} {digits : List Nat} (hmark : IsPowerMark mark) (hrun : IsRun digits) :
      PowerSpelled true digits (mark :: '-' :: writeDigits digits)

inductive UnsignedSpelled : Decimal.Digits → List Char → Prop
  | mk {whole fraction exponent : List Nat} {exponentNegative : Bool}
      {afterWhole afterFraction : List Char} (hwhole : IsWhole whole)
      (hfraction : FractionSpelled fraction afterWhole)
      (hpower : PowerSpelled exponentNegative exponent afterFraction) :
      UnsignedSpelled ⟨whole, fraction, exponentNegative, exponent⟩
        (writeDigits whole ++ afterWhole ++ afterFraction)

inductive NumeralSpelled : Numeral → List Char → Prop
  | positive {digits : Decimal.Digits} {text : List Char} (hdigits : UnsignedSpelled digits text) :
      NumeralSpelled ⟨false, digits⟩ text
  | negative {digits : Decimal.Digits} {text : List Char} (hdigits : UnsignedSpelled digits text) :
      NumeralSpelled ⟨true, digits⟩ ('-' :: text)

/-- The text does not begin like more of a numeral. -/
def EndsNumeral (text : List Char) : Prop :=
  ∀ c ∈ text.head?, digitOf? c = none ∧ c ≠ '.' ∧ ¬ IsPowerMark c

/-! ## Reading -/

/-- The text does not begin with a digit. -/
def EndsRun (text : List Char) : Prop := ∀ c ∈ text.head?, digitOf? c = none

theorem EndsNumeral.run (hends : EndsNumeral rest) : EndsRun rest :=
  fun c hc => (hends c hc).1

theorem endsRun_cons {c : Char} (hother : digitOf? c = none) (text : List Char) :
    EndsRun (c :: text) := by
  intro d hd
  rwa [← Option.some.inj hd]

theorem IsPowerMark.endsRun {mark : Char} (hmark : IsPowerMark mark) (text : List Char) :
    EndsRun (mark :: text) := by
  rcases hmark with rfl | rfl <;> exact endsRun_cons (by decide) text

theorem FractionSpelled.endsRun (hfraction : FractionSpelled fraction text)
    (hrest : EndsRun rest) : EndsRun (text ++ rest) := by
  cases hfraction with
  | none => exact hrest
  | point hrun => exact endsRun_cons (by decide) _

theorem PowerSpelled.endsRun (hpower : PowerSpelled exponentNegative exponent text)
    (hrest : EndsRun rest) : EndsRun (text ++ rest) := by
  cases hpower with
  | none => exact hrest
  | unsigned hmark _ | plus hmark _ | minus hmark _ => exact hmark.endsRun _

theorem takeDigits_of_run (hdigits : ∀ digit ∈ digits, digit < 10) (hrest : EndsRun rest) :
    takeDigits (writeDigits digits ++ rest) = (digits, rest) := by
  induction digits with
  | nil =>
      cases rest with
      | nil => rfl
      | cons c later =>
          have hother : digitOf? c = none := hrest c rfl
          rw [writeDigits, List.map_nil, List.nil_append, takeDigits, hother]
  | cons digit later ih =>
      rw [List.forall_mem_cons] at hdigits
      rw [writeDigits, List.map_cons, List.cons_append, takeDigits,
        digitOf?_digitChar hdigits.1, ← writeDigits, ih hdigits.2]

theorem readWhole?_of_whole (hwhole : IsWhole whole) (hrest : EndsRun rest) :
    readWhole? (writeDigits whole ++ rest) = some (whole, rest) := by
  rw [readWhole?, takeDigits_of_run hwhole.lt_ten hrest]
  split
  · next hnone => exact absurd (Prod.mk.inj hnone).1 hwhole.nonempty
  · next hzero =>
      have hhead := (Prod.mk.inj hzero).1
      have hlonely := hwhole.no_zero (by rw [hhead]; rfl)
      rw [hhead] at hlonely
      simp at hlonely
  · rfl

theorem readFraction?_of_spelled (hfraction : FractionSpelled fraction text)
    (hrest : EndsRun rest) (hpoint : ∀ c ∈ rest.head?, c ≠ '.') :
    readFraction? (text ++ rest) = some (fraction, rest) := by
  cases hfraction with
  | none =>
      rw [List.nil_append, readFraction?.eq_def]
      split
      · next hdot => exact absurd rfl (hpoint '.' rfl)
      · rfl
  | point hrun =>
      rw [List.cons_append, readFraction?, takeDigits_of_run hrun.lt_ten hrest]
      split
      · next hnone => exact absurd (Prod.mk.inj hnone).1 hrun.nonempty
      · rfl

theorem readSign_of_digits (hrun : IsRun digits) (rest : List Char) :
    readSign (writeDigits digits ++ rest) = (false, writeDigits digits ++ rest) := by
  obtain ⟨hnonempty, hdigits⟩ := hrun
  cases digits with
  | nil => exact absurd rfl hnonempty
  | cons digit later =>
      have hdigit := digitOf?_digitChar (hdigits digit List.mem_cons_self)
      have hplus : digitOf? '+' = none := by decide
      have hminus : digitOf? '-' = none := by decide
      rw [readSign.eq_def]
      split
      · next heq =>
          rw [(List.cons.inj heq).1, hplus] at hdigit
          simp at hdigit
      · next heq =>
          rw [(List.cons.inj heq).1, hminus] at hdigit
          simp at hdigit
      · rfl

theorem readPower?_of_mark {mark : Char} (hmark : IsPowerMark mark) {after : List Char}
    (hsign : readSign after = (negative, writeDigits digits ++ rest)) (hrun : IsRun digits)
    (hrest : EndsRun rest) : readPower? (mark :: after) = some (negative, digits, rest) := by
  have htest : (mark = 'e' || mark = 'E') = true := by
    rcases hmark with rfl | rfl <;> decide
  simp only [readPower?, hsign, takeDigits_of_run hrun.lt_ten hrest, htest, if_true]
  split
  · next hnone => exact absurd (Prod.mk.inj hnone).1 hrun.nonempty
  · next hfound =>
      obtain ⟨rfl, rfl⟩ := Prod.mk.inj hfound
      rfl

theorem readPower?_of_spelled (hpower : PowerSpelled exponentNegative exponent text)
    (hrest : EndsNumeral rest) :
    readPower? (text ++ rest) = some (exponentNegative, exponent, rest) := by
  cases hpower with
  | none =>
      cases rest with
      | nil => rfl
      | cons c later =>
          have hother : ¬ IsPowerMark c := (hrest c rfl).2.2
          rw [List.nil_append, readPower?, if_neg (by simpa [IsPowerMark] using hother)]
  | unsigned hmark hrun => exact readPower?_of_mark hmark (readSign_of_digits hrun _) hrun hrest.run
  | plus hmark hrun => exact readPower?_of_mark hmark rfl hrun hrest.run
  | minus hmark hrun => exact readPower?_of_mark hmark rfl hrun hrest.run

theorem PowerSpelled.no_point (hpower : PowerSpelled exponentNegative exponent text)
    (hrest : EndsNumeral rest) : ∀ c ∈ (text ++ rest).head?, c ≠ '.' := by
  have hmarked : ∀ {mark : Char}, IsPowerMark mark → ∀ after : List Char,
      ∀ c ∈ (mark :: after).head?, c ≠ '.' := by
    intro mark hmark after c hc
    rw [← Option.some.inj hc]
    rcases hmark with rfl | rfl <;> decide
  cases hpower with
  | none => exact fun c hc => (hrest c hc).2.1
  | unsigned hmark _ | plus hmark _ | minus hmark _ => exact hmarked hmark _

theorem readUnsignedNumeral?_of_spelled {digits : Decimal.Digits}
    (hdigits : UnsignedSpelled digits text) (hrest : EndsNumeral rest) (negative : Bool) :
    readUnsignedNumeral? negative (text ++ rest) = some (⟨negative, digits⟩, rest) := by
  cases hdigits with
  | mk hwhole hfraction hpower =>
      have hafterPower := hpower.endsRun hrest.run
      rw [readUnsignedNumeral?, List.append_assoc, List.append_assoc,
        readWhole?_of_whole hwhole (hfraction.endsRun hafterPower)]
      simp only [Option.bind_eq_bind, Option.bind_some,
        readFraction?_of_spelled hfraction hafterPower (hpower.no_point hrest),
        readPower?_of_spelled hpower hrest]

/-- The first character tells that a numeral follows. -/
theorem UnsignedSpelled.head_digit {digits : Decimal.Digits}
    (hdigits : UnsignedSpelled digits text) :
    ∃ digit < 10, ∃ later, text = digitChar digit :: later := by
  cases hdigits with
  | @mk whole _ _ _ afterWhole afterFraction hwhole _ _ =>
      cases whole with
      | nil => exact absurd rfl hwhole.nonempty
      | cons digit later =>
          exact ⟨digit, hwhole.lt_ten digit List.mem_cons_self, _, rfl⟩

theorem readNumeral?_of_spelled (hnumeral : NumeralSpelled numeral text)
    (hrest : EndsNumeral rest) : readNumeral? (text ++ rest) = some (numeral, rest) := by
  cases hnumeral with
  | negative hdigits =>
      rw [List.cons_append, readNumeral?]
      exact readUnsignedNumeral?_of_spelled hdigits hrest true
  | positive hdigits =>
      obtain ⟨digit, hdigit, later, htext⟩ := hdigits.head_digit
      have hminus : digitOf? '-' = none := by decide
      rw [readNumeral?.eq_2]
      · exact readUnsignedNumeral?_of_spelled hdigits hrest false
      · intro after hafter
        rw [htext, List.cons_append] at hafter
        have hread := digitOf?_digitChar hdigit
        rw [(List.cons.inj hafter).1, hminus] at hread
        simp at hread

/-! ## Whole numbers -/

/-- A numeral without point and exponent that stands for the number.  Minus zero does not. -/
structure Numeral.IsInteger (numeral : Numeral) (value : Int) : Prop where
  fraction_eq : numeral.digits.fraction = []
  exponent_eq : numeral.digits.exponent = []
  magnitude_eq : Nat.ofDigits 10 numeral.digits.whole.reverse = value.natAbs
  negative_iff : numeral.negative = true ↔ value < 0

theorem Numeral.int?_eq_some_iff : numeral.int? = some value ↔ numeral.IsInteger value := by
  obtain ⟨negative, whole, fraction, exponentNegative, exponent⟩ := numeral
  simp only [Numeral.int?, ofDigits_eq, Bool.and_eq_true, List.isEmpty_iff]
  constructor
  · intro hvalue
    split at hvalue
    · next hplain =>
        cases negative with
        | false =>
            simp only [Bool.false_eq_true, if_false, Option.some.injEq] at hvalue
            subst hvalue
            exact ⟨hplain.1, hplain.2, rfl, by simp⟩
        | true =>
            simp only [if_true] at hvalue
            split at hvalue
            · simp at hvalue
            · next hnonzero =>
                simp only [Option.some.injEq] at hvalue
                subst hvalue
                refine ⟨hplain.1, hplain.2, by simp, ?_⟩
                simp only [true_iff, Int.ofNat_eq_natCast]
                omega
    · simp at hvalue
  · rintro ⟨hfraction, hexponent, hmagnitude, hnegative⟩
    simp only at hfraction hexponent hmagnitude hnegative
    rw [if_pos ⟨hfraction, hexponent⟩, hmagnitude]
    cases negative with
    | false =>
        simp only [Bool.false_eq_true, false_iff] at hnegative
        simp only [Bool.false_eq_true, if_false, Int.ofNat_eq_natCast, Option.some.injEq]
        omega
    | true =>
        simp only [true_iff] at hnegative
        rw [if_pos rfl, if_neg (by omega), Option.some.injEq, Int.ofNat_eq_natCast]
        omega

/-- A numeral that can be spelled. -/
structure Numeral.IsWritable (numeral : Numeral) : Prop where
  whole : IsWhole numeral.digits.whole
  fraction_lt_ten : ∀ digit ∈ numeral.digits.fraction, digit < 10
  exponent_lt_ten : ∀ digit ∈ numeral.digits.exponent, digit < 10
  exponentNegative : numeral.digits.exponent = [] → numeral.digits.exponentNegative = false

theorem isWhole_digits (number : Nat) : IsWhole (Text.digits number) where
  nonempty := digits_ne_nil number
  lt_ten _ := digits_lt_ten
  no_zero hzero := by
    rcases Nat.eq_zero_or_pos number with rfl | hpositive
    · rfl
    · exact absurd hzero (head_digits_ne_zero hpositive)

theorem Numeral.ofInt_isWritable (value : Int) : (Numeral.ofInt value).IsWritable where
  whole := isWhole_digits _
  fraction_lt_ten := by simp [Numeral.ofInt]
  exponent_lt_ten := by simp [Numeral.ofInt]
  exponentNegative _ := rfl

theorem Numeral.ofInt_isInteger (value : Int) : (Numeral.ofInt value).IsInteger value where
  fraction_eq := rfl
  exponent_eq := rfl
  magnitude_eq := (ofDigits_eq _).symm.trans (ofDigits_digits _)
  negative_iff := by simp [Numeral.ofInt]

theorem spelled_writeFraction (hdigits : ∀ digit ∈ fraction, digit < 10) :
    FractionSpelled fraction (writeFraction fraction) := by
  rw [writeFraction]
  split
  · next hempty =>
      rw [List.isEmpty_iff.1 hempty]
      exact .none
  · next hnonempty => exact .point ⟨by simpa using hnonempty, hdigits⟩

theorem spelled_writePower (hdigits : ∀ digit ∈ exponent, digit < 10)
    (hsign : exponent = [] → exponentNegative = false) :
    PowerSpelled exponentNegative exponent (writePower exponentNegative exponent) := by
  rw [writePower]
  split
  · next hempty =>
      rw [List.isEmpty_iff.1 hempty, hsign (List.isEmpty_iff.1 hempty)]
      exact .none
  · next hnonempty =>
      have hrun : IsRun exponent := ⟨by simpa using hnonempty, hdigits⟩
      cases exponentNegative with
      | false => exact .unsigned (.inl rfl) hrun
      | true => exact .minus (.inl rfl) hrun

theorem spelled_writeNumeral (hwritable : numeral.IsWritable) :
    NumeralSpelled numeral (writeNumeral numeral) := by
  obtain ⟨negative, digits⟩ := numeral
  have hdigits : UnsignedSpelled digits (writeDigits digits.whole ++
      writeFraction digits.fraction ++ writePower digits.exponentNegative digits.exponent) :=
    .mk hwritable.whole (spelled_writeFraction hwritable.fraction_lt_ten)
      (spelled_writePower hwritable.exponent_lt_ten hwritable.exponentNegative)
  cases negative with
  | false => exact .positive hdigits
  | true => exact .negative hdigits

end MemoryReclaim.Json
