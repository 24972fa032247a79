import Mathlib.Tactic.IntervalCases
import MemoryReclaim.Json.Writer

/-!
# Texts inside a document

A text is spelled piece by piece: a character stands for itself or is escaped, and a code
unit is given by four hexadecimal digits in either case.  What a text denotes is another
matter: code units of surrogates count in pairs only.  `Spelled` is about the first,
`Denotes` about the second.
-/

namespace MemoryReclaim.Json

open MemoryReclaim.Text

variable {pieces : List Piece} {chars text rest : List Char}

/-! ## Spelling -/

/-- The letters that follow a backslash, each with the character it stands for. -/
def shortEscapes : List (Char × Char) :=
  [('"', '"'), ('\\', '\\'), ('/', '/'), ('b', '\x08'), ('f', '\x0c'), ('n', '\n'), ('r', '\r'),
    ('t', '\t')]

/-- A hexadecimal digit, in lower or upper case. -/
def IsHex (value : Nat) (c : Char) : Prop :=
  value < 16 ∧ (c = hexDigit value ∨ c = (hexDigit value).toUpper)

inductive Piece.Spelled : Piece → List Char → Prop
  | plain {c : Char} (hquote : c ≠ '"') (hescape : c ≠ '\\') (hprintable : 0x20 ≤ c.toNat) :
      Piece.Spelled (.char c) [c]
  | short {letter c : Char} (hletter : (letter, c) ∈ shortEscapes) :
      Piece.Spelled (.char c) ['\\', letter]
  | unit {one two three four : Nat} {first second third fourth : Char} (hfirst : IsHex one first)
      (hsecond : IsHex two second) (hthird : IsHex three third) (hfourth : IsHex four fourth) :
      Piece.Spelled (.unit (((one * 16 + two) * 16 + three) * 16 + four))
        ['\\', 'u', first, second, third, fourth]

/-- The spellings of the pieces, one after the other. -/
inductive PiecesSpelled : List Piece → List Char → Prop
  | nil : PiecesSpelled [] []
  | cons {piece : Piece} {pieces : List Piece} {spelling later : List Char}
      (hpiece : piece.Spelled spelling) (hlater : PiecesSpelled pieces later) :
      PiecesSpelled (piece :: pieces) (spelling ++ later)

theorem IsHex.hexValue? {value : Nat} {c : Char} (hhex : IsHex value c) :
    hexValue? c = some value := by
  obtain ⟨hsmall, rfl | rfl⟩ := hhex <;> interval_cases value <;> rfl

theorem shortEscape?_of_mem {letter c : Char} (hletter : (letter, c) ∈ shortEscapes) :
    shortEscape? letter = some c ∧ letter ≠ 'u' := by
  simp only [shortEscapes, List.mem_cons, Prod.mk.injEq, List.not_mem_nil, or_false] at hletter
  rcases hletter with ⟨rfl, rfl⟩ | ⟨rfl, rfl⟩ | ⟨rfl, rfl⟩ | ⟨rfl, rfl⟩ | ⟨rfl, rfl⟩ | ⟨rfl, rfl⟩ |
    ⟨rfl, rfl⟩ | ⟨rfl, rfl⟩ <;> exact ⟨rfl, by decide⟩

theorem readText?_quote (rest : List Char) : readText? ('"' :: rest) = some ([], rest) := by
  rw [readText?]

theorem readText?_piece {piece : Piece} {spelling : List Char} (hpiece : piece.Spelled spelling)
    (text : List Char) :
    readText? (spelling ++ text) =
      (readText? text).map fun (pieces, after) => (piece :: pieces, after) := by
  cases hpiece with
  | @plain c hquote hescape hprintable =>
      rw [List.singleton_append, readText?.eq_5 _ _ hquote (fun _ _ _ _ _ h _ => hescape h)
        (fun _ _ h _ => hescape h), if_neg (Nat.not_lt.2 hprintable)]
  | @short letter c hletter =>
      obtain ⟨hescape, hne⟩ := shortEscape?_of_mem hletter
      rw [List.cons_append, List.singleton_append,
        readText?.eq_4 _ _ (fun _ _ _ _ _ h _ => hne h), hescape]
      cases readText? text <;> rfl
  | unit hfirst hsecond hthird hfourth =>
      simp only [List.cons_append, List.nil_append]
      rw [readText?, codeUnit?, hfirst.hexValue?, hsecond.hexValue?, hthird.hexValue?,
        hfourth.hexValue?]
      cases readText? text <;> rfl

/-- Reading takes a spelled text up to its closing quote, and no further. -/
theorem readText?_of_spelled (hpieces : PiecesSpelled pieces text) (rest : List Char) :
    readText? (text ++ '"' :: rest) = some (pieces, rest) := by
  induction hpieces with
  | nil => exact readText?_quote rest
  | cons hpiece _ ih => rw [List.append_assoc, readText?_piece hpiece, ih, Option.map_some]

/-! ## Written texts -/

/-- What is read where the piece was written: a control character without a short escape is
written as a code unit. -/
def Piece.asWritten : Piece → Piece
  | .char c =>
      if c.toNat < 0x20 ∧ c ∉ shortEscapes.map Prod.snd then .unit c.toNat else .char c
  | .unit code => .unit code

/-- A code unit has sixteen bits. -/
def Piece.IsWritable : Piece → Prop
  | .char _ => True
  | .unit code => code < 0x10000

theorem isHex_hexDigit {value : Nat} (hsmall : value < 16) : IsHex value (hexDigit value) :=
  ⟨hsmall, .inl rfl⟩

theorem spelled_writeUnit {code : Nat} (hcode : code < 0x10000) :
    (Piece.unit code).Spelled (writeUnit code) := by
  have hsplit : ((code / 4096 % 16 * 16 + code / 256 % 16) * 16 + code / 16 % 16) * 16 +
      code % 16 = code := by
    omega
  have hdigit : ∀ part, IsHex (part % 16) (hexDigit (part % 16)) := fun part =>
    isHex_hexDigit (Nat.mod_lt _ (by decide))
  have hspelled := Piece.Spelled.unit (hdigit (code / 4096)) (hdigit (code / 256))
    (hdigit (code / 16)) (hdigit code)
  rwa [hsplit] at hspelled

theorem spelled_writeChar (c : Char) : (Piece.char c).asWritten.Spelled (writeChar c) := by
  by_cases hshort : c ∈ shortEscapes.map Prod.snd
  · rw [Piece.asWritten, if_neg fun hboth => hboth.2 hshort]
    simp only [shortEscapes, List.map_cons, List.map_nil, List.mem_cons, List.not_mem_nil,
      or_false] at hshort
    rcases hshort with rfl | rfl | rfl | rfl | rfl | rfl | rfl | rfl
    case inr.inr.inl => exact .plain (by decide) (by decide) (by decide)
    all_goals exact .short (by decide)
  · have hwrite : writeChar c = if c.toNat < 0x20 then writeUnit c.toNat else [c] := by
      simp only [shortEscapes, List.map_cons, List.map_nil, List.mem_cons, List.not_mem_nil,
        or_false, not_or] at hshort
      obtain ⟨h1, h2, -, h4, h5, h6, h7, h8⟩ := hshort
      simp [writeChar, h1, h2, h4, h5, h6, h7, h8]
    rw [hwrite, Piece.asWritten]
    by_cases hcontrol : c.toNat < 0x20
    · rw [if_pos ⟨hcontrol, hshort⟩, if_pos hcontrol]
      exact spelled_writeUnit (by omega)
    · rw [if_neg fun hboth => hcontrol hboth.1, if_neg hcontrol]
      refine .plain ?_ ?_ (Nat.not_lt.1 hcontrol)
      · rintro rfl
        exact hshort (by decide)
      · rintro rfl
        exact hshort (by decide)

theorem spelled_writePiece {piece : Piece} (hwritable : piece.IsWritable) :
    piece.asWritten.Spelled (writePiece piece) := by
  cases piece with
  | char c => exact spelled_writeChar c
  | unit code => exact spelled_writeUnit hwritable

theorem spelled_writePieces (hwritable : ∀ piece ∈ pieces, piece.IsWritable) :
    PiecesSpelled (pieces.map Piece.asWritten) (pieces.flatMap writePiece) := by
  induction pieces with
  | nil => exact .nil
  | cons piece later ih =>
      rw [List.forall_mem_cons] at hwritable
      exact .cons (spelled_writePiece hwritable.1) (ih hwritable.2)

/-! ## Meaning -/

/-- The characters that pieces stand for: a character beyond sixteen bits is a leading and a
trailing surrogate, and no other code unit is a surrogate. -/
inductive Denotes : List Piece → List Char → Prop
  | nil : Denotes [] []
  | char (c : Char) {pieces : List Piece} {chars : List Char} (hlater : Denotes pieces chars) :
      Denotes (.char c :: pieces) (c :: chars)
  | unit {code : Nat} {pieces : List Piece} {chars : List Char}
      (hsingle : code < 0xd800 ∨ 0xe000 ≤ code) (hlater : Denotes pieces chars) :
      Denotes (.unit code :: pieces) (Char.ofNat code :: chars)
  | pair {leading trailing : Nat} {pieces : List Piece} {chars : List Char}
      (hleading : 0xd800 ≤ leading ∧ leading < 0xdc00)
      (htrailing : 0xdc00 ≤ trailing ∧ trailing < 0xe000) (hlater : Denotes pieces chars) :
      Denotes (.unit leading :: .unit trailing :: pieces)
        (Char.ofNat (0x10000 + (leading - 0xd800) * 0x400 + (trailing - 0xdc00)) :: chars)

theorem isLeading_iff {code : Nat} : isLeading code = true ↔ 0xd800 ≤ code ∧ code < 0xdc00 := by
  simp [isLeading]

theorem isTrailing_iff {code : Nat} :
    isTrailing code = true ↔ 0xdc00 ≤ code ∧ code < 0xe000 := by
  simp [isTrailing]

theorem isSingle_iff {code : Nat} :
    (isLeading code = false ∧ isTrailing code = false) ↔ (code < 0xd800 ∨ 0xe000 ≤ code) := by
  simp only [isLeading, isTrailing, Bool.and_eq_false_iff, decide_eq_false_iff_not]
  omega

theorem resolve_char (c : Char) (pieces : List Piece) :
    resolve (.char c :: pieces) = (resolve pieces).map (c :: ·) := by
  rw [resolve]

theorem resolve_unit {code : Nat} (hsingle : code < 0xd800 ∨ 0xe000 ≤ code)
    (pieces : List Piece) :
    resolve (.unit code :: pieces) = (resolve pieces).map (Char.ofNat code :: ·) := by
  obtain ⟨hleading, htrailing⟩ := isSingle_iff.2 hsingle
  cases pieces with
  | nil => simp [resolve, hleading, htrailing]
  | cons piece later => cases piece <;> simp [resolve, hleading, htrailing]

theorem resolve_pair {leading trailing : Nat} (hleading : isLeading leading = true)
    (htrailing : isTrailing trailing = true) (pieces : List Piece) :
    resolve (.unit leading :: .unit trailing :: pieces) =
      (resolve pieces).map (combine leading trailing :: ·) := by
  simp [resolve, hleading, htrailing]

/-- Resolving finds what the pieces denote, exactly when they denote anything. -/
theorem resolve_eq_some_iff : resolve pieces = some chars ↔ Denotes pieces chars := by
  constructor
  · intro hresolve
    induction pieces using resolve.induct generalizing chars with
    | case1 => exact (Option.some.inj hresolve) ▸ .nil
    | case2 c later ih =>
        rw [resolve_char] at hresolve
        obtain ⟨others, hothers, rfl⟩ := Option.map_eq_some_iff.1 hresolve
        exact .char c (ih hothers)
    | case3 leading trailing later hleading htrailing ih =>
        rw [resolve_pair hleading htrailing] at hresolve
        obtain ⟨others, hothers, rfl⟩ := Option.map_eq_some_iff.1 hresolve
        exact .pair (isLeading_iff.1 hleading) (isTrailing_iff.1 htrailing) (ih hothers)
    | case4 leading trailing later hleading htrailing =>
        simp [resolve, hleading, htrailing] at hresolve
    | case5 leading trailing later hleading htrailing =>
        simp [resolve, hleading, htrailing] at hresolve
    | case6 leading trailing later hleading htrailing ih =>
        have hsingle := isSingle_iff.1 ⟨by simpa using hleading, by simpa using htrailing⟩
        rw [resolve_unit hsingle] at hresolve
        obtain ⟨others, hothers, rfl⟩ := Option.map_eq_some_iff.1 hresolve
        exact .unit hsingle (ih hothers)
    | case7 code later hlast hsurrogate =>
        simp [resolve, hsurrogate] at hresolve
    | case8 code later hlast hsurrogate ih =>
        have hsingle := isSingle_iff.1 (by simpa using hsurrogate)
        rw [resolve_unit hsingle] at hresolve
        obtain ⟨others, hothers, rfl⟩ := Option.map_eq_some_iff.1 hresolve
        exact .unit hsingle (ih hothers)
  · intro hdenotes
    induction hdenotes with
    | nil => rw [resolve]
    | char c _ ih => rw [resolve_char, ih, Option.map_some]
    | unit hsingle _ ih => rw [resolve_unit hsingle, ih, Option.map_some]
    | pair hleading htrailing _ ih =>
        rw [resolve_pair (isLeading_iff.2 hleading) (isTrailing_iff.2 htrailing), ih,
          Option.map_some]
        rfl

theorem Denotes.unique {others : List Char} (hchars : Denotes pieces chars)
    (hothers : Denotes pieces others) : chars = others :=
  Option.some.inj ((resolve_eq_some_iff.2 hchars).symm.trans (resolve_eq_some_iff.2 hothers))

/-- Writing a string and reading it back keeps its meaning. -/
theorem denotes_asWritten (value : String) :
    Denotes ((Tree.piecesOf value).map Piece.asWritten) value.toList := by
  rw [Tree.piecesOf, List.map_map]
  induction value.toList with
  | nil => exact .nil
  | cons c later ih =>
      rw [List.map_cons, Function.comp_apply, Piece.asWritten]
      split
      · next hcontrol =>
          have hunit := Denotes.unit (.inl (show c.toNat < 0xd800 by omega)) ih
          rwa [Char.ofNat_toNat] at hunit
      · exact .char c ih

end MemoryReclaim.Json
