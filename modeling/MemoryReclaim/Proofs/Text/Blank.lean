import MemoryReclaim.Text.Blank

/-!
# Words between blanks

A text is cut into words at its blanks in one way only: `words_eq_iff` says that `words`
finds the cut.  What stands before the first word, or behind the last one, does not matter.
-/

namespace MemoryReclaim.Text

variable {gap word rest text : List Char} {found : List (List Char)}

/-- Not empty, and free of blanks. -/
structure IsWord (word : List Char) : Prop where
  nonempty : word ≠ []
  solid : ∀ c ∈ word, isBlank c = false

/-- The text is at its end or goes on with a blank. -/
def IsApart (text : List Char) : Prop := ∀ c ∈ text.head?, isBlank c = true

@[simp]
theorem isApart_nil : IsApart [] := by simp [IsApart]

@[simp]
theorem isApart_cons {c : Char} : IsApart (c :: rest) ↔ isBlank c = true := by simp [IsApart]

/-- The text is blanks and words by turns, where a blank follows every word but a last one. -/
inductive Cut : List Char → List (List Char) → Prop
  | blank {gap : List Char} (hgap : ∀ c ∈ gap, isBlank c = true) : Cut gap []
  | word {gap word rest : List Char} {later : List (List Char)}
      (hgap : ∀ c ∈ gap, isBlank c = true) (hword : IsWord word) (happart : IsApart rest)
      (hlater : Cut rest later) : Cut (gap ++ word ++ rest) (word :: later)

theorem words_of_blank {c : Char} (hblank : isBlank c = true) (text : List Char) :
    words (c :: text) = words text := by
  rw [words.eq_def]
  exact if_pos hblank

theorem words_gap (hgap : ∀ c ∈ gap, isBlank c = true) (text : List Char) :
    words (gap ++ text) = words text := by
  induction gap with
  | nil => rfl
  | cons c later ih =>
      rw [List.forall_mem_cons] at hgap
      rw [List.cons_append, words_of_blank hgap.1, ih hgap.2]

theorem words_word (hword : IsWord word) (happart : IsApart rest) :
    words (word ++ rest) = word :: words rest := by
  obtain ⟨hnonempty, hsolid⟩ := hword
  induction word with
  | nil => exact absurd rfl hnonempty
  | cons c later ih =>
      rw [List.forall_mem_cons] at hsolid
      rw [List.cons_append, words.eq_def]
      simp only [hsolid.1, Bool.false_eq_true, if_false]
      cases later with
      | cons d others =>
          have hlater := ih (List.cons_ne_nil _ _) hsolid.2
          have hsolidNext : isBlank d = false := hsolid.2 d List.mem_cons_self
          rw [List.cons_append] at hlater ⊢
          simp [hlater, hsolidNext]
      | nil =>
          cases rest with
          | nil => rfl
          | cons b others =>
              have hblank : isBlank b = true := isApart_cons.1 happart
              cases hwords : words (b :: others) with
              | nil => simp [hwords]
              | cons first more => simp [hwords, hblank]

/-- A word at the head of a cut begins with the text, if that does not begin with a blank. -/
theorem Cut.of_head {c : Char} (hcut : Cut (c :: rest) (word :: found))
    (hsolid : isBlank c = false) :
    ∃ after, c :: rest = word ++ after ∧ IsWord word ∧ IsApart after ∧ Cut after found := by
  generalize htext : c :: rest = text at hcut
  cases hcut with
  | @word gap _ after _ hgap hword happart hlater =>
      cases gap with
      | nil => exact ⟨after, rfl, hword, happart, hlater⟩
      | cons b others =>
          have hhead : c = b := (List.cons.inj htext).1
          rw [hhead, hgap b List.mem_cons_self] at hsolid
          exact absurd hsolid (by decide)

theorem Cut.head (hword : IsWord word) (happart : IsApart rest) (hlater : Cut rest found) :
    Cut (word ++ rest) (word :: found) :=
  @Cut.word [] word rest found (by simp) hword happart hlater

theorem Cut.blank_of_nil (hcut : Cut text []) : ∀ c ∈ text, isBlank c = true := by
  cases hcut with
  | blank hgap => exact hgap

theorem Cut.blank_cons {c : Char} (hcut : Cut text found) (hblank : isBlank c = true) :
    Cut (c :: text) found := by
  cases hcut with
  | blank hgap => exact .blank (List.forall_mem_cons.2 ⟨hblank, hgap⟩)
  | @word gap word rest _ hgap hword happart hlater =>
      rw [← List.cons_append, ← List.cons_append]
      exact .word (List.forall_mem_cons.2 ⟨hblank, hgap⟩) hword happart hlater

theorem cut_words (text : List Char) : Cut text (words text) := by
  induction text with
  | nil => exact .blank (by simp)
  | cons c rest ih =>
      by_cases hblank : isBlank c = true
      · rw [words_of_blank hblank]
        exact ih.blank_cons hblank
      · have hsolid : isBlank c = false := by simpa using hblank
        have hsingle : IsWord [c] := ⟨by simp, by simpa using hsolid⟩
        rw [words.eq_def]
        simp only [hsolid, Bool.false_eq_true, if_false]
        cases rest with
        | nil => exact .head hsingle isApart_nil ih
        | cons next others =>
            cases hwords : words (next :: others) with
            | nil =>
                have hrest := (hwords ▸ ih).blank_of_nil
                exact .head hsingle
                  (isApart_cons.2 (hrest next List.mem_cons_self)) (.blank hrest)
            | cons word later =>
                rw [hwords] at ih
                dsimp only
                split
                · next hnext =>
                    exact .head hsingle (isApart_cons.2 hnext) ih
                · next hnext =>
                    -- The next word is not over yet, so the character extends it.
                    obtain ⟨after, htext, hword, happart, hlater⟩ :=
                      ih.of_head (by simpa using hnext)
                    rw [htext, ← List.cons_append]
                    have hlonger : IsWord (c :: word) :=
                      ⟨List.cons_ne_nil _ _, List.forall_mem_cons.2 ⟨hsolid, hword.solid⟩⟩
                    exact .head hlonger happart hlater

/-- `words` finds the cut of a text, and there is no other one. -/
theorem words_eq_iff : words text = found ↔ Cut text found := by
  constructor
  · rintro rfl
    exact cut_words text
  · intro hcut
    induction hcut with
    | @blank gap hgap =>
        rw [← gap.append_nil, words_gap hgap]
        rfl
    | word hgap hword happart _ ih =>
        rw [List.append_assoc, words_gap hgap, words_word hword happart, ih]

theorem Cut.concat_blank {c : Char} (hblank : isBlank c = true) (hcut : Cut text found) :
    Cut (text ++ [c]) found := by
  induction hcut with
  | @blank gap hgap =>
      refine .blank fun d hd => ?_
      rcases List.mem_append.1 hd with hgapMem | hlast
      · exact hgap d hgapMem
      · rwa [List.mem_singleton.1 hlast]
  | @word gap word rest later hgap hword happart _ ih =>
      rw [List.append_assoc]
      refine .word hgap hword ?_ ih
      cases rest with
      | nil => exact isApart_cons.2 hblank
      | cons d others => exact happart

theorem words_concat_blank {c : Char} (hblank : isBlank c = true) (text : List Char) :
    words (text ++ [c]) = words text :=
  words_eq_iff.2 ((cut_words text).concat_blank hblank)

end MemoryReclaim.Text
