import MemoryReclaim.Text.Lines

/-!
# Lines joined and read back

Lines are joined by line feeds, each with or without a carriage return before it.  Reading
gives the lines back except for a carriage return at the end of one, which cannot be told
from a part of the line end, and an empty last line.  A search that cares for neither finds
in the text what it finds in the lines.
-/

namespace MemoryReclaim.Text

variable {line text : List Char}

/-- The lines make up the text, where the last one may or may not have a line end. -/
inductive Joined : List (List Char) → List Char → Prop
  | nil : Joined [] []
  | last (line : List Char) : Joined [line] line
  | lineFeed (line : List Char) {later : List (List Char)} {text : List Char}
      (hlater : Joined later text) : Joined (line :: later) (line ++ '\n' :: text)
  | returnFeed (line : List Char) {later : List (List Char)} {text : List Char}
      (hlater : Joined later text) : Joined (line :: later) (line ++ '\r' :: '\n' :: text)

/-- The line without a carriage return at its end. -/
def chomp (line : List Char) : List Char :=
  if line.getLast? = some '\r' then line.dropLast else line

theorem chomp_concat (line : List Char) : chomp (line ++ ['\r']) = line := by
  simp [chomp]

theorem chomp_cons {c : Char} (hmore : line ≠ [] ∨ c ≠ '\r') :
    chomp (c :: line) = c :: chomp line := by
  cases line with
  | nil =>
      have hother : c ≠ '\r' := hmore.resolve_left (not_not_intro rfl)
      simp [chomp, hother]
  | cons d later =>
      rw [chomp, chomp, List.getLast?_cons_cons]
      split <;> rfl

theorem lines_lineFeed (hflat : '\n' ∉ line) (text : List Char) :
    lines (line ++ '\n' :: text) = chomp line :: lines text := by
  induction line with
  | nil => rfl
  | cons c later ih =>
      rw [List.mem_cons, not_or] at hflat
      by_cases hreturn : later = [] ∧ c = '\r'
      · obtain ⟨rfl, rfl⟩ := hreturn
        rfl
      · have hmore : later ≠ [] ∨ c ≠ '\r' := Decidable.not_and_iff_not_or_not.1 hreturn
        have hends : ∀ rest, c = '\r' → later ++ '\n' :: text = '\n' :: rest → False := by
          intro rest hc hrest
          cases later with
          | nil => exact hreturn ⟨rfl, hc⟩
          | cons d others =>
              rw [List.cons_append, List.cons.injEq] at hrest
              exact hflat.2 (hrest.1 ▸ List.mem_cons_self)
        rw [List.cons_append, lines.eq_4 _ _ (Ne.symm hflat.1) hends, ih hflat.2, chomp_cons hmore]

theorem lines_last (hflat : '\n' ∉ line) (hnonempty : line ≠ []) : lines line = [line] := by
  induction line with
  | nil => exact absurd rfl hnonempty
  | cons c later ih =>
      rw [List.mem_cons, not_or] at hflat
      have hends : ∀ rest, c = '\r' → later = '\n' :: rest → False := by
        rintro rest - rfl
        exact hflat.2 List.mem_cons_self
      rw [lines.eq_4 _ _ (Ne.symm hflat.1) hends]
      cases later with
      | nil => rfl
      | cons d others => rw [ih hflat.2 (List.cons_ne_nil _ _)]

/-- Looking through the lines of a text is looking through the lines that it was made of. -/
theorem findSome?_lines {α : Type} {find? : List Char → Option α}
    (hreturn : ∀ line, find? (line ++ ['\r']) = find? line) (hempty : find? [] = none)
    {joined : List (List Char)} (hflat : ∀ line ∈ joined, '\n' ∉ line)
    (hjoined : Joined joined text) :
    (lines text).findSome? find? = joined.findSome? find? := by
  have hchomp : ∀ line, find? (chomp line) = find? line := by
    intro line
    rcases List.eq_nil_or_concat line with rfl | ⟨earlier, c, rfl⟩
    · rfl
    · rw [List.concat_eq_append]
      by_cases hc : c = '\r'
      · rw [hc, chomp_concat, hreturn]
      · rw [chomp, if_neg (by simpa using hc)]
  induction hjoined with
  | nil => rfl
  | last line =>
      have hline := hflat line List.mem_cons_self
      cases line with
      | nil => simp [lines, hempty]
      | cons c later => rw [lines_last hline (List.cons_ne_nil _ _)]
  | lineFeed line _ ih =>
      rw [List.forall_mem_cons] at hflat
      rw [lines_lineFeed hflat.1, List.findSome?_cons, List.findSome?_cons, hchomp, ih hflat.2]
  | @returnFeed line later text _ ih =>
      rw [List.forall_mem_cons] at hflat
      have hline : '\n' ∉ line ++ ['\r'] := by simpa using hflat.1
      have hsplit : line ++ '\r' :: '\n' :: text = (line ++ ['\r']) ++ '\n' :: text := by simp
      rw [hsplit, lines_lineFeed hline, chomp_concat, List.findSome?_cons, List.findSome?_cons,
        ih hflat.2]

end MemoryReclaim.Text
