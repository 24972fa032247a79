import MemoryReclaim.ProcFile
import MemoryReclaim.Proofs.Text.Lines
import MemoryReclaim.Proofs.Text.Padding

/-!
# Amounts in a file of rows

A row says an amount under a key; between the rows there may be any lines that do not say
one under the key that is asked for.  The amount found is that of the first row with exactly
this key.  A row under another key, longer at either end or not, might as well be absent.
-/

namespace MemoryReclaim.ProcFile

open MemoryReclaim.Text

variable {key line : List Char} {value : Kilobytes}

/-- The first two words of the line are the key with a colon and a 64-bit amount. -/
def Tells (key : List Char) (value : Kilobytes) (line : List Char) : Prop :=
  ∃ amount later, Cut line ((key ++ [':']) :: amount :: later) ∧ IsNatural value amount ∧
    value ≤ 18446744073709551615

theorem keyOf?_eq_some_iff {word : List Char} :
    keyOf? word = some key ↔ word = key ++ [':'] := by
  rw [keyOf?]
  split
  · next hcolon =>
      rw [List.getLast?_eq_some_iff] at hcolon
      obtain ⟨named, rfl⟩ := hcolon
      simp
  · next hother =>
      simp only [reduceCtorEq, false_iff]
      rintro rfl
      simp at hother

theorem amountInLine?_eq_some_iff :
    amountInLine? key line = some value ↔ Tells key value line := by
  rw [amountInLine?]
  constructor
  · intro hfound
    split at hfound
    · next name amount later hwords =>
        split at hfound
        · next hname =>
            rw [keyOf?_eq_some_iff] at hname
            subst hname
            exact ⟨amount, later, words_eq_iff.1 hwords, readUInt64?_eq_some_iff.1 hfound⟩
        · simp at hfound
    · simp at hfound
  · rintro ⟨amount, later, hcut, hamount⟩
    rw [words_eq_iff.2 hcut]
    dsimp only
    rw [if_pos (keyOf?_eq_some_iff.2 rfl), readUInt64?_eq_some_iff.2 hamount]

theorem amountInLine?_eq_none (hsilent : ∀ value, ¬ Tells key value line) :
    amountInLine? key line = none := by
  cases hfound : amountInLine? key line with
  | none => rfl
  | some value => exact absurd (amountInLine?_eq_some_iff.1 hfound) (hsilent value)

/-- The end of a line does not bear on what the line says. -/
theorem amountInLine?_concat_return (key line : List Char) :
    amountInLine? key (line ++ ['\r']) = amountInLine? key line := by
  rw [amountInLine?, amountInLine?, words_concat_blank (by decide)]

/-- A key and an amount, as they are written into one line. -/
structure Row where
  key : String
  gap : List Char
  value : Kilobytes
  /-- Usually the unit. -/
  trailer : List Char
  key_solid : ∀ c ∈ key.toList, isBlank c = false
  gap_nonempty : gap ≠ []
  gap_blank : ∀ c ∈ gap, isBlank c = true
  gap_flat : '\n' ∉ gap
  value_fits : value ≤ 18446744073709551615
  trailer_apart : IsApart trailer
  trailer_flat : '\n' ∉ trailer

namespace Row

def write (row : Row) : List Char :=
  row.key.toList ++ ':' :: row.gap ++ writeNat row.value ++ row.trailer

theorem isWord_key (row : Row) : IsWord (row.key.toList ++ [':']) where
  nonempty := by simp
  solid c hc := by
    rcases List.mem_append.1 hc with hkey | hcolon
    · exact row.key_solid c hkey
    · rw [List.mem_singleton.1 hcolon]
      decide

theorem words_write (row : Row) :
    words row.write =
      (row.key.toList ++ [':']) :: writeNat row.value :: words row.trailer := by
  have hrow : row.write =
      (row.key.toList ++ [':']) ++ (row.gap ++ (writeNat row.value ++ row.trailer)) := by
    simp [write]
  have happart : IsApart (row.gap ++ (writeNat row.value ++ row.trailer)) := by
    cases hgap : row.gap with
    | nil => exact absurd hgap row.gap_nonempty
    | cons c later => exact isApart_cons.2 (row.gap_blank c (hgap ▸ List.mem_cons_self))
  rw [hrow, words_word row.isWord_key happart, words_gap row.gap_blank,
    words_word (isDecimal_writeNat _).isWord row.trailer_apart]

theorem write_flat (row : Row) : '\n' ∉ row.write := by
  have hkey : '\n' ∉ row.key.toList := fun hmem => by
    simpa [isBlank] using row.key_solid _ hmem
  have hvalue : '\n' ∉ writeNat row.value := fun hmem => by
    simpa [isBlank] using (isDecimal_writeNat _).isWord.solid _ hmem
  simp [write, hkey, row.gap_flat, hvalue, row.trailer_flat]

theorem amountInLine?_write (row : Row) (asked : String) :
    amountInLine? asked.toList row.write = if row.key = asked then some row.value else none := by
  have hvalue : readUInt64? (writeNat row.value) = some row.value :=
    readUInt64?_eq_some_iff.2 ⟨.plain (isDecimal_writeNat _), row.value_fits⟩
  rw [amountInLine?, words_write]
  simp only [keyOf?_eq_some_iff.2 rfl, Option.some.injEq, String.toList_inj, hvalue]

end Row

/-- What stands in one line of a file. -/
inductive Entry
  | row (row : Row)
  | other (line : List Char)

namespace Entry

def write : Entry → List Char
  | .row told => told.write
  | .other line => line

def row? : Entry → Option Row
  | .row told => some told
  | .other _ => none

end Entry

/-- The entry says nothing under `asked`, unless it is a row. -/
def Entry.IsIdle (asked : String) : Entry → Prop
  | .row _ => True
  | .other line => '\n' ∉ line ∧ ∀ value, ¬ Tells asked.toList value line

variable {asked : String} {entries : List Entry} {content : String}

theorem Entry.IsIdle.flat {entry : Entry} (hidle : entry.IsIdle asked) : '\n' ∉ entry.write := by
  cases entry with
  | row row => exact row.write_flat
  | other line => exact hidle.1

theorem findSome?_entries (hidle : ∀ entry ∈ entries, entry.IsIdle asked) :
    (entries.map Entry.write).findSome? (amountInLine? asked.toList) =
      ((entries.filterMap Entry.row?).find? fun row => row.key = asked).map Row.value := by
  induction entries with
  | nil => rfl
  | cons entry later ih =>
      rw [List.forall_mem_cons] at hidle
      rw [List.map_cons, List.findSome?_cons, ih hidle.2]
      cases entry with
      | other line =>
          have hnone : amountInLine? asked.toList line = none := amountInLine?_eq_none hidle.1.2
          have hrest : (Entry.other line :: later).filterMap Entry.row? =
              later.filterMap Entry.row? := rfl
          rw [Entry.write, hnone, hrest]
      | row row =>
          have hrest : (Entry.row row :: later).filterMap Entry.row? =
              row :: later.filterMap Entry.row? := rfl
          rw [Entry.write, row.amountInLine?_write, hrest, List.find?_cons]
          by_cases hkey : row.key = asked <;> simp [hkey]

theorem amount?_eq (hidle : ∀ entry ∈ entries, entry.IsIdle asked)
    (hcontent : Joined (entries.map Entry.write) content.toList) :
    amount? content asked =
      ((entries.filterMap Entry.row?).find? fun row => row.key = asked).map Row.value := by
  have hflat : ∀ line ∈ entries.map Entry.write, '\n' ∉ line := by
    intro line hline
    obtain ⟨entry, hentry, rfl⟩ := List.mem_map.1 hline
    exact (hidle entry hentry).flat
  rw [amount?, findSome?_lines (amountInLine?_concat_return _) rfl hflat hcontent,
    findSome?_entries hidle]

/-- The amount found under a key is that of the first row with exactly this key, and there is
none without such a row.  It stays what it is when a row with another key is taken out of the
file, also one whose key has the asked one as its beginning or its end. -/
theorem amount_is_first_row (hidle : ∀ entry ∈ entries, entry.IsIdle asked)
    (hcontent : Joined (entries.map Entry.write) content.toList) :
    (∀ value, amount? content asked = some value ↔
      ∃ before row after, entries.filterMap Entry.row? = before ++ row :: after ∧
        (∀ earlier ∈ before, earlier.key ≠ asked) ∧ row.key = asked ∧ row.value = value) ∧
      (amount? content asked = none ↔
        ∀ row ∈ entries.filterMap Entry.row?, row.key ≠ asked) ∧
      ∀ before row after remaining, entries = before ++ .row row :: after → row.key ≠ asked →
        Joined ((before ++ after).map Entry.write) remaining.toList →
        amount? remaining asked = amount? content asked := by
  refine ⟨fun value => ?_, ?_, ?_⟩
  · rw [amount?_eq hidle hcontent]
    simp only [Option.map_eq_some_iff, List.find?_eq_some_iff_append]
    constructor
    · rintro ⟨row, ⟨hkey, before, after, hrows, hbefore⟩, hvalue⟩
      exact ⟨before, row, after, hrows, by simpa using hbefore, by simpa using hkey, hvalue⟩
    · rintro ⟨before, row, after, hrows, hbefore, hkey, hvalue⟩
      exact ⟨row, ⟨by simpa using hkey, before, after, hrows, by simpa using hbefore⟩, hvalue⟩
  · rw [amount?_eq hidle hcontent, Option.map_eq_none_iff, List.find?_eq_none]
    simp only [decide_eq_true_eq, ne_eq]
  · rintro before row after remaining rfl hkey hremaining
    have hsome : ∀ entry ∈ before ++ after, entry.IsIdle asked := by
      intro entry hentry
      refine hidle entry ?_
      rcases List.mem_append.1 hentry with hbefore | hafter
      · exact List.mem_append_left _ hbefore
      · exact List.mem_append_right _ (List.mem_cons_of_mem _ hafter)
    have hrow : (Entry.row row :: after).filterMap Entry.row? =
        row :: after.filterMap Entry.row? := rfl
    rw [amount?_eq hsome hremaining, amount?_eq hidle hcontent, List.filterMap_append,
      List.filterMap_append, hrow, List.find?_append, List.find?_append,
      List.find?_cons_of_neg (by simpa using hkey)]

/-- The line with a bad amount and the row with a longer key are passed over. -/
theorem amount_is_first_row_memTotal :
    (∀ value, ¬ Tells "MemTotal".toList value "MemTotal: lots kB".toList) ∧
      amount? "MemTotal: lots kB\r\nMemTotalMax: 8\nMemTotal:\t7 kB\nMemTotal: 6" "MemTotal" =
        some 7 := by
  have hbad : ∀ value, ¬ Tells "MemTotal".toList value "MemTotal: lots kB".toList := by
    intro value htells
    have hnone : amountInLine? "MemTotal".toList "MemTotal: lots kB".toList = none := by decide
    rw [← amountInLine?_eq_some_iff, hnone] at htells
    simp at htells
  let longer : Row := ⟨"MemTotalMax", [' '], 8, [], by simp [isBlank], by decide,
    by simp [isBlank], by decide, by decide, isApart_nil, by decide⟩
  let first : Row := ⟨"MemTotal", ['\t'], 7, " kB".toList, by simp [isBlank], by decide,
    by simp [isBlank], by decide, by decide, isApart_cons.2 (by decide), by decide⟩
  let second : Row := ⟨"MemTotal", [' '], 6, [], by simp [isBlank], by decide,
    by simp [isBlank], by decide, by decide, isApart_nil, by decide⟩
  let entries : List Entry :=
    [.other "MemTotal: lots kB".toList, .row longer, .row first, .row second]
  have hidle : ∀ entry ∈ entries, entry.IsIdle "MemTotal" := by
    simp only [entries, List.forall_mem_cons]
    exact ⟨⟨by decide, hbad⟩, trivial, trivial, trivial, by simp⟩
  have hlines : "MemTotal: lots kB\r\nMemTotalMax: 8\nMemTotal:\t7 kB\nMemTotal: 6".toList =
      "MemTotal: lots kB".toList ++ '\r' :: '\n' :: (longer.write ++ '\n' :: (first.write ++
        '\n' :: second.write)) := by
    decide
  have hcontent : Joined (entries.map Entry.write)
      "MemTotal: lots kB\r\nMemTotalMax: 8\nMemTotal:\t7 kB\nMemTotal: 6".toList := by
    rw [hlines]
    exact .returnFeed _ (.lineFeed _ (.lineFeed _ (.last _)))
  exact ⟨hbad, ((amount_is_first_row hidle hcontent).1 7).2
    ⟨[longer], first, [second], rfl, by decide, rfl, rfl⟩⟩

end MemoryReclaim.ProcFile
