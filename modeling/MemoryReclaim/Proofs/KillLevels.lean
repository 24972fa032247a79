import MemoryReclaim.KillLevels

/-!
# Lookup of kill levels

Levels that are configured form a table whose columns increase, so the last threshold is
the highest one and a reading that reaches it asks for nothing.
-/

namespace MemoryReclaim.KillLevels

variable {entries : List KillLevel} {level : KillLevel} {available : Kilobytes}

theorem increasing_tail (hincreasing : increasing (level :: entries)) : increasing entries := by
  cases entries with
  | nil => rfl
  | cons next later =>
      rw [increasing, Bool.and_eq_true] at hincreasing
      exact hincreasing.2

/-- A level is below every later one, not only below the next. -/
theorem pairwise_below (hincreasing : increasing entries) :
    entries.Pairwise fun level later => level.below later := by
  have htrans : ∀ {one two three : KillLevel},
      one.below two → two.below three → one.below three := by
    intro one two three hone htwo
    simp only [KillLevel.below, Bool.and_eq_true, decide_eq_true_eq] at hone htwo ⊢
    exact ⟨Nat.lt_trans hone.1 htwo.1, Int.lt_trans hone.2 htwo.2⟩
  induction entries with
  | nil => exact .nil
  | cons level rest ih =>
      have hrest := ih (increasing_tail hincreasing)
      cases rest with
      | nil => exact List.pairwise_singleton _ _
      | cons next later =>
          rw [increasing, Bool.and_eq_true] at hincreasing
          apply List.pairwise_cons.2 ⟨?_, hrest⟩
          intro other hother
          rcases List.mem_cons.1 hother with rfl | hlater
          · exact hincreasing.1
          · exact htrans hincreasing.1 ((List.pairwise_cons.1 hrest).1 other hlater)

theorem increasing_ofConfigured (entries : List KillLevel) :
    increasing (ofConfigured entries).entries := by
  rw [ofConfigured, ofEntries]
  split
  · next levels hlevels =>
    split at hlevels
    · cases hlevels
    · split at hlevels
      · cases hlevels
      · split at hlevels
        · next hincreasing =>
          cases hlevels
          exact hincreasing
        · cases hlevels
  · decide

theorem buffer_le_maxBuffer {levels : KillLevels} (hincreasing : increasing levels.entries)
    (hlevel : level ∈ levels.entries) : level.buffer ≤ levels.maxBuffer := by
  obtain ⟨earlier, last, hsplit⟩ : ∃ earlier last, levels.entries = earlier ++ [last] :=
    ⟨_, _, (List.dropLast_concat_getLast (List.ne_nil_of_mem hlevel)).symm⟩
  have hmax : levels.maxBuffer = last.buffer := by
    rw [maxBuffer, hsplit, List.getLast?_concat]
    rfl
  have hbelow := pairwise_below hincreasing
  rw [hsplit] at hlevel hbelow
  rw [hmax]
  rcases List.mem_append.1 hlevel with hearlier | hlast
  · have hlt := (List.pairwise_append.1 hbelow).2.2 level hearlier last List.mem_cons_self
    simp only [KillLevel.below, Bool.and_eq_true, decide_eq_true_eq] at hlt
    exact Nat.le_of_lt hlt.1
  · exact Nat.le_of_eq (congrArg KillLevel.buffer (List.mem_singleton.1 hlast))

theorem firstAbove_eq_none {number : Nat} (habove : ∀ level ∈ entries, level.buffer ≤ available) :
    firstAbove available number entries = none := by
  induction entries generalizing number with
  | nil => rfl
  | cons level later ih =>
      have hlevel : ¬ available < level.buffer :=
        Nat.not_lt_of_le (habove level List.mem_cons_self)
      rw [firstAbove, if_neg hlevel]
      exact ih fun other hother => habove other (List.mem_cons_of_mem _ hother)

theorem mem_of_firstAbove {number found : Nat}
    (hfound : firstAbove available number entries = some (found, level)) : level ∈ entries := by
  induction entries generalizing number with
  | nil => cases hfound
  | cons first later ih =>
      rw [firstAbove] at hfound
      split at hfound
      · rw [Option.some.injEq, Prod.mk.injEq] at hfound
        exact hfound.2 ▸ List.mem_cons_self
      · exact List.mem_cons_of_mem _ (ih hfound)

/-- A table of levels asks for no floor out of the range of priorities. -/
theorem isValid_of_query {levels : KillLevels} {target : KillTarget}
    (hlevels : ofEntries entries = .ok levels)
    (htarget : levels.query available = some target) : target.floor.isValid := by
  rw [ofEntries] at hlevels
  split at hlevels
  · cases hlevels
  · split at hlevels
    · cases hlevels
    · next hvalid =>
      split at hlevels
      · cases hlevels
        obtain ⟨⟨number, level⟩, hlevel, rfl⟩ := Option.map_eq_some_iff.1 htarget
        simpa using List.find?_eq_none.1 hvalid level (mem_of_firstAbove hlevel)
      · cases hlevels

/-- Any valid floor is that of some table. -/
theorem exists_query {floor : Priority} (hvalid : floor.isValid) :
    ∃ entries levels available target, ofEntries entries = .ok levels ∧
      levels.query available = some target ∧ target.floor = floor := by
  refine ⟨[⟨1, floor⟩], ⟨[⟨1, floor⟩]⟩, 0, ⟨1, floor, 1, 1⟩, ?_, rfl, rfl⟩
  rw [ofEntries]
  simp [hvalid, increasing]

/-- Nothing is asked for once the highest threshold is available. -/
theorem query_eq_none {levels : KillLevels} (hincreasing : increasing levels.entries)
    (hmax : levels.maxBuffer ≤ available) : levels.query available = none := by
  have hnone : firstAbove available 1 levels.entries = none := by
    apply firstAbove_eq_none
    intro level hlevel
    exact Nat.le_trans (buffer_le_maxBuffer hincreasing hlevel) hmax
  rw [query, hnone]
  rfl

theorem buffer_le_of_firstAbove {number : Nat} (hnone : firstAbove available number entries = none)
    (hlevel : level ∈ entries) : level.buffer ≤ available := by
  induction entries generalizing number with
  | nil => cases hlevel
  | cons first later ih =>
      rw [firstAbove] at hnone
      split at hnone
      · cases hnone
      · next hfirst =>
        rcases List.mem_cons.1 hlevel with rfl | hlater
        · exact Nat.le_of_not_lt hfirst
        · exact ih hnone hlater

/-- A reading asks for nothing exactly when it reaches the highest threshold. -/
theorem query_eq_none_iff {levels : KillLevels} (hincreasing : increasing levels.entries) :
    levels.query available = none ↔ levels.maxBuffer ≤ available := by
  refine ⟨fun hnone => ?_, query_eq_none hincreasing⟩
  rw [query, Option.map_eq_none_iff] at hnone
  rw [maxBuffer]
  cases hlast : levels.entries.getLast? with
  | none => exact Nat.zero_le _
  | some last => exact buffer_le_of_firstAbove hnone (List.mem_of_getLast? hlast)

theorem firstAbove_spec {number found : Nat}
    (hfound : firstAbove available number entries = some (found, level)) :
    available < level.buffer ∧ number ≤ found ∧ found < number + entries.length := by
  induction entries generalizing number with
  | nil => cases hfound
  | cons first later ih =>
      rw [firstAbove] at hfound
      rw [List.length_cons]
      split at hfound
      · next hlow =>
        rw [Option.some.injEq, Prod.mk.injEq] at hfound
        obtain ⟨rfl, rfl⟩ := hfound
        exact ⟨hlow, Nat.le_refl _, by omega⟩
      · obtain ⟨hlow, hlower, hupper⟩ := ih hfound
        exact ⟨hlow, by omega, by omega⟩

/-- What a reading asks for: to get back to the highest threshold, which it is below, at a
level that is counted from one. -/
theorem query_spec {levels : KillLevels} {target : KillTarget}
    (hincreasing : increasing levels.entries) (htarget : levels.query available = some target) :
    available < target.targetBuffer ∧ target.targetBuffer = levels.maxBuffer ∧
      1 ≤ target.level ∧ target.level ≤ levels.entries.length := by
  obtain ⟨⟨number, level⟩, hfound, rfl⟩ := Option.map_eq_some_iff.1 htarget
  obtain ⟨hlow, hlower, hupper⟩ := firstAbove_spec hfound
  have hbelow : available < levels.maxBuffer :=
    Nat.lt_of_lt_of_le hlow (buffer_le_maxBuffer hincreasing (mem_of_firstAbove hfound))
  exact ⟨hbelow, rfl, hlower, by simpa [Nat.lt_one_add_iff] using hupper⟩

/-- Whatever is configured, no level asks for a floor out of the range of priorities. -/
theorem isValid_of_query_ofConfigured {target : KillTarget}
    (htarget : (ofConfigured entries).query available = some target) : target.floor.isValid := by
  obtain ⟨valid, hvalid⟩ : ∃ valid, ofEntries valid = .ok (ofConfigured entries) := by
    cases hentries : ofEntries entries with
    | ok levels =>
        refine ⟨entries, ?_⟩
        rw [ofConfigured, hentries]
    | error fault =>
        refine ⟨default.entries, ?_⟩
        rw [ofConfigured, hentries]
        rfl
  exact isValid_of_query hvalid htarget

end MemoryReclaim.KillLevels
