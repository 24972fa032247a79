import Mathlib.Data.Int.Interval
import Mathlib.Order.Bounds.Basic
import MemoryReclaim.Proofs.KillLevels
import MemoryReclaim.Service.Kill

/-!
# What a table of levels answers

A list is taken for a table after a look at neighbouring levels only, and a reading is
looked up by walking the levels in order.  Here both are said without the walks: a table
increases between any two of its levels, and its answer to a reading names the least of
the thresholds above it.  So the answers change in one direction only: with less memory
available the floor, the level and the gravity of the announcement are never milder.
-/

namespace MemoryReclaim

/-- How grave a memory level is. -/
def MemoryLevel.gravity : MemoryLevel → Nat
  | .moderate => 0
  | .low => 1
  | .critical => 2

/-- The lower of two kill levels is announced as gravely as the other, if not more so. -/
theorem MemoryLevel.exists_ofKillLevel {lower upper : Nat} (hpos : 1 ≤ lower)
    (hle : lower ≤ upper) :
    ∃ graver milder, ofKillLevel lower = some graver ∧ ofKillLevel upper = some milder ∧
      milder.gravity ≤ graver.gravity := by
  match lower, upper with
  | 1, 1 | 1, 2 | 2, 2 | 1, 3 | 2, 3 | 3, 3 => exact ⟨_, _, rfl, rfl, by decide⟩
  | 1, upper + 4 | 2, upper + 4 | 3, upper + 4 | lower + 4, upper + 4 =>
      exact ⟨_, _, rfl, rfl, Nat.zero_le _⟩
  | lower + 4, 0 | lower + 4, 1 | lower + 4, 2 | lower + 4, 3 => omega

namespace KillLevels

variable {entries : List KillLevel} {levels : KillLevels} {level : KillLevel}
variable {available : Kilobytes} {target : KillTarget}

/-! ## Which lists are tables -/

/-- What makes a list of levels a table.  Any two levels are compared, not only neighbours. -/
structure IsTable (entries : List KillLevel) : Prop where
  ne_nil : entries ≠ []
  inRange : ∀ level ∈ entries, .lowest ≤ level.floor ∧ level.floor ≤ .highest
  below : ∀ (earlier later : Nat) (hlt : earlier < later) (hlater : later < entries.length),
    entries[earlier].buffer < entries[later].buffer ∧
      entries[earlier].floor < entries[later].floor

theorem increasing_of_pairwise
    (hpairwise : entries.Pairwise fun level later => level.below later) :
    increasing entries := by
  induction entries with
  | nil => rfl
  | cons level rest ih =>
      obtain ⟨hlevel, hrest⟩ := List.pairwise_cons.1 hpairwise
      cases rest with
      | nil => rfl
      | cons next later =>
          rw [increasing, Bool.and_eq_true]
          exact ⟨hlevel next List.mem_cons_self, ih hrest⟩

/-- To compare neighbours is enough to compare all levels. -/
theorem increasing_iff : increasing entries ↔
    ∀ (earlier later : Nat) (hlt : earlier < later) (hlater : later < entries.length),
      entries[earlier].buffer < entries[later].buffer ∧
        entries[earlier].floor < entries[later].floor := by
  have hpairwise : increasing entries ↔ entries.Pairwise fun level later => level.below later :=
    ⟨pairwise_below, increasing_of_pairwise⟩
  rw [hpairwise, List.pairwise_iff_getElem]
  simp only [KillLevel.below, Bool.and_eq_true, decide_eq_true_eq]
  exact ⟨fun hall earlier later hlt hlater => hall earlier later (by omega) hlater hlt,
    fun hall earlier later _ hlater hlt => hall earlier later hlt hlater⟩

theorem IsTable.increasing (htable : IsTable entries) : KillLevels.increasing entries :=
  increasing_iff.2 htable.below

/-- Exactly the tables are accepted, and they are taken as they are. -/
theorem ofEntries_eq_ok_iff : ofEntries entries = .ok levels ↔
    levels.entries = entries ∧ IsTable entries := by
  rw [ofEntries]
  split
  · next hempty =>
    refine iff_of_false (fun hok => ?_) fun htable => htable.2.ne_nil (List.isEmpty_iff.1 hempty)
    cases hok
  · next hne =>
    split
    · next outside houtside =>
      refine iff_of_false (fun hok => ?_) fun htable => ?_
      · cases hok
      have hrange := htable.2.inRange outside (List.mem_of_find?_eq_some houtside)
      have hinvalid := List.find?_some houtside
      simp [Priority.isValid, hrange] at hinvalid
    · next hinside =>
      have hrange : ∀ level ∈ entries, .lowest ≤ level.floor ∧ level.floor ≤ .highest := by
        simpa [Priority.isValid] using hinside
      have hnil : entries ≠ [] := fun hnil => hne (List.isEmpty_iff.2 hnil)
      split
      · next hincreasing =>
        refine ⟨fun hok => ?_, fun htable => ?_⟩
        · cases hok
          exact ⟨rfl, hnil, hrange, increasing_iff.1 hincreasing⟩
        · rw [← htable.1]
      · next hincreasing =>
        refine iff_of_false (fun hok => ?_) fun htable => hincreasing htable.2.increasing
        cases hok

namespace IsTable

theorem le_of_buffer_le (htable : IsTable entries) {index other : Nat}
    (hindex : index < entries.length) (hother : other < entries.length)
    (hle : entries[index].buffer ≤ entries[other].buffer) : index ≤ other := by
  apply Nat.le_of_not_lt
  intro hlt
  exact absurd hle (Nat.not_le_of_lt (htable.below other index hlt hindex).1)

theorem floor_le (htable : IsTable entries) {index other : Nat} (hle : index ≤ other)
    (hother : other < entries.length) : entries[index].floor ≤ entries[other].floor := by
  rcases Nat.eq_or_lt_of_le hle with rfl | hlt
  · exact Int.le_refl _
  · exact Int.le_of_lt (htable.below index other hlt hother).2

/-- A table has at most as many levels as there are priorities. -/
theorem length_le (htable : IsTable entries) : entries.length ≤ 2001 := by
  have hnodup : (entries.map KillLevel.floor).Nodup := by
    apply List.pairwise_iff_getElem.2
    intro index other _ hother hlt
    rw [List.length_map] at hother
    rw [List.getElem_map, List.getElem_map]
    exact Int.ne_of_lt (htable.below index other hlt hother).2
  have hrange : (entries.map KillLevel.floor).toFinset ⊆ Finset.Icc .lowest .highest := by
    intro floor hfloor
    obtain ⟨level, hlevel, rfl⟩ := List.mem_map.1 (List.mem_toFinset.1 hfloor)
    exact Finset.mem_Icc.2 (htable.inRange level hlevel)
  calc entries.length = (entries.map KillLevel.floor).toFinset.card := by
        rw [List.toFinset_card_of_nodup hnodup, List.length_map]
    _ ≤ (Finset.Icc Priority.lowest Priority.highest).card := Finset.card_le_card hrange
    _ = 2001 := Int.card_Icc _ _

end IsTable

/-! ## What a table answers -/

def thresholds (entries : List KillLevel) : Set Kilobytes :=
  {buffer | ∃ level ∈ entries, level.buffer = buffer}

/-- What a reading asks for: the level with the least threshold above the reading, under its
number in the table, and to get back to the greatest threshold of all. -/
structure Answers (entries : List KillLevel) (available : Kilobytes) (target : KillTarget) :
    Prop where
  numbered : 1 ≤ target.level
  entry : entries[target.level - 1]? = some ⟨target.minBuffer, target.floor⟩
  isLeast : IsLeast {buffer ∈ thresholds entries | available < buffer} target.minBuffer
  isGreatest : IsGreatest (thresholds entries) target.targetBuffer

/-- The walk stops at the first level above the reading. -/
theorem firstAbove_split {number found : Nat}
    (hfound : firstAbove available number entries = some (found, level)) :
    ∃ before after, entries = before ++ level :: after ∧ found = number + before.length ∧
      (∀ earlier ∈ before, earlier.buffer ≤ available) ∧ available < level.buffer := by
  induction entries generalizing number with
  | nil => cases hfound
  | cons first rest ih =>
      rw [firstAbove] at hfound
      split at hfound
      · next hlow =>
        rw [Option.some.injEq, Prod.mk.injEq] at hfound
        obtain ⟨rfl, rfl⟩ := hfound
        exact ⟨[], rest, rfl, rfl, fun _ hmem => absurd hmem List.not_mem_nil, hlow⟩
      · next hhigh =>
        obtain ⟨before, after, rfl, rfl, hbefore, hlow⟩ := ih hfound
        refine ⟨first :: before, after, rfl, ?_, ?_, hlow⟩
        · rw [List.length_cons]
          omega
        · intro earlier hearlier
          rcases List.mem_cons.1 hearlier with rfl | hlater
          · exact Nat.le_of_not_lt hhigh
          · exact hbefore earlier hlater

theorem isGreatest_maxBuffer (htable : IsTable entries) :
    IsGreatest (thresholds entries) (maxBuffer ⟨entries⟩) := by
  refine ⟨⟨entries.getLast htable.ne_nil, List.getLast_mem _, ?_⟩, ?_⟩
  · rw [maxBuffer, List.getLast?_eq_some_getLast htable.ne_nil]
    rfl
  · rintro _ ⟨level, hlevel, rfl⟩
    exact @buffer_le_maxBuffer level ⟨entries⟩ htable.increasing hlevel

theorem answers_of_query (htable : IsTable entries)
    (htarget : query ⟨entries⟩ available = some target) : Answers entries available target := by
  obtain ⟨⟨number, level⟩, hfound, rfl⟩ := Option.map_eq_some_iff.1 htarget
  obtain ⟨before, after, rfl, rfl, hbefore, hlow⟩ := firstAbove_split hfound
  refine ⟨Nat.le_add_right _ _, ?_, ⟨⟨⟨level, by simp, rfl⟩, hlow⟩, ?_⟩,
    isGreatest_maxBuffer htable⟩
  · simp
  · -- Nothing before the level is above the reading, and all after it is above the level.
    rintro _ ⟨⟨other, hother, rfl⟩, habove⟩
    rcases List.mem_append.1 hother with hearlier | hlater
    · exact absurd (hbefore other hearlier) (Nat.not_le_of_lt habove)
    · rcases List.mem_cons.1 hlater with rfl | hlater
      · exact Nat.le_refl _
      · have hbelow := (List.pairwise_append.1 (pairwise_below htable.increasing)).2.1
        have hlt := (List.pairwise_cons.1 hbelow).1 other hlater
        simp only [KillLevel.below, Bool.and_eq_true, decide_eq_true_eq] at hlt
        exact Nat.le_of_lt hlt.1

theorem query_eq_none_iff_forall (htable : IsTable entries) :
    query ⟨entries⟩ available = none ↔ ∀ level ∈ entries, level.buffer ≤ available := by
  rw [query_eq_none_iff htable.increasing]
  have hgreatest := isGreatest_maxBuffer htable
  refine ⟨fun hmax level hlevel => Nat.le_trans (hgreatest.2 ⟨level, hlevel, rfl⟩) hmax,
    fun hall => ?_⟩
  obtain ⟨level, hlevel, hbuffer⟩ := hgreatest.1
  exact hbuffer ▸ hall level hlevel

namespace Answers

theorem lt_minBuffer (hanswers : Answers entries available target) :
    available < target.minBuffer :=
  hanswers.isLeast.1.2

theorem minBuffer_le (hanswers : Answers entries available target) :
    target.minBuffer ≤ target.targetBuffer :=
  hanswers.isGreatest.2 hanswers.isLeast.1.1

/-- Where the threshold of one answer is no higher, neither are its level and its floor. -/
theorem le_of_minBuffer_le (htable : IsTable entries) {less more : Kilobytes}
    {nearer further : KillTarget} (hnearer : Answers entries less nearer)
    (hfurther : Answers entries more further) (hle : nearer.minBuffer ≤ further.minBuffer) :
    nearer.level ≤ further.level ∧ nearer.floor ≤ further.floor := by
  obtain ⟨hindex, hentry⟩ := List.getElem?_eq_some_iff.1 hnearer.entry
  obtain ⟨hother, hotherEntry⟩ := List.getElem?_eq_some_iff.1 hfurther.entry
  have hbuffers : entries[nearer.level - 1].buffer ≤ entries[further.level - 1].buffer := by
    rw [hentry, hotherEntry]
    exact hle
  have hposition := htable.le_of_buffer_le hindex hother hbuffers
  have hfloor := htable.floor_le hposition hother
  rw [hentry, hotherEntry] at hfloor
  have hfirst := hfurther.numbered
  exact ⟨by omega, hfloor⟩

theorem unique (htable : IsTable entries) {other : KillTarget}
    (hanswers : Answers entries available target) (hother : Answers entries available other) :
    target = other := by
  have hmin := hanswers.isLeast.unique hother.isLeast
  obtain ⟨hlevel, hfloor⟩ := le_of_minBuffer_le htable hanswers hother hmin.le
  obtain ⟨hlevelBack, hfloorBack⟩ := le_of_minBuffer_le htable hother hanswers hmin.ge
  cases target
  cases other
  rw [KillTarget.mk.injEq]
  exact ⟨hmin, Int.le_antisymm hfloor hfloorBack, hanswers.isGreatest.unique hother.isGreatest,
    Nat.le_antisymm hlevel hlevelBack⟩

end Answers

theorem query_eq_some_iff (htable : IsTable entries) :
    query ⟨entries⟩ available = some target ↔ Answers entries available target := by
  refine ⟨answers_of_query htable, fun hanswers => ?_⟩
  cases hquery : query ⟨entries⟩ available with
  | none =>
      obtain ⟨⟨level, hlevel, hbuffer⟩, hlow⟩ := hanswers.isLeast.1
      have hreached := (query_eq_none_iff_forall htable).1 hquery level hlevel
      rw [hbuffer] at hreached
      exact absurd hlow (Nat.not_lt_of_le hreached)
  | some found => rw [(answers_of_query htable hquery).unique htable hanswers]

/-- The less is available, the lower is the level that a table answers with. -/
theorem query_antitone (htable : IsTable entries) {less more : Kilobytes} {further : KillTarget}
    (hle : less ≤ more) (hfurther : query ⟨entries⟩ more = some further) :
    ∃ nearer, query ⟨entries⟩ less = some nearer ∧ nearer.level ≤ further.level ∧
      nearer.floor ≤ further.floor := by
  have hanswers := answers_of_query htable hfurther
  obtain ⟨hthreshold, hlow⟩ := hanswers.isLeast.1
  cases hquery : query ⟨entries⟩ less with
  | none =>
      obtain ⟨level, hlevel, hbuffer⟩ := hthreshold
      have hreached := (query_eq_none_iff_forall htable).1 hquery level hlevel
      rw [hbuffer] at hreached
      exact absurd hlow (Nat.not_lt_of_le (Nat.le_trans hreached hle))
  | some nearer =>
      have hnearer := answers_of_query htable hquery
      have hmin : nearer.minBuffer ≤ further.minBuffer :=
        hnearer.isLeast.2 ⟨hthreshold, Nat.lt_of_le_of_lt hle hlow⟩
      exact ⟨nearer, rfl, hnearer.le_of_minBuffer_le htable hanswers hmin⟩

theorem announceLevel_of {σ : Type} {number : Nat} {announced : MemoryLevel}
    (hlevel : MemoryLevel.ofKillLevel number = some announced) (service : Service σ) :
    service.announceLevel number = service.notify (.trim announced) := by
  rw [Service.announceLevel, hlevel]

/-- Exactly the tables among the lists of levels are accepted.  A table asks for nothing once
every threshold is available, and otherwise for what `Answers` says; and for less available
memory it asks for a floor and a level no higher, which are announced no less gravely. -/
theorem answers_follow_thresholds (entries : List KillLevel) :
    (∀ levels, ofEntries entries = .ok levels ↔ levels.entries = entries ∧ IsTable entries) ∧
    ∀ levels, ofEntries entries = .ok levels →
      entries.length ≤ 2001 ∧
      (∀ available,
        levels.query available = none ↔ ∀ level ∈ entries, level.buffer ≤ available) ∧
      (∀ available target,
        levels.query available = some target ↔ Answers entries available target) ∧
      (∀ available target, levels.query available = some target →
        available < target.minBuffer ∧ target.minBuffer ≤ target.targetBuffer) ∧
      ∀ less more further, less ≤ more → levels.query more = some further →
        ∃ nearer graver milder, levels.query less = some nearer ∧
          nearer.floor ≤ further.floor ∧ nearer.level ≤ further.level ∧
          milder.gravity ≤ graver.gravity ∧
          ∀ {σ : Type} (service : Service σ),
            service.announceLevel nearer.level = service.notify (.trim graver) ∧
              service.announceLevel further.level = service.notify (.trim milder) := by
  refine ⟨fun levels => ofEntries_eq_ok_iff, fun levels haccepted => ?_⟩
  obtain ⟨rfl, htable⟩ := ofEntries_eq_ok_iff.1 haccepted
  refine ⟨htable.length_le, fun available => query_eq_none_iff_forall htable,
    fun available target => query_eq_some_iff htable, fun available target htarget => ?_,
    fun less more further hle hfurther => ?_⟩
  · have hanswers := answers_of_query htable htarget
    exact ⟨hanswers.lt_minBuffer, hanswers.minBuffer_le⟩
  · obtain ⟨nearer, hnearer, hlevel, hfloor⟩ := query_antitone htable hle hfurther
    obtain ⟨graver, milder, hgraver, hmilder, hgravity⟩ :=
      MemoryLevel.exists_ofKillLevel (answers_of_query htable hnearer).numbered hlevel
    exact ⟨nearer, graver, milder, hnearer, hfloor, hlevel, hgravity,
      fun service => ⟨announceLevel_of hgraver service, announceLevel_of hmilder service⟩⟩

/-- Four levels, with thresholds next to each other and the extreme floor: a reading on a
threshold is answered by the next one. -/
theorem answers_follow_thresholds_fourLevels :
    let entries : List KillLevel := [⟨1000, -1000⟩, ⟨3000, 0⟩, ⟨3001, 400⟩, ⟨9000, 401⟩]
    let target : KillTarget := ⟨3001, 400, 9000, 3⟩
    ofEntries entries = .ok ⟨entries⟩ ∧ query ⟨entries⟩ 9000 = none ∧
      query ⟨entries⟩ 3000 = some target ∧ Answers entries 3000 target ∧
      ∃ nearer graver milder, query ⟨entries⟩ 2999 = some nearer ∧
        nearer.floor ≤ target.floor ∧ nearer.level ≤ target.level ∧
        milder.gravity ≤ graver.gravity ∧
        ∀ {σ : Type} (service : Service σ),
          service.announceLevel nearer.level = service.notify (.trim graver) ∧
            service.announceLevel target.level = service.notify (.trim milder) := by
  intro entries target
  have haccepted : ofEntries entries = .ok ⟨entries⟩ := rfl
  have htarget : query ⟨entries⟩ 3000 = some target := rfl
  obtain ⟨-, hnone, hsome, -, hantitone⟩ := (answers_follow_thresholds entries).2 _ haccepted
  exact ⟨haccepted, (hnone 9000).2 (by decide), htarget, (hsome 3000 target).1 htarget,
    hantitone 2999 3000 target (by decide) htarget⟩

end KillLevels

end MemoryReclaim
