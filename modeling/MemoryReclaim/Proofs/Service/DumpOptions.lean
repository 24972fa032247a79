import MemoryReclaim.Host.Scripted
import MemoryReclaim.Service.Dump

/-!
# Options of a dump

Arguments are read once from the left: an option closes the group of the one before it.  Seen
from the whole list, an option has the values that stand between its last place and the next
option, and the values in front of all options go to the first one.  The dump looks at the
options only, so neither their order nor their values matter.
-/

namespace MemoryReclaim

namespace Dump

variable {option next : String} {values arguments before between after rest : List String}

/-! ## The arguments as a whole -/

/-- The arguments that count as values. -/
def valuesIn (arguments : List String) : List String :=
  arguments.filter fun argument => !argument.isEmpty && !isOption argument

theorem valuesIn_cons (argument : String) (later : List String) :
    valuesIn (argument :: later) = valuesIn [argument] ++ valuesIn later :=
  List.filter_append [argument] later

/-- The values that an option after these arguments takes from before it: only a first option
takes any. -/
def leading (before : List String) : List String :=
  if before.any isOption then [] else valuesIn before

/-- The option stands in its last place, followed by arguments that are no options up to the
next option or the end. -/
structure LastPlace (arguments : List String) (option : String)
    (before between after : List String) : Prop where
  whole : arguments = before ++ option :: (between ++ after)
  opens : isOption option = true
  plain : ∀ argument ∈ between, isOption argument = false
  stops : ∀ next ∈ after.head?, isOption next = true
  last : option ∉ after

/-- An option among the arguments has a last place. -/
theorem exists_lastPlace (hmem : option ∈ arguments) (hoption : isOption option = true) :
    ∃ before between after, LastPlace arguments option before between after := by
  -- The last place is the first one of the reversed list.
  obtain ⟨later, earlier, hreverse, hlast⟩ :=
    List.eq_append_cons_of_mem (List.mem_reverse.2 hmem)
  have hwhole : arguments = earlier.reverse ++ option :: later.reverse := by
    rw [← arguments.reverse_reverse, hreverse]
    simp
  let plain := fun argument => !isOption argument
  refine ⟨earlier.reverse, later.reverse.takeWhile plain, later.reverse.dropWhile plain, ?_,
    hoption, fun argument hmem => ?_, fun next hnext => ?_, fun hafter => ?_⟩
  · rw [List.takeWhile_append_dropWhile, hwhole]
  · simpa [plain] using List.all_eq_true.1 List.all_takeWhile argument hmem
  · have hstop := List.head?_dropWhile_not plain later.reverse
    rw [hnext] at hstop
    simpa [plain] using hstop
  · exact hlast (List.mem_reverse.1 ((List.dropWhile_sublist plain).subset hafter))

/-! ## Reading from the left -/

theorem isEmpty_of_isOption (hoption : isOption option = true) : option.isEmpty = false := by
  rw [← Bool.not_eq_true, String.isEmpty_iff]
  rintro rfl
  simp [isOption] at hoption

theorem groupsAfter_option (hnext : isOption next = true) (values rest : List String) :
    groupsAfter option values (next :: rest) = ⟨option, values⟩ :: groupsAfter next [] rest := by
  rw [groupsAfter, isEmpty_of_isOption hnext, hnext]
  rfl

theorem groupsFrom_option (hnext : isOption next = true) (values rest : List String) :
    groupsFrom values (next :: rest) = groupsAfter next values rest := by
  rw [groupsFrom, isEmpty_of_isOption hnext, hnext]
  rfl

theorem groupsAfter_value (hplain : isOption next = false) (values rest : List String) :
    groupsAfter option values (next :: rest) =
      groupsAfter option (values ++ valuesIn [next]) rest := by
  rw [groupsAfter, hplain]
  cases hempty : next.isEmpty <;> simp [valuesIn, hempty, hplain]

theorem groupsFrom_value (hplain : isOption next = false) (values rest : List String) :
    groupsFrom values (next :: rest) = groupsFrom (values ++ valuesIn [next]) rest := by
  rw [groupsFrom, hplain]
  cases hempty : next.isEmpty <;> simp [valuesIn, hempty, hplain]

theorem groupsAfter_plain (hplain : ∀ argument ∈ between, isOption argument = false) :
    groupsAfter option values (between ++ rest) =
      groupsAfter option (values ++ valuesIn between) rest := by
  induction between generalizing values with
  | nil => simp [valuesIn]
  | cons argument later ih =>
      rw [List.forall_mem_cons] at hplain
      rw [List.cons_append, groupsAfter_value hplain.1, ih hplain.2, List.append_assoc,
        ← valuesIn_cons]

/-- An option closes the groups before it. -/
theorem groupsAfter_append_option (hoption : isOption option = true) (first : String)
    (values before rest : List String) :
    ∃ earlier, groupsAfter first values (before ++ option :: rest) =
      earlier ++ groupsAfter option [] rest := by
  induction before generalizing first values with
  | nil => exact ⟨[⟨first, values⟩], groupsAfter_option hoption values rest⟩
  | cons argument later ih =>
      rw [List.cons_append]
      cases hargument : isOption argument with
      | false =>
          rw [groupsAfter_value hargument]
          exact ih first _
      | true =>
          obtain ⟨earlier, hearlier⟩ := ih argument []
          exact ⟨⟨first, values⟩ :: earlier, by rw [groupsAfter_option hargument, hearlier]; rfl⟩

/-- Where no option comes before it, the values collected so far go to the option. -/
theorem groupsFrom_append_option (hoption : isOption option = true)
    (values before rest : List String) :
    ∃ earlier, groupsFrom values (before ++ option :: rest) = earlier ++
      groupsAfter option (if before.any isOption then [] else values ++ valuesIn before) rest := by
  induction before generalizing values with
  | nil => exact ⟨[], by simp [groupsFrom_option hoption, valuesIn]⟩
  | cons argument later ih =>
      rw [List.cons_append]
      cases hargument : isOption argument with
      | false =>
          obtain ⟨earlier, hearlier⟩ := ih (values ++ valuesIn [argument])
          refine ⟨earlier, ?_⟩
          rw [groupsFrom_value hargument, hearlier, List.any_cons, hargument, Bool.false_or,
            List.append_assoc, ← valuesIn_cons]
      | true =>
          rw [groupsFrom_option hargument, List.any_cons, hargument, Bool.true_or, if_pos rfl]
          exact groupsAfter_append_option hoption argument values later rest

theorem option_groupsAfter (option : String) (values arguments : List String) :
    (groupsAfter option values arguments).map Group.option =
      option :: arguments.filter isOption := by
  induction arguments generalizing option values with
  | nil => rfl
  | cons argument later ih =>
      cases hargument : isOption argument with
      | false => rw [groupsAfter_value hargument, ih, List.filter_cons_of_neg (by simp [hargument])]
      | true =>
          rw [groupsAfter_option hargument, List.map_cons, ih, List.filter_cons_of_pos hargument]

theorem option_groupsFrom (values arguments : List String) :
    (groupsFrom values arguments).map Group.option = arguments.filter isOption := by
  induction arguments generalizing values with
  | nil => rfl
  | cons argument later ih =>
      cases hargument : isOption argument with
      | false => rw [groupsFrom_value hargument, ih, List.filter_cons_of_neg (by simp [hargument])]
      | true =>
          rw [groupsFrom_option hargument, option_groupsAfter, List.filter_cons_of_pos hargument]

/-- The next option closes the group of the one before it. -/
theorem groupsAfter_of_stop (hnext : ∀ next ∈ after.head?, isOption next = true) (option : String)
    (values : List String) :
    ∃ later, groupsAfter option values after = ⟨option, values⟩ :: later ∧
      later.map Group.option = after.filter isOption := by
  cases after with
  | nil => exact ⟨[], rfl, rfl⟩
  | cons next rest =>
      have hoption : isOption next = true := hnext next rfl
      refine ⟨groupsAfter next [] rest, groupsAfter_option hoption values rest, ?_⟩
      rw [option_groupsAfter, List.filter_cons_of_pos hoption]

/-! ## The values of an option -/

theorem mem_of_get?_options (hget : (options arguments).get? option = some values) :
    option ∈ arguments ∧ isOption option = true := by
  rw [options, OrdMap.get?_ofList, List.lookup_eq_some_iff] at hget
  obtain ⟨later, earlier, hgroups, -⟩ := hget
  have hpair : (option, values) ∈ (groups arguments).map fun group =>
      (group.option, group.values) := by
    rw [← List.mem_reverse, hgroups]
    exact List.mem_append_cons_self
  obtain ⟨group, hgroup, hsame⟩ := List.mem_map.1 hpair
  have hoption : option ∈ (groups arguments).map Group.option :=
    List.mem_map.2 ⟨group, hgroup, congrArg Prod.fst hsame⟩
  rwa [groups, option_groupsFrom, List.mem_filter] at hoption

theorem get?_of_lastPlace (hplace : LastPlace arguments option before between after) :
    (options arguments).get? option = some (leading before ++ valuesIn between) := by
  obtain ⟨earlier, hearlier⟩ :=
    groupsFrom_append_option hplace.opens [] before (between ++ after)
  obtain ⟨later, hlater, hoptions⟩ :=
    groupsAfter_of_stop hplace.stops option (leading before ++ valuesIn between)
  have hgroups : groups arguments =
      earlier ++ ⟨option, leading before ++ valuesIn between⟩ :: later := by
    rw [groups, hplace.whole, hearlier, groupsAfter_plain hplace.plain, List.nil_append,
      ← leading, hlater]
  rw [options, OrdMap.get?_ofList, List.lookup_eq_some_iff]
  refine ⟨(later.map fun group => (group.option, group.values)).reverse,
    (earlier.map fun group => (group.option, group.values)).reverse, ?_, fun pair hpair => ?_⟩
  · rw [hgroups]
    simp
  · -- A later group would be another place of the option.
    obtain ⟨group, hgroup, rfl⟩ := List.mem_map.1 (List.mem_reverse.1 hpair)
    have hafter : group.option ∈ after.filter isOption :=
      hoptions ▸ List.mem_map.2 ⟨group, hgroup, rfl⟩
    rw [bne_iff_ne]
    rintro rfl
    exact hplace.last (List.mem_filter.1 hafter).1

theorem get?_options_eq_some_iff :
    (options arguments).get? option = some values ↔
      ∃ before between after, LastPlace arguments option before between after ∧
        values = leading before ++ valuesIn between := by
  constructor
  · intro hget
    obtain ⟨hmem, hoption⟩ := mem_of_get?_options hget
    obtain ⟨before, between, after, hplace⟩ := exists_lastPlace hmem hoption
    rw [get?_of_lastPlace hplace, Option.some.injEq] at hget
    exact ⟨before, between, after, hplace, hget.symm⟩
  · rintro ⟨before, between, after, hplace, rfl⟩
    exact get?_of_lastPlace hplace

theorem contains_options :
    (options arguments).contains option = true ↔ option ∈ arguments ∧ isOption option = true := by
  rw [OrdMap.contains, Option.isSome_iff_exists]
  constructor
  · rintro ⟨values, hget⟩
    exact mem_of_get?_options hget
  · rintro ⟨hmem, hoption⟩
    obtain ⟨before, between, after, hplace⟩ := exists_lastPlace hmem hoption
    exact ⟨_, get?_of_lastPlace hplace⟩

theorem contains_options_of_isOption (hoption : isOption option = true) (arguments : List String) :
    (options arguments).contains option = decide (option ∈ arguments) := by
  rw [Bool.eq_iff_iff, contains_options, decide_eq_true_eq, and_iff_left hoption]

theorem options_eq_empty (hnone : ∀ argument ∈ arguments, isOption argument = false) :
    options arguments = .empty := by
  apply OrdMap.ext_get?
  intro option
  rw [OrdMap.get?_empty, Option.eq_none_iff_forall_ne_some]
  intro values hget
  obtain ⟨hmem, hoption⟩ := mem_of_get?_options hget
  rw [hnone option hmem] at hoption
  simp at hoption

end Dump

namespace Service

variable {σ : Type} {setup : Setup σ} {service : Service σ} {arguments : List String}

theorem dumpSections_fst :
    (service.dumpSections setup (Dump.options arguments)).1 =
      (if "-a" ∈ arguments then
        Dump.bundlesText (service.table.expire setup.rules (service.clock setup).1).byImportance
        else "") ++
      (if "-l" ∈ arguments then Dump.levelText service.killLevel service.cycles else "") ++
      (if "-c" ∈ arguments then Dump.levelsText setup.levels else "") := by
  rw [dumpSections, Dump.contains_options_of_isOption (by decide),
    Dump.contains_options_of_isOption (by decide), Dump.contains_options_of_isOption (by decide)]
  simp only [decide_eq_true_eq]
  by_cases hbundles : "-a" ∈ arguments
  · simp only [if_pos hbundles]
    rfl
  · simp only [if_neg hbundles]

theorem dump_eq :
    service.dump setup arguments =
      if "-h" ∈ arguments ∨ ("-a" ∉ arguments ∧ "-l" ∉ arguments ∧ "-c" ∉ arguments) then
        (Dump.help, service)
      else service.dumpSections setup (Dump.options arguments) := by
  have hcontains : ∀ option, Dump.isOption option = true →
      (Dump.options arguments).contains option = decide (option ∈ arguments) :=
    fun _ hoption => Dump.contains_options_of_isOption hoption arguments
  have hasked : ((Dump.options arguments).contains "-a" || (Dump.options arguments).contains "-l" ||
      (Dump.options arguments).contains "-c") && !(Dump.options arguments).contains "-h" ↔
      ¬ ("-h" ∈ arguments ∨ ("-a" ∉ arguments ∧ "-l" ∉ arguments ∧ "-c" ∉ arguments)) := by
    rw [hcontains "-h" (by decide), hcontains "-a" (by decide), hcontains "-l" (by decide),
      hcontains "-c" (by decide)]
    grind
  rw [dump]
  simp only [hasked, ite_not]

/-- Lists with the same options ask for the same dump. -/
theorem dump_congr {others : List String}
    (hothers : ∀ option, option ∈ (Dump.options others).keys ↔
      option ∈ (Dump.options arguments).keys) :
    service.dump setup others = service.dump setup arguments := by
  have hsame : ∀ option,
      (Dump.options others).contains option = (Dump.options arguments).contains option := by
    intro option
    rw [Bool.eq_iff_iff, ← OrdMap.mem_keys, ← OrdMap.mem_keys, hothers]
  rw [dump, dump, dumpSections, dumpSections, hsame, hsame, hsame, hsame]

/-- The options of a dump are the arguments that begin with a dash.  Each has the values
between its last place and the next option, and the first option also those in front of it if
that is its last place.  The text is help where help is asked for or no section is, and
otherwise the sections asked for in their fixed order; for one service at one time it depends
on the options only. -/
theorem dump_follows_options (setup : Setup σ) (service : Service σ) (arguments : List String) :
    let fresh := service.table.expire setup.rules (service.clock setup).1
    (∀ option, option ∈ (Dump.options arguments).keys ↔
      option ∈ arguments ∧ Dump.isOption option = true) ∧
    (∀ option values, (Dump.options arguments).get? option = some values ↔
      ∃ before between after, Dump.LastPlace arguments option before between after ∧
        values = Dump.leading before ++ Dump.valuesIn between) ∧
    ((∀ argument ∈ arguments, Dump.isOption argument = false) →
      Dump.options arguments = .empty) ∧
    (service.dump setup arguments).1 =
      (if (∀ argument ∈ arguments, Dump.isOption argument = false) ∨ "-h" ∈ arguments ∨
          ("-a" ∉ arguments ∧ "-l" ∉ arguments ∧ "-c" ∉ arguments) then Dump.help
      else
        (if "-a" ∈ arguments then Dump.bundlesText fresh.byImportance else "") ++
        (if "-l" ∈ arguments then Dump.levelText service.killLevel service.cycles else "") ++
        (if "-c" ∈ arguments then Dump.levelsText setup.levels else "")) ∧
    (∀ others, (∀ option, option ∈ (Dump.options others).keys ↔
        option ∈ (Dump.options arguments).keys) →
      service.dump setup others = service.dump setup arguments) := by
  intro fresh
  refine ⟨fun option => ?_, fun _ _ => Dump.get?_options_eq_some_iff, Dump.options_eq_empty, ?_,
    fun _ => dump_congr⟩
  · rw [OrdMap.mem_keys, Dump.contains_options]
  · -- Where no argument is an option, no section is asked for.
    have hnone : (∀ argument ∈ arguments, Dump.isOption argument = false) →
        "-a" ∉ arguments ∧ "-l" ∉ arguments ∧ "-c" ∉ arguments := by
      intro hplain
      exact ⟨fun hmem => absurd (hplain _ hmem) (by decide),
        fun hmem => absurd (hplain _ hmem) (by decide),
        fun hmem => absurd (hplain _ hmem) (by decide)⟩
    rw [dump_eq, apply_ite Prod.fst, dumpSections_fst]
    simp only [or_iff_right_of_imp fun hplain => Or.inr (hnone hplain)]
    rfl

/-- Of the two places of `-a` only the second counts, and that is not the first option, so the
value in front is lost.  The same options without values and in another order ask for the same
dump. -/
theorem dump_follows_options_repeated :
    let setup : Setup Script := ⟨Script.host, .nameless, .default, "/proc"⟩
    let service := start Script.start
    let arguments := ["stray", "-a", "12", "-l", "", "13", "-a", "14"]
    let others := ["-l", "-a"]
    (Dump.options arguments).get? "-a" = some ["14"] ∧
      (Dump.options arguments).get? "-l" = some ["13"] ∧
      (Dump.options ["12", "-a"]).get? "-a" = some ["12"] ∧
      (service.dump setup arguments).1 =
        "bundles: 0\nkill level: 0\npressure cycles: 0\n" ∧
      service.dump setup others = service.dump setup arguments := by
  intro setup service arguments others
  obtain ⟨-, hvalues, -, htext, hsame⟩ := dump_follows_options setup service arguments
  obtain ⟨-, hleading, -⟩ := dump_follows_options setup service ["12", "-a"]
  refine ⟨(hvalues _ _).2 ?_, (hvalues _ _).2 ?_, (hleading _ _).2 ?_, htext.trans (by decide),
    hsame others ?_⟩
  · exact ⟨["stray", "-a", "12", "-l", "", "13"], ["14"], [],
      ⟨by decide, by decide, by decide, by decide, by decide⟩, by decide⟩
  · exact ⟨["stray", "-a", "12"], ["", "13"], ["-a", "14"],
      ⟨by decide, by decide, by decide, by decide, by decide⟩, by decide⟩
  · exact ⟨["12"], [], [], ⟨by decide, by decide, by decide, by decide, by decide⟩, by decide⟩
  · have hkeys : (Dump.options others).keys = (Dump.options arguments).keys := by decide
    exact fun option => by rw [hkeys]

end Service

end MemoryReclaim
