import Mathlib.Order.Bounds.Basic
import Mathlib.Order.MinMax
import MemoryReclaim.Proofs.Table.Undoing
import MemoryReclaim.Proofs.Tier

/-!
# The tier as a minimum

The tier is found by going through the states in a fixed order.  Since the states are asked
for from the most important one on, the order does not show in the result: the tier is the
least of all the priorities that some fact about the process entitles it to.  More facts, a
lower floor, a wider grace window or an earlier time only ever entitle it to more.
-/

namespace MemoryReclaim.ProcessRecord

variable {window wider earlier now : Seconds} {priority : Priority}
variable {process before after : ProcessRecord}

/-- The priorities that the facts about a process entitle it to, one fact at a time. -/
inductive EntitledTo (window now : Seconds) (process : ProcessRecord) : Priority → Prop
  | background : EntitledTo window now process 400
  | floor {floor : Priority} (hfloor : process.floor = some floor) :
      EntitledTo window now process floor
  | foreground (hheld : process.isForeground) : EntitledTo window now process 0
  | visible (hheld : process.isVisible) : EntitledTo window now process 50
  | render (hheld : process.isRender) : EntitledTo window now process 50
  | boundFromForeground (hheld : process.bindStatus = .boundFromForeground) :
      EntitledTo window now process 100
  | backgroundRunning (hheld : process.isBackgroundRunning) : EntitledTo window now process 200
  | event (hheld : process.isEventStart) : EntitledTo window now process 200
  | abilityStarting (hheld : process.isAbilityStarting)
      (hopen : now - process.abilityStart < window) : EntitledTo window now process 250
  | suspendDelay (hheld : process.isSuspendDelay) : EntitledTo window now process 300
  | distDevice (hheld : process.isDistDevice) : EntitledTo window now process 350

theorem tier_le_of_entitledTo (hentitled : process.EntitledTo window now priority) :
    process.tier window now ≤ priority := by
  cases hentitled
  case background => exact process.tier_le_background window now
  case floor hfloor =>
    rw [tier, hfloor]
    exact Int.min_le_right _ _
  case abilityStarting hstarting hopen => exact tier_le_abilityStart hstarting hopen
  -- Once one of the other states is known to hold, only those asked for before it are left.
  all_goals apply Int.le_trans (process.tier_le_stateTier window now)
  case foreground hheld => exact Int.le_of_eq (if_pos hheld)
  case visible hheld =>
    simp only [stateTier, hheld, Bool.true_or, if_true]
    split_ifs <;> decide
  case render hheld =>
    simp only [stateTier, hheld, Bool.or_true, if_true]
    split_ifs <;> decide
  case boundFromForeground hheld =>
    simp only [stateTier, hheld, if_true]
    split_ifs <;> decide
  case backgroundRunning hheld =>
    simp only [stateTier, hheld, Bool.true_or, if_true]
    split_ifs <;> decide
  case event hheld =>
    simp only [stateTier, hheld, Bool.or_true, if_true]
    split_ifs <;> decide
  case suspendDelay hheld =>
    simp only [stateTier, hheld, if_true]
    split_ifs <;> decide
  case distDevice hheld =>
    simp only [stateTier, hheld, if_true]
    split_ifs <;> decide

theorem entitledTo_stateTier (window now : Seconds) (process : ProcessRecord) :
    process.EntitledTo window now (process.stateTier window now) := by
  rw [stateTier]
  split_ifs with hforeground hshown hbound hperceived hgrace hdelay hdevice
  · exact .foreground hforeground
  · rcases (Bool.or_eq_true _ _).mp hshown with hvisible | hrender
    · exact .visible hvisible
    · exact .render hrender
  · exact .boundFromForeground hbound
  · rcases (Bool.or_eq_true _ _).mp hperceived with hrunning | hevent
    · exact .backgroundRunning hrunning
    · exact .event hevent
  · obtain ⟨hstarting, hopen⟩ := (Bool.and_eq_true _ _).mp hgrace
    refine .abilityStarting hstarting ?_
    simpa [abilityStartExpired, hstarting] using hopen
  · exact .suspendDelay hdelay
  · exact .distDevice hdevice
  · exact .background

theorem entitledTo_tier (window now : Seconds) (process : ProcessRecord) :
    process.EntitledTo window now (process.tier window now) := by
  rw [tier]
  cases hfloor : process.floor with
  | none => exact process.entitledTo_stateTier window now
  | some floor =>
      rcases min_choice (process.stateTier window now) floor with hstate | hlower
      · simp only [hstate]
        exact process.entitledTo_stateTier window now
      · simp only [hlower]
        exact .floor hfloor

theorem tier_isLeast (window now : Seconds) (process : ProcessRecord) :
    IsLeast {priority | process.EntitledTo window now priority} (process.tier window now) :=
  ⟨process.entitledTo_tier window now, fun _ hentitled => tier_le_of_entitledTo hentitled⟩

/-- Every state of `before` still holds in `after`, and a floor is no higher.  What else a
record says may differ. -/
structure Promotion (before after : ProcessRecord) : Prop where
  floor : ∀ floor, before.floor = some floor → ∃ lower ≤ floor, after.floor = some lower
  foreground : before.isForeground → after.isForeground
  visible : before.isVisible → after.isVisible
  render : before.isRender → after.isRender
  bindStatus : before.bindStatus = .boundFromForeground →
    after.bindStatus = .boundFromForeground
  backgroundRunning : before.isBackgroundRunning → after.isBackgroundRunning
  event : before.isEventStart → after.isEventStart
  abilityStarting : before.isAbilityStarting →
    after.isAbilityStarting ∧ before.abilityStart ≤ after.abilityStart
  suspendDelay : before.isSuspendDelay → after.isSuspendDelay
  distDevice : before.isDistDevice → after.isDistDevice

namespace Promotion

/-- A promotion loses no entitlement, nor does a wider window or an earlier time. -/
theorem entitledTo (hpromotion : Promotion before after) (hwindow : window ≤ wider)
    (htime : earlier ≤ now) (hentitled : before.EntitledTo window now priority) :
    ∃ lower ≤ priority, after.EntitledTo wider earlier lower := by
  cases hentitled with
  | background => exact ⟨_, Int.le_refl _, .background⟩
  | floor hfloor =>
      obtain ⟨lower, hlower, hafter⟩ := hpromotion.floor _ hfloor
      exact ⟨lower, hlower, .floor hafter⟩
  | foreground hheld => exact ⟨_, Int.le_refl _, .foreground (hpromotion.foreground hheld)⟩
  | visible hheld => exact ⟨_, Int.le_refl _, .visible (hpromotion.visible hheld)⟩
  | render hheld => exact ⟨_, Int.le_refl _, .render (hpromotion.render hheld)⟩
  | boundFromForeground hheld =>
      exact ⟨_, Int.le_refl _, .boundFromForeground (hpromotion.bindStatus hheld)⟩
  | backgroundRunning hheld =>
      exact ⟨_, Int.le_refl _, .backgroundRunning (hpromotion.backgroundRunning hheld)⟩
  | event hheld => exact ⟨_, Int.le_refl _, .event (hpromotion.event hheld)⟩
  | abilityStarting hheld hopen =>
      obtain ⟨hstarting, hstart⟩ := hpromotion.abilityStarting hheld
      have hpassed : earlier - after.abilityStart ≤ now - before.abilityStart :=
        Nat.le_trans (Nat.sub_le_sub_right htime _) (Nat.sub_le_sub_left hstart _)
      exact ⟨_, Int.le_refl _, .abilityStarting hstarting
        (Nat.lt_of_lt_of_le (Nat.lt_of_le_of_lt hpassed hopen) hwindow)⟩
  | suspendDelay hheld => exact ⟨_, Int.le_refl _, .suspendDelay (hpromotion.suspendDelay hheld)⟩
  | distDevice hheld => exact ⟨_, Int.le_refl _, .distDevice (hpromotion.distDevice hheld)⟩

theorem tier_le (hpromotion : Promotion before after) (hwindow : window ≤ wider)
    (htime : earlier ≤ now) : after.tier wider earlier ≤ before.tier window now := by
  obtain ⟨lower, hlower, hentitled⟩ :=
    hpromotion.entitledTo hwindow htime (before.entitledTo_tier window now)
  exact Int.le_trans (tier_le_of_entitledTo hentitled) hlower

theorem refl (process : ProcessRecord) : Promotion process process where
  floor floor hfloor := ⟨floor, Int.le_refl _, hfloor⟩
  foreground := id
  visible := id
  render := id
  bindStatus := id
  backgroundRunning := id
  event := id
  abilityStarting hstarting := ⟨hstarting, Nat.le_refl _⟩
  suspendDelay := id
  distDevice := id

end Promotion

/-- The event that starts a state promotes the process. -/
theorem note_start_promotion (phase : Phase) (now : Seconds) (process : ProcessRecord) :
    Promotion process (process.note phase.start now) := by
  have hsame := Promotion.refl process
  cases phase with
  | foreground => exact { hsame with foreground := fun _ => rfl }
  | visible => exact { hsame with visible := fun _ => rfl }
  | backgroundRunning => exact { hsame with backgroundRunning := fun _ => rfl }
  | suspendDelay => exact { hsame with suspendDelay := fun _ => rfl }
  | eventStart => exact { hsame with event := fun _ => rfl }
  | distDevice => exact { hsame with distDevice := fun _ => rfl }

/-- Where the event that ends a state is undone, the process is promoted. -/
theorem note_finish_promotion (phase : Phase) (now : Seconds) (process : ProcessRecord) :
    Promotion (process.note phase.finish now) process := by
  have hsame := Promotion.refl process
  cases phase with
  | foreground => exact { hsame with foreground := fun hheld => nomatch hheld }
  | visible => exact { hsame with visible := fun hheld => nomatch hheld }
  | backgroundRunning => exact { hsame with backgroundRunning := fun hheld => nomatch hheld }
  | suspendDelay => exact { hsame with suspendDelay := fun hheld => nomatch hheld }
  | eventStart => exact { hsame with event := fun hheld => nomatch hheld }
  | distDevice => exact { hsame with distDevice := fun hheld => nomatch hheld }

/-- The tier is the least priority that the process is entitled to.  So a further state, a
floor that is new or lower, or a binding from the foreground never makes a process more
killable, and the mere passage of time never makes it less. -/
theorem tier_least_and_monotone (window now : Seconds) (process : ProcessRecord) :
    IsLeast {priority | process.EntitledTo window now priority} (process.tier window now) ∧
      (∀ promoted, Promotion process promoted →
        promoted.tier window now ≤ process.tier window now) ∧
      ∀ later, now ≤ later → process.tier window now ≤ process.tier window later :=
  ⟨process.tier_isLeast window now,
    fun _ hpromotion => hpromotion.tier_le (Nat.le_refl _) (Nat.le_refl _),
    fun _ hlater => (Promotion.refl process).tier_le (Nat.le_refl _) hlater⟩

/-- A task with a suspend delay has just started an ability.  With an event, a floor and a
binding from the foreground, the binding counts; with the event alone, the event does.  Left
alone, it falls back to the suspend delay once its grace is over, and to the background when
that delay is ended. -/
theorem tier_least_and_monotone_suspended :
    let process := { (background 7 20010007).startAbility 100 with isSuspendDelay := true }
    let promoted :=
      { process with
        floor := some 120
        isEventStart := true
        bindStatus := .boundFromForeground }
    let noticed := process.note Phase.eventStart.start 109
    let ended := process.note Phase.suspendDelay.finish 109
    IsLeast {priority | process.EntitledTo 10 109 priority} 250 ∧
      Promotion process promoted ∧ promoted.tier 10 109 = 100 ∧
      promoted.tier 10 109 ≤ process.tier 10 109 ∧
      noticed.tier 10 109 = 200 ∧ noticed.tier 10 109 ≤ process.tier 10 109 ∧
      process.tier 10 110 = 300 ∧ process.tier 10 109 ≤ process.tier 10 110 ∧
      ended.tier 10 110 = 400 ∧ process.tier 10 110 ≤ ended.tier 10 110 := by
  intro process promoted noticed ended
  have hpromotion : Promotion process promoted :=
    { Promotion.refl process with
      floor := fun _ hfloor => nomatch hfloor
      event := fun _ => rfl
      bindStatus := fun _ => rfl }
  obtain ⟨hleast, hpromoted, hlater⟩ := tier_least_and_monotone 10 109 process
  have hnoticed := hpromoted noticed (process.note_start_promotion .eventStart 109)
  have hended := (tier_least_and_monotone 10 110 ended).2.1 process
    (process.note_finish_promotion .suspendDelay 109)
  exact ⟨hleast, hpromotion, rfl, hpromoted promoted hpromotion, rfl, hnoticed, rfl,
    hlater 110 (by decide), rfl, hended⟩

end MemoryReclaim.ProcessRecord
