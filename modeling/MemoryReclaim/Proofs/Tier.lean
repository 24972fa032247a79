import Mathlib.Tactic.SplitIfs
import MemoryReclaim.ProcessRecord.Tier

/-!
# Tiers and time

The grace window after an ability start is all that a tier takes from the time.  The
window only ever closes, so a process that is left alone only gets less important.
-/

namespace MemoryReclaim.ProcessRecord

variable {window earlier now : Seconds} {process : ProcessRecord}

/-- A floor can only make a process more important. -/
theorem tier_le_stateTier (window now : Seconds) (process : ProcessRecord) :
    process.tier window now ≤ process.stateTier window now := by
  rw [tier]
  cases process.floor with
  | none => exact Int.le_refl _
  | some floor => exact Int.min_le_left _ _

theorem tier_le_background (window now : Seconds) (process : ProcessRecord) :
    process.tier window now ≤ .background := by
  have hstate : process.stateTier window now ≤ .background := by
    rw [stateTier]
    split_ifs <;> decide
  exact Int.le_trans (process.tier_le_stateTier window now) hstate

/-- Inside its grace window no process is less important than the window makes it. -/
theorem tier_le_abilityStart (hstarting : process.isAbilityStarting)
    (hopen : now - process.abilityStart < window) : process.tier window now ≤ .abilityStart := by
  have hgrace : (process.isAbilityStarting && !process.abilityStartExpired window now) = true := by
    simp [abilityStartExpired, hstarting, hopen]
  have hstate : process.stateTier window now ≤ .abilityStart := by
    simp only [stateTier, hgrace, if_true]
    split_ifs <;> decide
  exact Int.le_trans (process.tier_le_stateTier window now) hstate

theorem abilityStartExpired_mono (hle : earlier ≤ now)
    (hexpired : process.abilityStartExpired window earlier) :
    process.abilityStartExpired window now := by
  simp only [abilityStartExpired, Bool.and_eq_true, decide_eq_true_eq] at hexpired ⊢
  exact ⟨hexpired.1, Nat.le_trans hexpired.2 (Nat.sub_le_sub_right hle _)⟩

/-- Until the window closes, time makes no difference. -/
theorem stateTier_eq_of_le (hle : earlier ≤ now)
    (hopen : process.abilityStartExpired window now = false) :
    process.stateTier window earlier = process.stateTier window now := by
  have hbefore : process.abilityStartExpired window earlier = false := by
    apply Bool.eq_false_iff.2
    intro hexpired
    rw [abilityStartExpired_mono hle hexpired] at hopen
    cases hopen
  rw [stateTier, stateTier, hbefore, hopen]

theorem tier_eq_of_le (hle : earlier ≤ now)
    (hopen : process.abilityStartExpired window now = false) :
    process.tier window earlier = process.tier window now := by
  rw [tier, tier, stateTier_eq_of_le hle hopen]

theorem stateTier_mono (window : Seconds) (hle : earlier ≤ now) (process : ProcessRecord) :
    process.stateTier window earlier ≤ process.stateTier window now := by
  cases hclosed : process.abilityStartExpired window now with
  | false => exact Int.le_of_eq (stateTier_eq_of_le hle hclosed)
  | true =>
      simp only [stateTier, hclosed, Bool.not_true, Bool.and_false, Bool.false_eq_true, if_false]
      split_ifs <;> decide

theorem tier_mono (window : Seconds) (hle : earlier ≤ now) (process : ProcessRecord) :
    process.tier window earlier ≤ process.tier window now := by
  have hstate := process.stateTier_mono window hle
  rw [tier, tier]
  cases process.floor with
  | none => exact hstate
  | some floor =>
      exact Int.le_min.2 ⟨Int.le_trans (Int.min_le_left _ _) hstate, Int.min_le_right _ _⟩

end MemoryReclaim.ProcessRecord
