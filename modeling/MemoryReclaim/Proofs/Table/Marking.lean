import MemoryReclaim.Proofs.Table.Arrivals
import MemoryReclaim.Proofs.Table.Freshness
import MemoryReclaim.Service.Kill

/-!
# Marking a bundle as selected

The killer marks a bundle once it has selected it, and then asks for the ranking of the
whole table again.  The mark changes one entry of the table, in a way that no comparison
of bundles notices: the ranking of those that may still be killed is what it was before,
without the marked one.
-/

namespace MemoryReclaim

/-- The bundle once that under `key` waits for being killed. -/
def Bundle.marked (key : BundleKey) (bundle : Bundle) : Bundle :=
  if bundle.key = key then bundle.withState .waitingForKill else bundle

namespace Bundle

variable (key : BundleKey) (protection now : Seconds) (bundle : Bundle)

theorem key_marked : (bundle.marked key).key = bundle.key := by
  rw [marked]
  split <;> rfl

theorem priority_marked : (bundle.marked key).priority = bundle.priority := by
  rw [marked]
  split <;> rfl

theorem isActive_marked :
    decide ((bundle.marked key).state = .active) =
      (decide (bundle.state = .active) && decide (bundle.key ≠ key)) := by
  rw [marked]
  split
  · next hkey => simp [hkey, withState]
  · next hkey => simp [hkey]

theorem isEligible_marked :
    (bundle.marked key).isEligible protection now =
      (bundle.isEligible protection now && decide (bundle.key ≠ key)) := by
  have hcreated : (bundle.marked key).created = bundle.created := by
    rw [marked]
    split <;> rfl
  rw [isEligible, isEligible, isActive_marked, hcreated, Bool.and_assoc]

theorem killOrder_marked (left right : Bundle) :
    Table.killOrder (left.marked key) (right.marked key) = Table.killOrder left right := by
  simp only [marked]
  split <;> split <;> rfl

end Bundle

namespace Table

variable {rules : Rules} {now : Seconds} {table : Table} {key : BundleKey}

namespace Consistent

/-- The bundles of a table are found under their own keys. -/
theorem mem_values_iff {bundle : Bundle} (hconsistent : table.Consistent) :
    bundle ∈ table.bundles.values ↔ table.bundle? bundle.key = some bundle := by
  rw [OrdMap.mem_values]
  constructor
  · rintro ⟨key, hbundle⟩
    have hkey : bundle.key = key := hconsistent.key_eq hbundle
    exact hkey ▸ hbundle
  · exact fun hbundle => ⟨bundle.key, hbundle⟩

theorem keys_eq (hconsistent : table.Consistent) :
    table.bundles.values.map Bundle.key = table.bundles.keys := by
  rw [OrdMap.values, OrdMap.keys, List.map_map]
  apply List.map_congr_left
  rintro ⟨key, bundle⟩ hmem
  exact hconsistent.key_eq ((OrdMap.get?_eq_some_iff _).2 hmem)

theorem keys_nodup (hconsistent : table.Consistent) :
    (table.bundles.values.map Bundle.key).Nodup := by
  rw [hconsistent.keys_eq]
  exact table.bundles.keys_nodup

theorem values_setState (hconsistent : table.Consistent) (key : BundleKey) :
    (table.setState key .waitingForKill).2.bundles.values =
      table.bundles.values.map (Bundle.marked key) := by
  rw [Table.setState, OrdMap.values_modify, OrdMap.values, List.map_map]
  apply List.map_congr_left
  rintro ⟨found, bundle⟩ hmem
  have hkey : bundle.key = found := hconsistent.key_eq ((OrdMap.get?_eq_some_iff _).2 hmem)
  rw [Function.comp_apply, Bundle.marked, hkey]
  by_cases hfound : key = found
  · simp [hfound]
  · simp [hfound, Ne.symm hfound]

/-- The mark closes no window, so a second look at the same time finds none to close. -/
theorem expire_setState_expire (hconsistent : table.Consistent) (key : BundleKey)
    (state : BundleState) :
    (((table.expire rules now).setState key state).2).expire rules now =
      ((table.expire rules now).setState key state).2 := by
  have hexpired : (table.expire rules now).Consistent :=
    (consistent_partsKeep rules).expire hconsistent
  apply (hexpired.setState key state).expire_eq_self
  intro pid process hprocess
  rw [process?_setState] at hprocess
  exact abilityStartExpired_expire hconsistent hprocess

end Consistent

/-! ## Active bundles -/

/-- The keys of the bundles that are not marked. -/
def activeKeys (table : Table) : List BundleKey :=
  (table.bundles.values.filter fun bundle => bundle.state = .active).map Bundle.key

theorem Consistent.activeKeys_nodup (hconsistent : table.Consistent) :
    table.activeKeys.Nodup :=
  hconsistent.keys_nodup.sublist (List.filter_sublist.map _)

theorem activeKeys_modifyOwner (table : Table) (pid : Pid) {change : Bundle → Bundle}
    (hchange : ∀ bundle : Bundle, bundle.Alike (change bundle)) :
    (table.modifyOwner pid change).activeKeys = table.activeKeys := by
  have hkey : ∀ bundle, (change bundle).key = bundle.key := fun bundle => (hchange bundle).key_eq
  have hstate : ∀ bundle, (change bundle).state = bundle.state :=
    fun bundle => (hchange bundle).state_eq
  rw [modifyOwner]
  split
  · rfl
  · rw [activeKeys, OrdMap.values_modify, activeKeys, OrdMap.values]
    simp only [List.map_map, List.filter_map, Function.comp_def, apply_ite Bundle.key,
      apply_ite Bundle.state, hkey, hstate, ite_self]

theorem activeKeys_modifyProcess (table : Table) (pid : Pid)
    (change : ProcessRecord → ProcessRecord) :
    (table.modifyProcess pid change).activeKeys = table.activeKeys :=
  activeKeys_modifyOwner table pid fun _ => ⟨rfl, rfl, rfl, rfl⟩

theorem activeKeys_refresh (table : Table) (pid : Pid) :
    (table.refresh rules now pid).activeKeys = table.activeKeys := by
  rw [refresh]
  split
  · rfl
  · exact activeKeys_modifyOwner table pid fun _ => ⟨rfl, rfl, rfl, rfl⟩

@[simp]
theorem activeKeys_expire (table : Table) :
    (table.expire rules now).activeKeys = table.activeKeys :=
  foldl_invariant (motive := fun after => after.activeKeys = table.activeKeys)
    (fun pid hafter => by
      rw [endAbilityStart, activeKeys_refresh, activeKeys_modifyProcess, hafter]) rfl _

theorem activeKeys_setState (hconsistent : table.Consistent) (key : BundleKey) :
    (table.setState key .waitingForKill).2.activeKeys = table.activeKeys.erase key := by
  rw [hconsistent.activeKeys_nodup.erase_eq_filter, activeKeys, activeKeys,
    hconsistent.values_setState, List.filter_map, List.map_map, List.filter_map, List.filter_filter]
  have hkey : Bundle.key ∘ Bundle.marked key = Bundle.key := funext (Bundle.key_marked key)
  rw [hkey]
  congr 1
  apply List.filter_congr
  intro bundle _
  rw [Function.comp_apply, Function.comp_apply, Bundle.isActive_marked, Bool.and_comm, bne,
    decide_not, beq_eq_decide]

/-! ## Bundles that may be killed -/

/-- The bundles that the killer may choose from, in the order in which it prefers them. -/
def eligible (protection : Seconds) (floor : Priority) (now : Seconds) (table : Table) :
    List Bundle :=
  (table.killable floor).filter (Bundle.isEligible protection now)

variable {protection : Seconds} {floor : Priority}

theorem mem_eligible {bundle : Bundle} :
    bundle ∈ table.eligible protection floor now ↔
      bundle ∈ table.bundles.values ∧ floor ≤ bundle.priority ∧
        bundle.isEligible protection now := by
  rw [eligible, List.mem_filter, mem_killable, and_assoc]

theorem Consistent.eligible_keys_nodup (hconsistent : table.Consistent) :
    ((table.eligible protection floor now).map Bundle.key).Nodup := by
  have hkillable : ((table.killable floor).map Bundle.key).Nodup := by
    rw [killable, ((Sort.sortBy_perm killOrder _).map _).nodup_iff]
    exact hconsistent.keys_nodup.sublist (List.filter_sublist.map _)
  exact hkillable.sublist (List.filter_sublist.map _)

theorem Consistent.killable_setState (hconsistent : table.Consistent) (key : BundleKey) :
    (table.setState key .waitingForKill).2.killable floor =
      (table.killable floor).map (Bundle.marked key) := by
  rw [killable, killable, hconsistent.values_setState, List.filter_map,
    ← Sort.sortBy_map (Bundle.killOrder_marked key)]
  congr 2
  apply List.filter_congr
  intro bundle _
  rw [Function.comp_apply, Bundle.priority_marked]

/-- Once the first of them is marked, the others follow in the order they had. -/
theorem Consistent.eligible_setState (hconsistent : table.Consistent) {bundle : Bundle}
    {later : List Bundle} (heligible : table.eligible protection floor now = bundle :: later) :
    (table.setState bundle.key .waitingForKill).2.eligible protection floor now = later := by
  have hnodup : ((table.eligible protection floor now).map Bundle.key).Nodup :=
    hconsistent.eligible_keys_nodup
  rw [heligible, List.map_cons, List.nodup_cons] at hnodup
  have hother : ∀ other ∈ later, other.key ≠ bundle.key := by
    intro other hmem hkey
    exact hnodup.1 (List.mem_map.2 ⟨other, hmem, hkey⟩)
  calc (table.setState bundle.key .waitingForKill).2.eligible protection floor now
      = ((table.eligible protection floor now).filter
          fun other => other.key ≠ bundle.key).map (Bundle.marked bundle.key) := by
        rw [eligible, hconsistent.killable_setState, List.filter_map, eligible,
          List.filter_filter]
        congr 1
        apply List.filter_congr
        intro other _
        rw [Function.comp_apply, Bundle.isEligible_marked, Bool.and_comm]
    _ = (later.filter fun other => other.key ≠ bundle.key).map (Bundle.marked bundle.key) := by
        rw [heligible, List.filter_cons_of_neg (by simp)]
    _ = later.map (Bundle.marked bundle.key) := by
        rw [List.filter_eq_self.2 fun other hmem => decide_eq_true (hother other hmem)]
    _ = later.map id := List.map_congr_left fun other hmem => if_neg (hother other hmem)
    _ = later := List.map_id later

end Table

end MemoryReclaim
