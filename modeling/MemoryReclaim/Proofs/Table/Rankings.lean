import MemoryReclaim.Proofs.Table.Facts
import MemoryReclaim.Proofs.Table.Preference

/-!
# Rankings do not depend on how a table is walked

The table can list its bundles in any order: the sweep that ends grace windows touches each
record once and makes the same of it whatever was swept before, and a ranking puts every two
bundles in order.  The ranking for reports compares whole keys.  That for the killer compares
users without their accounts, and needs that each user belongs to one account.
-/

namespace MemoryReclaim

namespace Bundle

variable {left right : Bundle}

/-- The order of reports. -/
def MoreImportant (left right : Bundle) : Prop :=
  left.priority < right.priority ∨ left.priority = right.priority ∧
    (left.account < right.account ∨ left.account = right.account ∧ left.uid < right.uid)

theorem importanceOrder_eq_lt_iff :
    Table.importanceOrder left right = .lt ↔ left.MoreImportant right := by
  rw [Table.importanceOrder, Ordering.then_eq_lt, Ordering.then_eq_lt, Ordering.then_eq_eq,
    compare_lt_iff_lt, compare_lt_iff_lt, compare_lt_iff_lt, compare_eq_iff_eq,
    compare_eq_iff_eq, MoreImportant]
  tauto

theorem killOrder_eq_lt_iff : Table.killOrder left right = .lt ↔ left.Precedes right :=
  Std.OrientedCmp.gt_iff_lt.symm.trans killOrder_eq_gt_iff

end Bundle

namespace Table

variable {rules : Rules} {now : Seconds} {table : Table} {visited listed : List Bundle}
variable {account : Uid → AccountId}

/-! ## Walks -/

/-- The sweep over bundles that are met in the given order. -/
def expireVia (rules : Rules) (now : Seconds) (visited : List Bundle) (table : Table) : Table :=
  (((visited.flatMap fun bundle => bundle.procs.values).filter fun process =>
    process.abilityStartExpired rules.graceWindow now).map ProcessRecord.pid).foldl
      (endAbilityStart rules now) table

theorem expire_eq_expireVia (rules : Rules) (now : Seconds) (table : Table) :
    table.expire rules now = table.expireVia rules now table.bundles.values := rfl

theorem expireVia_consistent (hconsistent : table.Consistent) :
    (table.expireVia rules now visited).Consistent :=
  foldl_invariant ((consistent_partsKeep rules).endAbilityStart now) hconsistent _

theorem owners_expireVia : (table.expireVia rules now visited).owners = table.owners :=
  (touches_endAbilityStart rules now).owners_foldl _ _

theorem head_expireVia (hconsistent : table.Consistent) (key : BundleKey) :
    ((table.expireVia rules now visited).bundle? key).map Bundle.head =
      (table.bundle? key).map Bundle.head := by
  apply head_eq_of_inherits rfl _ .refl (expireVia_consistent hconsistent) hconsistent
  · intro pid
    rw [owners_expireVia]
  · exact .foldl (fun table pid => (Inherits.modifyProcess pid _).trans (.refresh _ pid)) _

/-- The order in which a sweep meets the bundles does not matter. -/
theorem expireVia_eq (hconsistent : table.Consistent)
    (hvisited : visited.Perm table.bundles.values) :
    table.expireVia rules now visited = table.expire rules now := by
  rw [expire_eq_expireVia]
  apply (expireVia_consistent hconsistent).eq_of_parts (expireVia_consistent hconsistent)
  · intro pid
    rw [owners_expireVia, owners_expireVia]
  · have hpids := ((hvisited.flatMap_right fun bundle => bundle.procs.values).filter
      fun process => process.abilityStartExpired rules.graceWindow now).map ProcessRecord.pid
    intro pid
    rw [expireVia, expireVia, (touches_endAbilityStart rules now).process?_foldl,
      (touches_endAbilityStart rules now).process?_foldl]
    simp only [hpids.mem_iff]
  · intro key
    rw [head_expireVia hconsistent, head_expireVia hconsistent]

/-! ## Rankings -/

/-- The ranking has each of the chosen bundles of the table once, and in strict order. -/
structure Ranks (table : Table) (chosen : Bundle → Prop) (order : Bundle → Bundle → Prop)
    (ranking : List Bundle) : Prop where
  keys_nodup : (ranking.map Bundle.key).Nodup
  mem_iff : ∀ bundle, bundle ∈ ranking ↔
    (∃ key, table.bundle? key = some bundle) ∧ chosen bundle
  strict : ranking.Pairwise order

namespace Consistent

theorem importanceOrder_ne_eq (hconsistent : table.Consistent) :
    table.bundles.values.Pairwise fun left right => importanceOrder left right ≠ .eq := by
  apply (List.pairwise_map.1 hconsistent.keys_nodup).imp
  intro left right hkey heq
  obtain ⟨hbefore, huid⟩ := Ordering.then_eq_eq.1 heq
  obtain ⟨-, haccount⟩ := Ordering.then_eq_eq.1 hbefore
  apply hkey
  rw [Bundle.key, Bundle.key, compare_eq_iff_eq.1 haccount, compare_eq_iff_eq.1 huid]

theorem killOrder_ne_eq (hconsistent : table.Consistent)
    (haccounts : table.AccountsByUser account) :
    table.bundles.values.Pairwise fun left right => killOrder left right ≠ .eq := by
  apply (List.pairwise_map.1 hconsistent.keys_nodup).imp_of_mem
  intro left right hleft hright hkey heq
  obtain ⟨-, huid⟩ := Ordering.then_eq_eq.1 heq
  have hne : right ≠ left := fun hsame => hkey (congrArg Bundle.key hsame.symm)
  exact haccounts.uid_ne (hconsistent.mem_values_iff.1 hleft)
    (hconsistent.mem_values_iff.1 hright) hne (compare_eq_iff_eq.1 huid)

theorem ranks_byImportance (hconsistent : table.Consistent) :
    table.Ranks (fun _ => True) Bundle.MoreImportant table.byImportance where
  keys_nodup := ((Sort.sortBy_perm importanceOrder _).map Bundle.key).nodup_iff.2
    hconsistent.keys_nodup
  mem_iff bundle := by
    rw [mem_byImportance, OrdMap.mem_values, and_true]
    rfl
  strict := (Sort.sortBy_strict hconsistent.importanceOrder_ne_eq).imp
    Bundle.importanceOrder_eq_lt_iff.1

theorem ranks_killable (hconsistent : table.Consistent)
    (haccounts : table.AccountsByUser account) (lowest : Priority) :
    table.Ranks (fun bundle => lowest ≤ bundle.priority) Bundle.Precedes
      (table.killable lowest) where
  keys_nodup := ((Sort.sortBy_perm killOrder _).map Bundle.key).nodup_iff.2
    (hconsistent.keys_nodup.sublist (List.filter_sublist.map Bundle.key))
  mem_iff bundle := by
    rw [mem_killable, OrdMap.mem_values]
    rfl
  strict := (Sort.sortBy_strict ((hconsistent.killOrder_ne_eq haccounts).filter _)).imp
    Bundle.killOrder_eq_lt_iff.1

theorem sortBy_importanceOrder (hconsistent : table.Consistent)
    (hlisted : listed.Perm table.bundles.values) :
    Sort.sortBy importanceOrder listed = table.byImportance :=
  (Sort.sortBy_eq_of_perm hconsistent.importanceOrder_ne_eq hlisted.symm).symm

theorem sortBy_killOrder (hconsistent : table.Consistent)
    (haccounts : table.AccountsByUser account) (lowest : Priority)
    (hlisted : listed.Perm table.bundles.values) :
    Sort.sortBy killOrder (listed.filter fun bundle => lowest ≤ bundle.priority) =
      table.killable lowest :=
  (Sort.sortBy_eq_of_perm ((hconsistent.killOrder_ne_eq haccounts).filter _)
    (hlisted.symm.filter _)).symm

end Consistent

end Table

end MemoryReclaim
