import MemoryReclaim.Ordered.Sort
import MemoryReclaim.Table

/-!
# Rankings of bundles

The list for reports goes from the most to the least important bundle.  The list for
the killer goes the other way and prefers, among equals, the bundle created last.
-/

namespace MemoryReclaim.Table

def importanceOrder (left right : Bundle) : Ordering :=
  ((compare left.priority right.priority).then (compare left.account right.account)).then
    (compare left.uid right.uid)

def killOrder (left right : Bundle) : Ordering :=
  ((compare right.priority left.priority).then (compare right.created left.created)).then
    (compare left.uid right.uid)

def byImportance (table : Table) : List Bundle :=
  Sort.sortBy importanceOrder table.bundles.values

/-- Bundles at or above a priority, most killable first. -/
def killable (lowest : Priority) (table : Table) : List Bundle :=
  Sort.sortBy killOrder (table.bundles.values.filter fun bundle => lowest ≤ bundle.priority)

instance : Std.TransCmp importanceOrder :=
  inferInstanceAs (Std.TransCmp (compareLex
    (compareLex (compareOn Bundle.priority) (compareOn Bundle.account)) (compareOn Bundle.uid)))

instance : Std.TransCmp killOrder :=
  have : Std.TransCmp fun left right : Bundle => compareOn Bundle.priority right left :=
    Std.TransCmp.opposite
  have : Std.TransCmp fun left right : Bundle => compareOn Bundle.created right left :=
    Std.TransCmp.opposite
  inferInstanceAs (Std.TransCmp (compareLex (compareLex
    (fun left right : Bundle => compareOn Bundle.priority right left)
    (fun left right : Bundle => compareOn Bundle.created right left)) (compareOn Bundle.uid)))

theorem mem_byImportance {table : Table} {bundle : Bundle} :
    bundle ∈ table.byImportance ↔ bundle ∈ table.bundles.values :=
  (Sort.sortBy_perm importanceOrder _).mem_iff

theorem mem_killable {lowest : Priority} {table : Table} {bundle : Bundle} :
    bundle ∈ table.killable lowest ↔
      bundle ∈ table.bundles.values ∧ lowest ≤ bundle.priority := by
  rw [killable, (Sort.sortBy_perm killOrder _).mem_iff]
  simp

theorem killable_pairwise (lowest : Priority) (table : Table) :
    (table.killable lowest).Pairwise fun left right => killOrder left right ≠ .gt :=
  Sort.sortBy_pairwise killOrder _

end MemoryReclaim.Table
