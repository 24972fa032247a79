import MemoryReclaim.Proofs.Table.Marking

/-!
# The bundle that the killer prefers

Which of two bundles is killed first, said without a ranking: the one with the higher
priority, among equals the one created later, and then the one of the lower user.  Where the
user decides the account, two bundles never tie, so among the candidates of a table one
precedes all the others; it is the first one of the ranking.
-/

namespace MemoryReclaim

/-- The left one of two bundles is killed before the right one. -/
def Bundle.Precedes (left right : Bundle) : Prop :=
  right.priority < left.priority ∨
    left.priority = right.priority ∧
      (right.created < left.created ∨ left.created = right.created ∧ left.uid < right.uid)

namespace Bundle

variable {left right : Bundle}

theorem killOrder_eq_gt_iff : Table.killOrder left right = .gt ↔ right.Precedes left := by
  rw [Table.killOrder, Precedes, Ordering.then_eq_gt, Ordering.then_eq_gt, Ordering.then_eq_eq,
    compare_gt_iff_gt, compare_gt_iff_gt, compare_gt_iff_gt, compare_eq_iff_eq,
    compare_eq_iff_eq, or_assoc, and_assoc, ← and_or_left]

theorem Precedes.asymm (hprecedes : left.Precedes right) : ¬ right.Precedes left := by
  grind [Precedes]

theorem precedes_or_precedes (huid : left.uid ≠ right.uid) :
    left.Precedes right ∨ right.Precedes left := by
  grind [Precedes]

end Bundle

namespace Table

/-- A bundle of the table that may be killed at `now`, with nothing below `floor` in it. -/
structure IsCandidate (protection : Seconds) (floor : Priority) (now : Seconds) (table : Table)
    (bundle : Bundle) : Prop where
  stored : table.bundle? bundle.key = some bundle
  floor_le : floor ≤ bundle.priority
  active : bundle.state = .active
  grown : protection ≤ now - bundle.created

/-- A candidate that precedes every other one. -/
structure IsBest (protection : Seconds) (floor : Priority) (now : Seconds) (table : Table)
    (best : Bundle) : Prop where
  candidate : table.IsCandidate protection floor now best
  precedes : ∀ other, table.IsCandidate protection floor now other → other ≠ best →
    best.Precedes other

variable {protection now : Seconds} {floor : Priority} {table : Table} {bundle best : Bundle}

theorem Consistent.isCandidate_iff (hconsistent : table.Consistent) :
    table.IsCandidate protection floor now bundle ↔
      bundle ∈ table.eligible protection floor now := by
  rw [mem_eligible, hconsistent.mem_values_iff, Bundle.isEligible, Bool.and_eq_true,
    decide_eq_true_eq, decide_eq_true_eq]
  constructor
  · intro hcandidate
    exact ⟨hcandidate.stored, hcandidate.floor_le, hcandidate.grown, hcandidate.active⟩
  · rintro ⟨hstored, hfloor, hgrown, hactive⟩
    exact ⟨hstored, hfloor, hactive, hgrown⟩

theorem IsBest.unique {other : Bundle} (hbest : table.IsBest protection floor now best)
    (hother : table.IsBest protection floor now other) : other = best := by
  by_contra hne
  exact (hbest.precedes other hother.candidate hne).asymm
    (hother.precedes best hbest.candidate (Ne.symm hne))

/-- Every user has one account, as far as the bundles of a table show. -/
def AccountsByUser (account : Uid → AccountId) (table : Table) : Prop :=
  ∀ key bundle, table.bundle? key = some bundle → bundle.account = account bundle.uid

variable {account : Uid → AccountId}

theorem AccountsByUser.expire {rules : Rules} (haccounts : table.AccountsByUser account) :
    (table.expire rules now).AccountsByUser account := by
  intro key bundle hbundle
  obtain ⟨former, hformer, halike⟩ := Inherits.expire hbundle
  have hkey := halike.key_eq
  rw [Bundle.key, Bundle.key, BundleKey.mk.injEq] at hkey
  rw [hkey.1, hkey.2]
  exact haccounts key former hformer

theorem AccountsByUser.uid_ne {other : Bundle} (haccounts : table.AccountsByUser account)
    (hbundle : table.bundle? bundle.key = some bundle)
    (hother : table.bundle? other.key = some other) (hne : other ≠ bundle) :
    bundle.uid ≠ other.uid := by
  intro huid
  have haccount : bundle.account = other.account := by
    rw [haccounts _ _ hbundle, haccounts _ _ hother, huid]
  have hkey : bundle.key = other.key := by
    rw [Bundle.key, Bundle.key, haccount, huid]
  rw [hkey, hother] at hbundle
  exact hne (Option.some.inj hbundle)

/-- The first bundle of the ranking precedes all others that may be killed. -/
theorem Consistent.isBest_head (hconsistent : table.Consistent)
    (haccounts : table.AccountsByUser account)
    (hhead : (table.eligible protection floor now).head? = some bundle) :
    table.IsBest protection floor now bundle := by
  obtain ⟨later, heligible⟩ := List.head?_eq_some_iff.1 hhead
  have hmem : bundle ∈ table.eligible protection floor now :=
    heligible ▸ List.mem_cons_self
  have hcandidate := hconsistent.isCandidate_iff.2 hmem
  have hordered : (table.eligible protection floor now).Pairwise
      fun left right => killOrder left right ≠ .gt :=
    (killable_pairwise floor table).sublist List.filter_sublist
  refine ⟨hcandidate, fun other hother hne => ?_⟩
  have huid := haccounts.uid_ne hcandidate.stored hother.stored hne
  have hlater : other ∈ later := by
    have hlisted := hconsistent.isCandidate_iff.1 hother
    rw [heligible] at hlisted
    exact (List.mem_cons.1 hlisted).resolve_left hne
  rw [heligible] at hordered
  have horder := (List.pairwise_cons.1 hordered).1 other hlater
  exact (Bundle.precedes_or_precedes huid).resolve_right fun hreverse =>
    horder (Bundle.killOrder_eq_gt_iff.2 hreverse)

end Table

end MemoryReclaim
