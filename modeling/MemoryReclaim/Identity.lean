/-!
# Identities

Processes, users, accounts and applications as the reclaim service names them.  An
application is known by its bundle key: the account that runs it and its user id.
-/

namespace MemoryReclaim

abbrev Pid := Int
abbrev Uid := Int
abbrev AccountId := Int

/-- Seconds on the boot-time clock. -/
abbrev Seconds := Nat

abbrev Kilobytes := Nat

structure BundleKey where
  account : AccountId
  uid : Uid
  deriving DecidableEq

namespace BundleKey

def order (left right : BundleKey) : Ordering :=
  (compare left.account right.account).then (compare left.uid right.uid)

instance : Ord BundleKey := ⟨order⟩

theorem order_eq_lexicographic :
    (compare : BundleKey → BundleKey → Ordering) =
      compareLex (compareOn BundleKey.account) (compareOn BundleKey.uid) := rfl

instance : Std.TransOrd BundleKey := by
  unfold Std.TransOrd
  rw [order_eq_lexicographic]
  infer_instance

instance : Std.LawfulEqOrd BundleKey where
  eq_of_compare {left right} hcompare := by
    obtain ⟨haccount, huid⟩ := Ordering.then_eq_eq.1 hcompare
    cases left
    cases right
    simp_all [Std.LawfulEqCmp.compare_eq_iff_eq]
  compare_self := by simp [Std.ReflCmp.compare_self]

end BundleKey

/-- A process as an event names it; an empty name asks for a lookup. -/
structure Identity where
  pid : Pid
  uid : Uid
  name : String
  deriving DecidableEq

def Identity.unnamed (pid : Pid) (uid : Uid) : Identity := ⟨pid, uid, ""⟩

/-- A process whose application name and account are known. -/
structure ResolvedIdentity where
  pid : Pid
  uid : Uid
  name : String
  account : AccountId
  deriving DecidableEq

def ResolvedIdentity.key (identity : ResolvedIdentity) : BundleKey :=
  ⟨identity.account, identity.uid⟩

end MemoryReclaim
