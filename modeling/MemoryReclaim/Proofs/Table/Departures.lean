import MemoryReclaim.Proofs.Table.Arrivals
import MemoryReclaim.Proofs.Table.Bindings

/-!
# Departures

What a process leaves behind when it goes.  As every binding is kept on both sides, the
record of a peer says by itself what the peer loses, and a record without a binding to the
one that goes is left as it is.
-/

namespace MemoryReclaim

namespace ProcessRecord

/-- A record without its bindings with `pid`; an extension that loses a binder is
evaluated anew. -/
def outlive (rules : Rules) (now : Seconds) (isForeground : Pid → Bool) (pid : Pid)
    (process : ProcessRecord) : ProcessRecord :=
  let unbound := process.dropBinding pid
  if process.isBoundBy pid then (unbound.dropBinder pid).renew rules now isForeground else unbound

theorem dropBinding_of_unbound {process : ProcessRecord} {pid : Pid}
    (hunbound : process.bindsTo.get? pid = none) : process.dropBinding pid = process := by
  rw [dropBinding, OrdMap.erase_of_absent hunbound]

end ProcessRecord

namespace Table

variable {rules : Rules} {now : Seconds} {table : Table} {pid other : Pid}

/-- What a peer loses with its end is what the record of the peer says of it. -/
theorem Paired.partedFrom_eq (hpaired : table.Paired) {gone peer : ProcessRecord}
    (hgone : table.process? pid = some gone) (hpeer : table.process? other = some peer)
    (view : Pid → Bool) :
    gone.partedFrom rules now view pid other peer = peer.outlive rules now view pid := by
  have hbinder : gone.isBoundBy other = peer.bindsToPid pid := by
    have hboth := hpaired.isSome_iff other pid
    rw [binderUser?, targetUser?, hgone, hpeer] at hboth
    exact Bool.eq_iff_iff.2 hboth
  have htarget : gone.bindsToPid other = peer.isBoundBy pid := by
    have hboth := hpaired.isSome_iff pid other
    rw [binderUser?, targetUser?, hgone, hpeer] at hboth
    exact (Bool.eq_iff_iff.2 hboth).symm
  rw [ProcessRecord.partedFrom, ProcessRecord.outlive, hbinder, htarget]
  cases hbound : peer.bindsToPid pid with
  | true => rfl
  | false =>
      have hunbound : peer.bindsTo.get? pid = none := by
        rw [← Option.not_isSome_iff_eq_none]
        exact Bool.eq_false_iff.1 hbound
      rw [ProcessRecord.dropBinding_of_unbound hunbound]
      rfl

theorem Paired.outlive_eq_self (hpaired : table.Paired) {peer : ProcessRecord}
    (habsent : table.process? pid = none) (hpeer : table.process? other = some peer)
    (view : Pid → Bool) : peer.outlive rules now view pid = peer := by
  have hbinder : table.binderUser? pid other = none :=
    (hpaired.unbound_of_untracked habsent (.inl rfl)).1
  have htarget : table.targetUser? other pid = none :=
    (hpaired.unbound_of_untracked habsent (.inr rfl)).2
  rw [binderUser?, hpeer, Option.bind_some] at hbinder
  rw [targetUser?, hpeer, Option.bind_some] at htarget
  have hbound : peer.isBoundBy pid = false := by
    rw [ProcessRecord.isBoundBy, OrdMap.contains, hbinder]
    rfl
  rw [ProcessRecord.outlive, ProcessRecord.dropBinding_of_unbound htarget, hbound]
  rfl

/-- The end of a process, as every record sees it. -/
theorem Paired.process?_remove (hpaired : table.Paired) (pid other : Pid) :
    (table.remove rules now pid).process? other =
      if pid = other then none
      else (table.process? other).map
        (.outlive rules now (table.remove rules now pid).isForeground pid) := by
  cases hgone : table.process? pid with
  | none =>
      rw [process?_remove_untracked hgone]
      split
      · next hother => rw [← hother, hgone]
      · cases hpeer : table.process? other with
        | none => rfl
        | some peer => rw [Option.map_some, hpaired.outlive_eq_self hgone hpeer]
  | some gone =>
      rw [Table.process?_remove hgone, isForeground_remove]
      split
      · rfl
      · cases hpeer : table.process? other with
        | none => rfl
        | some peer => rw [Option.map_some, Option.map_some, hpaired.partedFrom_eq hgone hpeer]

end Table

end MemoryReclaim
