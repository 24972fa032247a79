import MemoryReclaim.Proofs.Table.Lookup

/-!
# Histories of a table

A history lists the uses of a table with the times at which they took place.  What holds
after every history is proved here once: a property of the empty table that each part of
an operation keeps is kept by whole operations and so by every history, whatever its
times.  Properties that depend on the time are carried along histories in order.
-/

namespace MemoryReclaim.Table

/-- One use of a table. -/
inductive Operation
  | apply (request : ResolvedRequest)
  | expire
  | remove (pid : Pid)
  | setState (key : BundleKey) (state : BundleState)
  deriving DecidableEq

def perform (rules : Rules) (now : Seconds) (table : Table) : Operation → Table
  | .apply request => (table.apply rules now request).2
  | .expire => table.expire rules now
  | .remove pid => table.remove rules now pid
  | .setState key state => (table.setState key state).2

abbrev History := List (Seconds × Operation)

/-- The table that a history leads to. -/
def run (rules : Rules) (history : History) (table : Table) : Table :=
  history.foldl (fun table step => table.perform rules step.1 step.2) table

/-- The times of a history never go back, and none of them is after `now`. -/
def History.Chronological (history : History) (now : Seconds) : Prop :=
  (history.map Prod.fst ++ [now]).Pairwise (· ≤ ·)

instance (history : History) (now : Seconds) : Decidable (history.Chronological now) :=
  inferInstanceAs (Decidable (List.Pairwise _ _))

/-! ## From the parts of an operation to whole histories -/

/-- A property that every part keeps of which operations are made.  Only a pid without
an owner is ever given one. -/
structure PartsKeep (rules : Rules) (motive : Table → Prop) : Prop where
  remove : ∀ {table} now pid, motive table → motive (table.remove rules now pid)
  track : ∀ {table} now identity, table.owners.get? identity.pid = none → motive table →
    motive (table.track rules now identity)
  note : ∀ {table} reason now pid, motive table →
    motive (table.modifyProcess pid (.note reason now))
  bind : ∀ {table} binder target, motive table → motive (table.bind binder target)
  unbind : ∀ {table} binder target, motive table → motive (table.unbind binder target)
  refresh : ∀ {table} now pid, motive table → motive (table.refresh rules now pid)
  endAbilityStart : ∀ {table} now pid, motive table →
    motive (table.endAbilityStart rules now pid)
  setState : ∀ {table} key state, motive table → motive (table.setState key state).2

theorem foldl_invariant {motive : Table → Prop} {step : Table → Pid → Table}
    (hstep : ∀ {table} pid, motive table → motive (step table pid)) {table : Table}
    (htable : motive table) (pids : List Pid) : motive (pids.foldl step table) := by
  induction pids generalizing table with
  | nil => exact htable
  | cons pid later ih => exact ih (hstep pid htable)

namespace PartsKeep

variable {rules : Rules} {motive : Table → Prop} {table : Table} {now : Seconds}

theorem ensure (hkeep : PartsKeep rules motive) (htable : motive table)
    (identity : ResolvedIdentity) : motive (table.ensure rules now identity) := by
  rw [ensure_eq]
  split
  · exact htable
  · have hremoved := hkeep.remove now identity.pid htable
    exact hkeep.track now identity (by simp [owners_remove]) hremoved

theorem noteEvent (hkeep : PartsKeep rules motive) (htable : motive table)
    (request : ResolvedRequest) : motive (table.noteEvent rules now request) := by
  have hnoted : motive ((table.ensure rules now request.target).modifyProcess
      request.target.pid (.note request.reason now)) :=
    hkeep.note request.reason now request.target.pid (hkeep.ensure htable request.target)
  rw [Table.noteEvent, Table.rebind]
  split
  · exact hkeep.bind _ _ (hkeep.ensure hnoted _)
  · exact hkeep.unbind _ _ hnoted
  · exact hnoted

theorem expire (hkeep : PartsKeep rules motive) (htable : motive table) :
    motive (table.expire rules now) :=
  foldl_invariant (hkeep.endAbilityStart now) htable _

theorem applyLive (hkeep : PartsKeep rules motive) (htable : motive table)
    (request : ResolvedRequest) : motive (table.applyLive rules now request) := by
  rw [Table.applyLive]
  split
  · apply foldl_invariant (hkeep.refresh now)
    exact hkeep.refresh now _ (hkeep.expire (hkeep.noteEvent htable request))
  · exact hkeep.refresh now _ (hkeep.expire (hkeep.noteEvent htable request))

theorem apply (hkeep : PartsKeep rules motive) (htable : motive table)
    (request : ResolvedRequest) : motive (table.apply rules now request).2 := by
  rw [Table.apply]
  split
  · exact hkeep.remove now _ htable
  · exact hkeep.expire htable
  · exact hkeep.applyLive htable request

theorem perform (hkeep : PartsKeep rules motive) (htable : motive table) (now : Seconds)
    (operation : Operation) : motive (table.perform rules now operation) := by
  cases operation with
  | apply request => exact hkeep.apply htable request
  | expire => exact hkeep.expire htable
  | remove pid => exact hkeep.remove now pid htable
  | setState key state => exact hkeep.setState key state htable

/-- What the parts keep holds after every history, whatever its times. -/
theorem run (hkeep : PartsKeep rules motive) (htable : motive table) (history : History) :
    motive (table.run rules history) := by
  induction history generalizing table with
  | nil => exact htable
  | cons step later ih => exact ih (hkeep.perform htable step.1 step.2)

end PartsKeep

/-- What holds of a table as of the time of its last use, and is kept by every later
operation, holds after every history in order of time. -/
theorem run_chronological {rules : Rules} {motive : Seconds → Table → Prop}
    (hwait : ∀ {table earlier now}, earlier ≤ now → motive earlier table → motive now table)
    (hstep : ∀ {table now} operation, motive now table →
      motive now (table.perform rules now operation))
    {table : Table} (htable : motive 0 table) {history : History} {now : Seconds}
    (hchronological : history.Chronological now) : motive now (table.run rules history) := by
  -- The induction starts from any time, for it goes on from the time of the first step.
  have hgeneral : ∀ {start table}, motive start table →
      (start :: (history.map Prod.fst ++ [now])).Pairwise (· ≤ ·) →
        motive now (table.run rules history) := by
    clear hchronological htable
    induction history with
    | nil =>
        intro start table hstart htimes
        exact hwait (by simpa using htimes) hstart
    | cons step later ih =>
        intro start table hstart htimes
        obtain ⟨hfirst, hlater⟩ := List.pairwise_cons.1 htimes
        exact ih (hstep step.2 (hwait (hfirst step.1 (by simp)) hstart)) hlater
  exact hgeneral htable (List.pairwise_cons.2 ⟨fun _ _ => Nat.zero_le _, hchronological⟩)

end MemoryReclaim.Table
