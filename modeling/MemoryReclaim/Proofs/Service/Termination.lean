import MemoryReclaim.Host.Scripted
import MemoryReclaim.Proofs.Service.Applied
import MemoryReclaim.Proofs.Table.Departures

/-!
# The end of a process

The end of a process is looked up by its pid alone: whoever is tracked under that pid goes,
under whatever identity.  As every binding is kept on both sides, the other records lose
their bindings with it and nothing else.
-/

namespace MemoryReclaim

namespace Service

variable {σ : Type}

/-- In every run, an event that a process ended takes out whoever is tracked under its pid.
Every other process keeps its owner and its record, but for bindings with the one that
went, and every bundle that is still there stands as it stood.  A pid that is not tracked
changes nothing; and where the pid is not tracked under another key, only the process
that the event names goes. -/
theorem termination_goes_by_pid (setup : Setup σ) (host : σ) (actions : List Action)
    (action : Action) (request : ResolvedRequest)
    (happlied : ((start host).run setup actions).applied? setup action = some request)
    (hended : request.reason = .processTerminated) :
    let service := (start host).run setup actions
    let before := service.table
    let after := (service.act setup action).table
    let pid := request.target.pid
    (∀ other, after.owners.get? other = if pid = other then none else before.owners.get? other) ∧
    (∀ other, after.process? other =
      if pid = other then none
      else (before.process? other).map
        (.outlive setup.rules (service.clock setup).1 after.isForeground pid)) ∧
    (∀ key, Table.Inherits key before after) ∧
    (before.owners.get? pid = none → after = before) ∧
    ((∀ key, before.owners.get? pid = some key → key = request.target.key) →
      ∀ other key, before.owners.get? other = some key →
        after.owners.get? other = some key ∨ other = pid ∧ key = request.target.key) := by
  intro service before after pid
  have hafter : after = before.remove setup.rules (service.clock setup).1 pid := by
    have htable := (act_applies happlied).table_eq
    rwa [Table.apply, hended] at htable
  have howners : ∀ other, after.owners.get? other =
      if pid = other then none else before.owners.get? other := by
    rw [hafter]
    exact Table.owners_remove before pid
  refine ⟨howners, ?_, ?_, ?_, ?_⟩
  · rw [hafter]
    exact (run_table_paired setup host actions).process?_remove pid
  · rw [hafter]
    exact fun _ => .remove pid
  · intro huntracked
    rw [hafter, Table.remove, huntracked]
  · intro hidentity other key howner
    rw [howners]
    split
    · next hother =>
      rw [← hother] at howner
      exact .inr ⟨hother.symm, hidentity key howner⟩
    · exact .inl howner

/-- The end of an extension comes out of the queue: the process bound to it stays tracked
and is bound to it no more. -/
theorem termination_goes_by_pid_extension :
    let setup : Setup Script := ⟨Script.host, .nameless, .default, "/proc"⟩
    let actions : List Action :=
      [.startUpdates true,
        .update ⟨some ⟨200, 20010003, "gallery"⟩, ⟨100, 20010002, "camera"⟩, .bindExtension⟩,
        .notifyLifecycle (.single ⟨100, 20010002, "camera"⟩ .processTerminated)]
    let service := (start Script.start).run setup actions
    let after := (service.act setup .takeUpdate).table
    (service.table.process? 200).any (·.bindsToPid 100) ∧
      after.process? 100 = none ∧
      after.owners.get? 200 = some ⟨100, 20010003⟩ ∧
      (after.process? 200).any (fun process => !process.bindsToPid 100) := by
  intro setup actions service after
  have hended := termination_goes_by_pid setup Script.start actions .takeUpdate
    ⟨none, ⟨100, 20010002, "camera", 100⟩, .processTerminated⟩ (by decide) rfl
  obtain ⟨howners, hprocesses, -⟩ := hended
  refine ⟨by decide, hprocesses 100, ?_, by decide⟩
  rw [howners 200]
  decide

/-- The end of a process waits in the queue while its pid starts under another user, whose
process is then the one that is no longer tracked. -/
theorem termination_removes_reused_pid :
    let setup : Setup Script := ⟨Script.host, .nameless, .default, "/proc"⟩
    let actions : List Action :=
      [.startUpdates true,
        .notifyLifecycle (.single ⟨100, 20010002, "camera"⟩ .processTerminated),
        .update (.single ⟨100, 20010003, "gallery"⟩ .abilityStart)]
    let service := (start Script.start).run setup actions
    service.applied? setup .takeUpdate =
        some ⟨none, ⟨100, 20010002, "camera", 100⟩, .processTerminated⟩ ∧
      service.table.owners.get? 100 = some ⟨100, 20010003⟩ ∧
      (service.act setup .takeUpdate).table.process? 100 = none := by
  decide

end Service

end MemoryReclaim
