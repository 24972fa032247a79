import Mathlib.Algebra.Ring.Nat
import MemoryReclaim.Proofs.Service.Choices

/-!
# What a kill adds to the journal

The journal of a cycle is made of the same pieces over and over.  Before a process is killed
every subscriber is told once to give up what it can of it; a bundle that is selected ends
with all of its processes in order; a pass begins with one write to the report trigger.
`Registry.ShowsPass` is the grammar of a pass, and whole cycles show one such segment for
each of their passes.
-/

namespace MemoryReclaim

namespace Registry

/-- One delivery of a notice to each registered subscriber. -/
def told (notice : Notice) (registry : Registry) : List Event :=
  (registry.deliveries notice).map .delivered

/-- The end of one process, and what it freed. -/
def ending (registry : Registry) (process : ProcessRecord) (freed : Kilobytes) : List Event :=
  registry.told (.forceReclaim process.pid process.uid) ++ [.killed process.pid freed]

/-- The ends of several processes, one after the other. -/
def endings (registry : Registry) (ends : List (ProcessRecord × Kilobytes)) : List Event :=
  ends.flatMap fun (process, freed) => registry.ending process freed

theorem endings_cons (registry : Registry) (process : ProcessRecord) (freed : Kilobytes)
    (ends : List (ProcessRecord × Kilobytes)) :
    registry.endings ((process, freed) :: ends) =
      registry.ending process freed ++ registry.endings ends := rfl

/-- What a pass adds to the journal, by the bundle that it chose and the memory it gained. -/
inductive ShowsPass (registry : Registry) : Option Bundle → Kilobytes → List Event → Prop
  | idle (succeeded : Bool) :
      ShowsPass registry none 0 [.wrote reportTrigger limitedReport .truncate succeeded]
  | kill (succeeded : Bool) {bundle : Bundle} {ends : List (ProcessRecord × Kilobytes)}
      (hends : ends.map Prod.fst = bundle.procs.values) :
      ShowsPass registry (some bundle) (ends.map Prod.snd).sum
        (.wrote reportTrigger limitedReport .truncate succeeded :: .selected bundle.key ::
          registry.endings ends)

end Registry

namespace Service

variable {σ : Type} {setup : Setup σ}

/-! ## One bundle -/

theorem record_record (earlier later : List Event) (service : Service σ) :
    (service.record earlier).record later = service.record (earlier ++ later) := by
  rw [record, record, record, List.append_assoc]

theorem killReclaimed_eq (setup : Setup σ) (process : ProcessRecord) (service : Service σ) :
    ∃ host freed, service.killReclaimed setup process =
      (freed, { service with host }.record (service.registry.ending process freed)) := by
  refine ⟨(setup.host.kill process.pid service.host).2,
    (setup.host.kill process.pid service.host).1, ?_⟩
  rw [Registry.ending, ← record_record]
  rfl

/-- Killing processes in a row uses the host and writes down how each of them ended. -/
theorem killAll_eq (setup : Setup σ) (processes : List ProcessRecord) (service : Service σ) :
    ∃ host ends, ends.map Prod.fst = processes ∧
      service.killAll setup processes =
        ((ends.map Prod.snd).sum,
          { service with host }.record (service.registry.endings ends)) := by
  induction processes generalizing service with
  | nil =>
      refine ⟨service.host, [], rfl, ?_⟩
      rw [Registry.endings, List.flatMap_nil, record, List.append_nil]
      rfl
  | cons process later ih =>
      obtain ⟨used, freed, hfirst⟩ := killReclaimed_eq setup process service
      obtain ⟨host, ends, hends, hlater⟩ :=
        ih ({ service with host := used }.record (service.registry.ending process freed))
      refine ⟨host, (process, freed) :: ends, congrArg (process :: ·) hends, ?_⟩
      rw [killAll, hfirst]
      simp only [hlater]
      rw [Registry.endings_cons, ← record_record]
      rfl

theorem killBundle_eq (setup : Setup σ) (bundle : Bundle) (service : Service σ) :
    ∃ host ends, ends.map Prod.fst = bundle.procs.values ∧
      service.killBundle setup bundle =
        ((ends.map Prod.snd).sum,
          { service with
            host
            table := (service.table.setState bundle.key .waitingForKill).2 }.record
              (.selected bundle.key :: service.registry.endings ends)) := by
  obtain ⟨host, ends, hends, hkilled⟩ := killAll_eq setup bundle.procs.values
    (service.record [.selected bundle.key])
  refine ⟨host, ends, hends, ?_⟩
  rw [killBundle]
  simp only [hkilled]
  have hjournal : service.journal ++ [.selected bundle.key] ++ service.registry.endings ends =
      service.journal ++ .selected bundle.key :: service.registry.endings ends :=
    List.append_assoc _ _ _
  exact congrArg (fun journal => ((ends.map Prod.snd).sum,
    { service with
      host, journal, table := (service.table.setState bundle.key .waitingForKill).2 })) hjournal

/-! ## One pass -/

variable {floor : Priority}

/-- The memory that a pass gains. -/
def Pass.gain (setup : Setup σ) (pass : Pass σ) : Kilobytes :=
  (pass.start.killOne setup pass.floor).1

/-- Up to its kill a pass shows one segment, and it lets the registry be. -/
theorem passStart_shows (floor : Priority) (service : Service σ) :
    ∃ segment,
      service.registry.ShowsPass ((service.passStart setup).choice? setup floor)
        ((service.passStart setup).killOne setup floor).1 segment ∧
      ((service.passStart setup).killOne setup floor).2.journal = service.journal ++ segment ∧
      ((service.passStart setup).killOne setup floor).2.registry = service.registry := by
  obtain ⟨succeeded, hwrote⟩ : ∃ succeeded, (service.passStart setup).journal =
      service.journal ++ [.wrote reportTrigger limitedReport .truncate succeeded] := ⟨_, rfl⟩
  rw [killOne_eq]
  cases (service.passStart setup).choice? setup floor with
  | none => exact ⟨_, .idle succeeded, hwrote, rfl⟩
  | some bundle =>
      obtain ⟨host, ends, hends, hkilled⟩ := killBundle_eq setup bundle
        ((service.passStart setup).atChoice setup)
      simp only [hkilled]
      refine ⟨_, .kill succeeded hends, ?_, rfl⟩
      exact (congrArg (· ++ _) hwrote).trans (List.append_assoc _ _ _)

theorem journal_passEnd (floor : Priority) (start : Service σ) :
    (start.passEnd setup floor).journal = (start.killOne setup floor).2.journal := by
  rw [passEnd, measure]

theorem registry_passEnd (floor : Priority) (start : Service σ) :
    (start.passEnd setup floor).registry = (start.killOne setup floor).2.registry := by
  rw [passEnd, measure]

theorem passEnd_shows (floor : Priority) (service : Service σ) :
    ∃ segment,
      service.registry.ShowsPass ((service.passStart setup).choice? setup floor)
        ((service.passStart setup).killOne setup floor).1 segment ∧
      ((service.passStart setup).passEnd setup floor).journal = service.journal ++ segment ∧
      ((service.passStart setup).passEnd setup floor).registry = service.registry := by
  rw [journal_passEnd, registry_passEnd]
  exact passStart_shows floor service

@[simp]
theorem journal_publishLevel (level : Nat) (service : Service σ) :
    (service.publishLevel level).journal = service.journal := rfl

@[simp]
theorem registry_publishLevel (level : Nat) (service : Service σ) :
    (service.publishLevel level).registry = service.registry := rfl

/-! ## Whole cycles -/

/-- The segments of several passes. -/
abbrev Shows (setup : Setup σ) (registry : Registry) (passes : List (Pass σ))
    (segments : List (List Event)) : Prop :=
  List.Forall₂ (fun pass segment =>
    registry.ShowsPass (pass.choice? setup) (pass.gain setup) segment) passes segments

theorem killPasses_shows (setup : Setup σ) (target : KillTarget) (deficit : Kilobytes)
    (left kills : Nat) (freed : Kilobytes) (service : Service σ) :
    ∃ segments,
      Shows setup service.registry
        ((service.passStarts setup target deficit left freed).map (⟨target.floor, ·⟩)) segments ∧
      (service.killPasses setup target deficit left kills freed).2.journal =
        service.journal ++ segments.flatten ∧
      (service.killPasses setup target deficit left kills freed).2.registry =
        service.registry := by
  have hlast : ∀ service : Service σ, ∃ segments,
      Shows setup service.registry [⟨target.floor, service.passStart setup⟩] segments ∧
      (((service.passStart setup).passEnd setup target.floor).publishLevel 0).journal =
        service.journal ++ segments.flatten ∧
      (((service.passStart setup).passEnd setup target.floor).publishLevel 0).registry =
        service.registry := by
    intro service
    obtain ⟨segment, hshows, hjournal, hregistry⟩ := passEnd_shows target.floor service
    refine ⟨[segment], .cons hshows .nil, ?_, ?_⟩
    · rw [journal_publishLevel, List.flatten_singleton, hjournal]
    · rw [registry_publishLevel, hregistry]
  apply killPasses_induction (motive := fun _ _ _ service result starts =>
    ∃ segments,
      Shows setup service.registry (starts.map (⟨target.floor, ·⟩)) segments ∧
      result.2.journal = service.journal ++ segments.flatten ∧
      result.2.registry = service.registry)
  case cap => exact fun _ _ service => ⟨[], .nil, (List.append_nil _).symm, rfl⟩
  case covered => exact fun _ _ _ service _ => ⟨[], .nil, (List.append_nil _).symm, rfl⟩
  case nothing =>
    intro left kills freed service _ _
    obtain ⟨segment, hshows, hjournal, hregistry⟩ := passStart_shows target.floor service
    dsimp only
    refine ⟨[segment], .cons hshows .nil, ?_, hregistry⟩
    rw [List.flatten_singleton, hjournal]
  case lost => exact fun _ _ _ service _ _ _ _ _ => hlast service
  case recovered => exact fun _ _ _ service _ _ _ _ _ _ _ => hlast service
  case again =>
    intro left kills freed service gained available result starts _ _ _ _ _ ih
    obtain ⟨segment, hshows, hjournal, hregistry⟩ := passEnd_shows target.floor service
    obtain ⟨segments, hlater, hjournalLater, hregistryLater⟩ := ih
    rw [hregistry] at hlater hregistryLater
    refine ⟨segment :: segments, .cons hshows hlater, ?_, hregistryLater⟩
    rw [hjournalLater, hjournal, List.append_assoc, List.flatten_cons]

end Service

end MemoryReclaim
