import MemoryReclaim.Proofs.Service.Action
import MemoryReclaim.Proofs.Service.Applied
import MemoryReclaim.Proofs.Service.Choices

/-!
# How far a cycle goes

The cap on kills counts the passes that gained memory, so a last bundle may be killed
without being counted.  It still takes the place of one that would have been: no cycle
selects more bundles than the cap.  Under a high cap a cycle ends because each of its
passes but the last makes one active bundle wait.
-/

namespace MemoryReclaim.Service

variable {σ : Type}

section Passes

variable (setup : Setup σ) (target : KillTarget) (deficit : Kilobytes) (left kills : Nat)
variable (freed : Kilobytes) (service : Service σ)

theorem takes_killPasses :
    Takes (((service.passStarts setup target deficit left freed).filterMap
        (choice? setup target.floor)).map Bundle.key) service
      (service.killPasses setup target deficit left kills freed).2 := by
  have hlast : ∀ service : Service σ,
      Takes (([service.passStart setup].filterMap (choice? setup target.floor)).map Bundle.key)
        service (((service.passStart setup).passEnd setup target.floor).publishLevel 0) := by
    intro service
    have hpublish : Quiet setup ((service.passStart setup).passEnd setup target.floor) _ :=
      .publishLevel 0
    rw [List.filterMap_eq_flatMap_toList, List.flatMap_singleton]
    exact (Takes.pass target.floor service).trans_quiet hpublish
  apply killPasses_induction (motive := fun _ _ _ service result starts =>
    Takes ((starts.filterMap (choice? setup target.floor)).map Bundle.key) service result.2)
  case cap => exact fun _ _ _ => .refl
  case covered => exact fun _ _ _ _ _ => .refl
  case nothing =>
    intro left kills freed service _ _
    have hecho : Quiet setup service (service.passStart setup) := .echo _ _
    rw [List.filterMap_eq_flatMap_toList, List.flatMap_singleton]
    exact (Takes.killOne target.floor).quiet_trans hecho
  case lost => exact fun _ _ _ service _ _ _ _ _ => hlast service
  case recovered => exact fun _ _ _ service _ _ _ _ _ _ _ => hlast service
  case again =>
    intro left kills freed service gained available result starts _ _ _ _ _ ih
    rw [List.filterMap_eq_flatMap_toList, List.flatMap_cons, ← List.filterMap_eq_flatMap_toList,
      List.map_append]
    exact (Takes.pass target.floor service).trans ih

theorem reportsAsked_killPasses :
    (service.killPasses setup target deficit left kills freed).2.reportsAsked =
      service.reportsAsked + (service.passStarts setup target deficit left freed).length := by
  have hend : ∀ service : Service σ,
      ((service.passStart setup).passEnd setup target.floor).reportsAsked =
        service.reportsAsked + 1 := by
    intro service
    rw [reportsAsked_passEnd, reportsAsked_passStart]
  have hlast : ∀ service : Service σ,
      (((service.passStart setup).passEnd setup target.floor).publishLevel 0).reportsAsked =
        service.reportsAsked + 1 := by
    intro service
    rw [reportsAsked_publishLevel, hend]
  apply killPasses_induction (motive := fun _ _ _ service result starts =>
    result.2.reportsAsked = service.reportsAsked + starts.length)
  case cap => exact fun _ _ _ => rfl
  case covered => exact fun _ _ _ _ _ => rfl
  case nothing =>
    intro left kills freed service _ _
    rw [reportsAsked_killOne, reportsAsked_passStart, List.length_singleton]
  case lost =>
    intro left kills freed service gained _ _ _ _
    rw [hlast, List.length_singleton]
  case recovered =>
    intro left kills freed service gained available _ _ _ _ _
    rw [hlast, List.length_singleton]
  case again =>
    intro left kills freed service gained available result starts _ _ _ _ _ ih
    rw [ih, hend, List.length_cons, Nat.add_assoc, Nat.add_comm 1]

/-- Every pass but the last one chooses a bundle and is counted; the last one may choose a
bundle without being counted, when the kill of it frees nothing. -/
theorem killPasses_counts :
    let tally := (service.killPasses setup target deficit left kills freed).1
    let starts := service.passStarts setup target deficit left freed
    let chosen := (starts.filterMap (choice? setup target.floor)).length
    chosen ≤ left ∧ starts.length ≤ chosen + 1 ∧
      (kills + chosen = tally.kills ∨
        tally.outcome = .nothingKillable ∧ kills + chosen = tally.kills + 1) := by
  have hchosen : ∀ {start : Service σ} {gained : Kilobytes} (starts : List (Service σ)),
      (start.killOne setup target.floor).1 = gained → gained ≠ 0 →
      ((start :: starts).filterMap (choice? setup target.floor)).length =
        (starts.filterMap (choice? setup target.floor)).length + 1 := by
    rintro start gained starts rfl hgained
    obtain ⟨bundle, hbundle⟩ := exists_choice?_of_gained hgained
    rw [List.filterMap_cons_some hbundle, List.length_cons]
  apply killPasses_induction (motive := fun left kills _ _ result starts =>
    (starts.filterMap (choice? setup target.floor)).length ≤ left ∧
    starts.length ≤ (starts.filterMap (choice? setup target.floor)).length + 1 ∧
      (kills + (starts.filterMap (choice? setup target.floor)).length = result.1.kills ∨
        result.1.outcome = .nothingKillable ∧
        kills + (starts.filterMap (choice? setup target.floor)).length = result.1.kills + 1))
  case cap => exact fun _ _ _ => ⟨Nat.le_refl _, Nat.zero_le _, .inl rfl⟩
  case covered => exact fun _ _ _ _ _ => ⟨Nat.zero_le _, Nat.zero_le _, .inl rfl⟩
  case nothing =>
    intro left kills freed service _ _
    cases hchoice : (service.passStart setup).choice? setup target.floor with
    | none =>
        rw [List.filterMap_cons_none hchoice]
        exact ⟨Nat.zero_le _, Nat.le_refl _, .inl rfl⟩
    | some bundle =>
        rw [List.filterMap_cons_some hchoice]
        exact ⟨Nat.le_add_left _ _, Nat.le_add_left _ _, .inr ⟨rfl, rfl⟩⟩
  case lost =>
    intro left kills freed service gained _ hgained hnonzero _
    rw [hchosen [] hgained hnonzero]
    exact ⟨Nat.le_add_left _ _, Nat.le_add_left _ _, .inl rfl⟩
  case recovered =>
    intro left kills freed service gained available _ hgained hnonzero _ _
    rw [hchosen [] hgained hnonzero]
    exact ⟨Nat.le_add_left _ _, Nat.le_add_left _ _, .inl rfl⟩
  case again =>
    intro left kills freed service gained available result starts _ hgained hnonzero _ _ ih
    obtain ⟨hcap, hpasses, hkills⟩ := ih
    rw [hchosen starts hgained hnonzero, List.length_cons]
    refine ⟨by omega, by omega, ?_⟩
    rcases hkills with hcounted | ⟨houtcome, hmore⟩
    · left
      omega
    · right
      exact ⟨houtcome, by omega⟩

end Passes

/-- A cycle selects what its passes choose. -/
theorem takes_killCycle (setup : Setup σ) (service : Service σ) :
    Takes ((service.cycleSelection setup).map Bundle.key) service (service.killCycle setup).2 := by
  rw [cycleSelection]
  rcases killCycle_cases setup service with
    ⟨-, -, hpasses, hquiet, -⟩ | ⟨target, deficit, announced, tally, -, -, -, hpasses, hresult,
      hquiet, -⟩
  · rw [hpasses]
    exact .quiet hquiet
  · have htakes := takes_killPasses setup target deficit setup.config.maxKills 0 0 announced
    rw [hresult] at htakes
    rw [hpasses, List.filterMap_map]
    exact htakes.quiet_trans hquiet

/-- One cycle, whatever a service went through before and whatever its host does: the
bundles that it selects are all different, they were active and are all that ceased to be;
there are no more of them than the cap, and they are those that the report counts but for
a last one whose kill freed nothing; and of the passes, each of which asks for one report
of the kernel, there is at most one more than there were active bundles. -/
theorem killCycle_bounded (setup : Setup σ) (host : σ) (actions : List Action) :
    let service := (start host).run setup actions
    let report := (service.killCycle setup).1
    let after := (service.killCycle setup).2
    let keys := (service.cycleSelection setup).map Bundle.key
    let passes := (service.cyclePasses setup).length
    after.selectedKeys = service.selectedKeys ++ keys ∧
    after.reportsAsked = service.reportsAsked + passes ∧
    keys.Nodup ∧ (keys ++ after.table.activeKeys).Perm service.table.activeKeys ∧
    keys.length ≤ setup.config.maxKills ∧
    (keys.length = report.kills ∨
      report.outcome = .nothingKillable ∧ keys.length = report.kills + 1) ∧
    passes ≤ service.table.activeKeys.length + 1 := by
  intro service report after keys passes
  have hconsistent : service.table.Consistent := run_table_consistent setup host actions
  have htakes : Takes keys service after := takes_killCycle setup service
  have hperm := htakes.activeKeys_perm hconsistent
  have hnodup : keys.Nodup := (hperm.nodup_iff.2 hconsistent.activeKeys_nodup).sublist
    (List.sublist_append_left _ _)
  have hactive : keys.length + after.table.activeKeys.length = service.table.activeKeys.length := by
    rw [← List.length_append, hperm.length_eq]
  rcases killCycle_cases setup service with
    ⟨-, hkills, hpasses, -, hjournal⟩ | ⟨target, deficit, announced, tally, -, hkills, houtcome,
      hpasses, hresult, -, hreports⟩
  · have hkeys : keys = [] := by
      unfold keys
      rw [cycleSelection, hpasses]
      rfl
    have hnone : passes = 0 := congrArg List.length hpasses
    rw [hkeys] at hperm ⊢
    refine ⟨hkeys ▸ htakes.selectedKeys_eq, ?_, List.nodup_nil, hperm, Nat.zero_le _,
      .inl hkills.symm, by omega⟩
    rw [hnone]
    exact reportsAsked_congr hjournal
  · have hasked := reportsAsked_killPasses setup target deficit setup.config.maxKills 0 0
      announced
    have hcounts := killPasses_counts setup target deficit setup.config.maxKills 0 0 announced
    simp only [hresult, hreports, Nat.zero_add] at hasked hcounts
    have hlength : keys.length = ((announced.passStarts setup target deficit
        setup.config.maxKills 0).filterMap (choice? setup target.floor)).length := by
      unfold keys
      rw [List.length_map, cycleSelection, hpasses, List.filterMap_map]
      rfl
    have hmade : passes = (announced.passStarts setup target deficit
        setup.config.maxKills 0).length := by
      unfold passes
      rw [hpasses, List.length_map]
    obtain ⟨hcap, hmost, hcounted⟩ := hcounts
    rw [← hlength] at hcap hmost hcounted
    rw [← hmade] at hasked hmost
    refine ⟨htakes.selectedKeys_eq, hasked, hnodup, hperm, hcap, ?_, by omega⟩
    rw [hkills, houtcome]
    exact hcounted

end MemoryReclaim.Service
