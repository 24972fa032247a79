import MemoryReclaim.Host.Scripted
import MemoryReclaim.Proofs.Service.CycleEvents
import MemoryReclaim.Proofs.Service.RankingWalk
import MemoryReclaim.Proofs.Table.Preference

/-!
# The kill of the best bundle

One kill first ends the grace windows that have passed, and then takes the bundle that
precedes all others which may be killed.  It ends each process of that bundle once, in the
order of their pids, and marks the bundle; the rest of the service stays as it was.
-/

namespace MemoryReclaim.Service

variable {σ : Type} {setup : Setup σ} {service : Service σ} {floor : Priority} {best : Bundle}

/-- The table as a kill finds it once the windows that have passed are ended. -/
def swept (setup : Setup σ) (service : Service σ) : Table :=
  service.table.expire setup.rules (service.clock setup).1

theorem choice?_eq (setup : Setup σ) (floor : Priority) (service : Service σ) :
    service.choice? setup floor =
      ((service.swept setup).eligible setup.config.protection floor
        (service.choiceTime setup)).head? := by
  rw [Table.eligible, List.head?_filter]
  rfl

theorem swept_consistent (setup : Setup σ) (hconsistent : service.table.Consistent) :
    (service.swept setup).Consistent :=
  (Table.consistent_partsKeep setup.rules).expire hconsistent

/-- The best bundle is the choice, for there is only one and the choice is such. -/
theorem choice?_eq_of_isBest (hconsistent : service.table.Consistent) {account : Uid → AccountId}
    (haccounts : service.table.AccountsByUser account)
    (hbest : (service.swept setup).IsBest setup.config.protection floor (service.choiceTime setup)
      best) :
    service.choice? setup floor = some best := by
  have hswept := swept_consistent setup hconsistent
  have hlisted := hswept.isCandidate_iff.1 hbest.candidate
  rw [choice?_eq]
  cases hhead : ((service.swept setup).eligible setup.config.protection floor
      (service.choiceTime setup)).head? with
  | none =>
      rw [List.head?_eq_none_iff.1 hhead] at hlisted
      cases hlisted
  | some chosen => rw [hbest.unique (hswept.isBest_head haccounts.expire hhead)]

theorem choice?_eq_none (hconsistent : service.table.Consistent)
    (hnone : ∀ bundle, ¬ (service.swept setup).IsCandidate setup.config.protection floor
      (service.choiceTime setup) bundle) :
    service.choice? setup floor = none := by
  rw [choice?_eq, List.head?_eq_none_iff, List.eq_nil_iff_forall_not_mem]
  exact fun bundle hlisted =>
    hnone bundle ((swept_consistent setup hconsistent).isCandidate_iff.2 hlisted)

theorem exists_isBest (hconsistent : service.table.Consistent) {account : Uid → AccountId}
    (haccounts : service.table.AccountsByUser account) {bundle : Bundle}
    (hcandidate : (service.swept setup).IsCandidate setup.config.protection floor
      (service.choiceTime setup) bundle) :
    ∃ best, (service.swept setup).IsBest setup.config.protection floor (service.choiceTime setup)
      best := by
  have hswept := swept_consistent setup hconsistent
  have hlisted := hswept.isCandidate_iff.1 hcandidate
  cases heligible : (service.swept setup).eligible setup.config.protection floor
      (service.choiceTime setup) with
  | nil =>
      rw [heligible] at hlisted
      cases hlisted
  | cons first later =>
      exact ⟨first, hswept.isBest_head haccounts.expire (by rw [heligible, List.head?_cons])⟩

theorem killOne_of_choice? (hchoice : service.choice? setup floor = some best) :
    ∃ host ends, ends.map Prod.fst = best.procs.values ∧
      service.killOne setup floor =
        ((ends.map Prod.snd).sum,
          { service with
            host
            journal := service.journal ++ .selected best.key :: service.registry.endings ends
            table := ((service.swept setup).setState best.key .waitingForKill).2 }) := by
  obtain ⟨host, ends, hends, hkilled⟩ :=
    killBundle_eq setup best (service.atChoice setup)
  refine ⟨host, ends, hends, ?_⟩
  rw [killOne_eq, hchoice]
  exact hkilled

theorem killOne_of_choice?_eq_none (hchoice : service.choice? setup floor = none) :
    ∃ host, service.killOne setup floor =
      (0, { service with host, table := service.swept setup }) := by
  refine ⟨(service.atChoice setup).host, ?_⟩
  rw [killOne_eq, hchoice]
  rfl

/-- One kill, on a table with any history in which the user decides the account, at any time
and for any floor.  If some bundle may be killed once the windows that have passed are
ended, one of them precedes all the others.  That one is killed: its processes end each
once, in the order of their pids, the result is the sum of what they freed, the bundle
waits from then on, and every other bundle, every process and every binding stays as the
end of the windows has left it.  If no bundle may be killed, nothing else happens. -/
theorem killOne_takes_best (setup : Setup σ) (service : Service σ) (floor : Priority)
    (history : Table.History) (account : Uid → AccountId)
    (htable : service.table = Table.empty.run setup.rules history)
    (haccounts : service.table.AccountsByUser account) :
    let gained := (service.killOne setup floor).1
    let after := (service.killOne setup floor).2
    let swept := service.swept setup
    let MayKill := swept.IsCandidate setup.config.protection floor (service.choiceTime setup)
    let IsBest := swept.IsBest setup.config.protection floor (service.choiceTime setup)
    ((∃ bundle, MayKill bundle) → ∃! best, IsBest best) ∧
    (∀ best, IsBest best → ∃ host ends,
      ends.map Prod.fst = best.procs.values ∧ gained = (ends.map Prod.snd).sum ∧
      after =
        { service with
          host
          journal := service.journal ++ .selected best.key :: service.registry.endings ends
          table := (swept.setState best.key .waitingForKill).2 } ∧
      after.killedPids = service.killedPids ++ best.procs.keys ∧
      best.procs.keys.Pairwise (· < ·) ∧
      after.table.bundle? best.key = some (best.withState .waitingForKill) ∧
      (∀ key, key ≠ best.key → after.table.bundle? key = swept.bundle? key) ∧
      after.table.owners = swept.owners ∧
      ∀ pid, after.table.process? pid = swept.process? pid) ∧
    ((∀ bundle, ¬ MayKill bundle) →
      gained = 0 ∧ ∃ host, after = { service with host, table := swept }) := by
  intro gained after swept MayKill IsBest
  have hconsistent : service.table.Consistent := htable ▸ Table.run_consistent setup.rules history
  have hswept : swept.Consistent := swept_consistent setup hconsistent
  refine ⟨?_, ?_, ?_⟩
  · rintro ⟨bundle, hcandidate⟩
    obtain ⟨best, hbest⟩ := exists_isBest hconsistent haccounts hcandidate
    exact ⟨best, hbest, fun other hother => hbest.unique hother⟩
  · intro best hbest
    have hchoice := choice?_eq_of_isBest hconsistent haccounts hbest
    obtain ⟨host, ends, hends, hkilled⟩ := killOne_of_choice? hchoice
    have hafter : after =
        { service with
          host
          journal := service.journal ++ .selected best.key :: service.registry.endings ends
          table := (swept.setState best.key .waitingForKill).2 } := congrArg Prod.snd hkilled
    have htableAfter : after.table = (swept.setState best.key .waitingForKill).2 := by
      rw [hafter]
    have hpids : (service.killOneCalls setup floor).map KillCall.pid = best.procs.keys := by
      rw [killOneCalls, hchoice, ← (hswept.sound hbest.candidate.stored).pids_eq]
      exact pid_killAllCalls _ _
    refine ⟨host, ends, hends, congrArg Prod.fst hkilled, hafter, ?_, best.pids_ascending, ?_, ?_,
      ?_, ?_⟩
    · rw [← hpids]
      exact killedPids_killOne floor
    · rw [htableAfter, Table.bundle?_setState, if_pos rfl, hbest.candidate.stored]
      rfl
    · intro key hother
      rw [htableAfter, Table.bundle?_setState, if_neg (Ne.symm hother)]
    · rw [htableAfter]
      rfl
    · intro pid
      rw [htableAfter, Table.process?_setState]
  · intro hnone
    obtain ⟨host, hkept⟩ := killOne_of_choice?_eq_none (choice?_eq_none hconsistent hnone)
    exact ⟨congrArg Prod.fst hkept, host, congrArg Prod.snd hkept⟩

/-- Of two bundles in the background the one created later is killed, whose processes end in
the order of their pids and not in that of their arrival. -/
theorem killOne_takes_best_newest :
    let setup : Setup Script := ⟨Script.host, .nameless, .default, "/proc"⟩
    let history : Table.History :=
      [(10, .apply ⟨none, ⟨1, 20010001, "browser", 100⟩, .background⟩),
        (20, .apply ⟨none, ⟨3, 20010002, "player", 100⟩, .background⟩),
        (30, .apply ⟨none, ⟨2, 20010002, "player", 100⟩, .background⟩)]
    let service : Service Script :=
      { start { Script.start with freed := .ofList [(2, 10), (3, 20)] } with
        table := Table.empty.run setup.rules history }
    ∃ best, (service.swept setup).IsBest setup.config.protection 400 (service.choiceTime setup)
        best ∧
      best.procs.keys = [2, 3] ∧ (service.killOne setup 400).1 = 30 := by
  intro setup history service
  have haccounts : service.table.AccountsByUser Directory.accountOf := by
    have hall : ∀ bundle ∈ service.table.bundles.values,
        bundle.account = Directory.accountOf bundle.uid := by decide
    exact fun key bundle hbundle => hall bundle (OrdMap.mem_values.2 ⟨key, hbundle⟩)
  have htable : service.table = Table.empty.run setup.rules history := by dsimp only [service]
  obtain ⟨hunique, hkilled, -⟩ :=
    killOne_takes_best setup service 400 history Directory.accountOf htable haccounts
  have hcandidate : ∃ bundle, (service.swept setup).IsCandidate setup.config.protection 400
      (service.choiceTime setup) bundle := by
    have hsome : (service.swept setup).eligible setup.config.protection 400
        (service.choiceTime setup) ≠ [] := by decide
    obtain ⟨bundle, hlisted⟩ := List.exists_mem_of_ne_nil _ hsome
    have hconsistent : service.table.Consistent := by
      rw [htable]
      exact Table.run_consistent setup.rules history
    exact ⟨bundle, (swept_consistent setup hconsistent).isCandidate_iff.2 hlisted⟩
  obtain ⟨best, hbest, -⟩ := hunique hcandidate
  obtain ⟨host, ends, -, -, -, hpids, -⟩ := hkilled best hbest
  have hnone : service.killedPids = [] := rfl
  have htold : (service.killOne setup 400).2.killedPids = [2, 3] := by decide
  rw [hnone, List.nil_append, htold] at hpids
  exact ⟨best, hbest, hpids.symm, by decide⟩

end MemoryReclaim.Service
