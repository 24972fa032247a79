import Mathlib.Data.List.Nodup
import MemoryReclaim.Host.Scripted
import MemoryReclaim.Proofs.Service.KillBounds

/-!
# A cycle walks down one ranking

Every pass of a cycle asks anew which bundles may be killed.  As long as the clock stands
still it gets the answer of the pass before without its first bundle, so the passes of a
cycle together walk down the ranking that the first of them has found.
-/

namespace MemoryReclaim

/-- The records of a sound bundle are listed by their pids. -/
theorem Bundle.Sound.pids_eq {bundle : Bundle} (hsound : bundle.Sound) :
    bundle.procs.values.map ProcessRecord.pid = bundle.procs.keys := by
  rw [OrdMap.values, OrdMap.keys, List.map_map]
  apply List.map_congr_left
  rintro ⟨pid, process⟩ hmem
  have hprocess : bundle.process? pid = some process := (OrdMap.get?_eq_some_iff _).2 hmem
  exact (hsound.fits hprocess).pid_eq

theorem Bundle.pids_ascending (bundle : Bundle) : bundle.procs.keys.Pairwise (· < ·) :=
  List.pairwise_map.2 (bundle.procs.ascending.imp fun hlt => compare_lt_iff_lt.1 hlt)

/-- Bundles of one table that have different keys share no process. -/
theorem Table.Consistent.pids_nodup {table : Table} {bundles : List Bundle}
    (hconsistent : table.Consistent) (hstored : ∀ bundle ∈ bundles, bundle ∈ table.bundles.values)
    (hkeys : (bundles.map Bundle.key).Nodup) :
    (bundles.flatMap fun bundle => bundle.procs.keys).Nodup := by
  have howner : ∀ bundle ∈ bundles, ∀ pid ∈ bundle.procs.keys,
      table.owners.get? pid = some bundle.key := by
    intro bundle hbundle pid hpid
    have hlookup := hconsistent.mem_values_iff.1 (hstored bundle hbundle)
    exact hconsistent.owner_iff.2 ⟨bundle, hlookup, OrdMap.mem_keys.1 hpid⟩
  rw [List.nodup_flatMap]
  refine ⟨fun bundle _ => bundle.procs.keys_nodup, ?_⟩
  apply (List.pairwise_map.1 hkeys).imp_of_mem
  intro left right hleft hright hne pid hpid hother
  apply hne
  exact Option.some.inj ((howner left hleft pid hpid).symm.trans (howner right hright pid hother))

namespace Service

variable {σ : Type} {setup : Setup σ} {service : Service σ} {floor : Priority}
variable {now : Seconds}

/-- The bundles among which a pass at `now` chooses, in the order of its preference. -/
def ranking (setup : Setup σ) (floor : Priority) (now : Seconds) (service : Service σ) :
    List Bundle :=
  (service.table.expire setup.rules now).eligible setup.config.protection floor now

/-- All that a pass reads from the clock is `now`. -/
def Pass.StandsAt (setup : Setup σ) (now : Seconds) (pass : Pass σ) : Prop :=
  ∀ time ∈ pass.times setup, time = now

theorem choice?_eq_head? (hstands : Pass.StandsAt setup now ⟨floor, service⟩) :
    service.choice? setup floor = (service.ranking setup floor now).head? := by
  have hfirst : (service.clock setup).1 = now := hstands _ List.mem_cons_self
  have hsecond : service.choiceTime setup = now :=
    hstands _ (List.mem_cons_of_mem _ List.mem_cons_self)
  rw [choice?, hsecond, ranking, Table.eligible, List.head?_filter, ← hfirst]
  rfl

/-- The ranking after the kill of its first bundle is the rest of it. -/
theorem ranking_passEnd {start : Service σ} {bundle : Bundle} {later : List Bundle}
    (hconsistent : start.table.Consistent) (hstands : Pass.StandsAt setup now ⟨floor, start⟩)
    (hranking : start.ranking setup floor now = bundle :: later) :
    (start.passEnd setup floor).ranking setup floor now = later := by
  have hfirst : (start.clock setup).1 = now := hstands _ List.mem_cons_self
  have hchoice : start.choice? setup floor = some bundle := by
    rw [choice?_eq_head? hstands, hranking]
    rfl
  have htable : (start.passEnd setup floor).table =
      ((start.table.expire setup.rules now).setState bundle.key .waitingForKill).2 := by
    have hkilled : ((start.atChoice setup).killBundle setup bundle).2.table =
        ((start.atChoice setup).table.setState bundle.key .waitingForKill).2 :=
      table_killBundle bundle _
    rw [← hfirst, passEnd, killOne_eq, hchoice]
    exact hkilled
  rw [ranking, htable, hconsistent.expire_setState_expire]
  exact ((Table.consistent_partsKeep setup.rules).expire hconsistent).eligible_setState hranking

theorem head?_walk (ranking : List Bundle) : [ranking.head?] <+: ranking.map some ++ [none] := by
  cases ranking with
  | nil => exact List.prefix_rfl
  | cons bundle later => exact List.prefix_append [some bundle] _

/-- The passes take the bundles of the ranking one by one; a pass for which none is left
is the last one. -/
theorem choices_killPasses (target : KillTarget) (deficit : Kilobytes) (left : Nat)
    (freed : Kilobytes) (hconsistent : service.table.Consistent)
    (hstands : ∀ start ∈ service.passStarts setup target deficit left freed,
      Pass.StandsAt setup now ⟨target.floor, start⟩) :
    (service.passStarts setup target deficit left freed).map (choice? setup target.floor) <+:
      (service.ranking setup target.floor now).map some ++ [none] := by
  have hlast : ∀ service : Service σ,
      (∀ start ∈ [service.passStart setup], Pass.StandsAt setup now ⟨target.floor, start⟩) →
      [(service.passStart setup).choice? setup target.floor] <+:
        (service.ranking setup target.floor now).map some ++ [none] := by
    intro service hpass
    rw [choice?_eq_head? (hpass _ List.mem_cons_self)]
    exact head?_walk _
  refine @killPasses_induction σ setup target deficit
    (fun _ _ _ service _ starts => service.table.Consistent →
      (∀ start ∈ starts, Pass.StandsAt setup now ⟨target.floor, start⟩) →
      starts.map (choice? setup target.floor) <+:
        (service.ranking setup target.floor now).map some ++ [none])
    ?cap ?covered ?nothing ?lost ?recovered ?again left 0 freed service hconsistent hstands
  case cap => exact fun _ _ _ _ _ => List.nil_prefix
  case covered => exact fun _ _ _ _ _ _ _ => List.nil_prefix
  case nothing => exact fun _ _ _ service _ _ _ hpass => hlast service hpass
  case lost => exact fun _ _ _ service _ _ _ _ _ _ hpass => hlast service hpass
  case recovered => exact fun _ _ _ service _ _ _ _ _ _ _ _ hpass => hlast service hpass
  case again =>
    intro left kills freed service gained available result starts _ hgained hnonzero _ _ ih
      hconsistent hstands
    have hstart := hstands _ List.mem_cons_self
    have hbefore : (service.passStart setup).table.Consistent := hconsistent
    have hranking : (service.passStart setup).ranking setup target.floor now =
        service.ranking setup target.floor now := rfl
    obtain ⟨bundle, hchoice⟩ := exists_choice?_of_gained (hgained ▸ hnonzero)
    rw [choice?_eq_head? hstart, List.head?_eq_some_iff] at hchoice
    obtain ⟨later, hsplit⟩ := hchoice
    have hrest := ih ((Takes.pass target.floor service).consistent hconsistent)
      fun start hmem => hstands start (List.mem_cons_of_mem _ hmem)
    rw [ranking_passEnd hbefore hstart hsplit] at hrest
    rw [List.map_cons, choice?_eq_head? hstart, ← hranking, hsplit]
    exact (List.prefix_cons_inj (some bundle)).2 hrest

/-- In a walk down a list that ends with `none`, it is `none` that comes after the whole
list. -/
theorem eq_none_iff_of_walk {α : Type} {elements : List α} {earlier later : List (Option α)}
    {choice : Option α} (hwalk : earlier ++ choice :: later <+: elements.map some ++ [none]) :
    choice = none ↔ earlier.filterMap id = elements := by
  induction earlier generalizing elements with
  | nil =>
      cases elements with
      | nil =>
          obtain ⟨rfl, -⟩ := List.cons_prefix_cons.1 hwalk
          exact ⟨fun _ => rfl, fun _ => rfl⟩
      | cons element rest =>
          obtain ⟨rfl, -⟩ := List.cons_prefix_cons.1 hwalk
          constructor <;> intro hnever <;> cases hnever
  | cons head rest ih =>
      cases elements with
      | nil =>
          obtain ⟨-, hrest⟩ := List.cons_prefix_cons.1 hwalk
          simp at hrest
      | cons element others =>
          obtain ⟨rfl, hrest⟩ := List.cons_prefix_cons.1 hwalk
          rw [ih hrest, List.filterMap_cons, id, List.cons_inj_right]

/-- Such a walk has come across the first elements of the list. -/
theorem filterMap_of_walk {α : Type} {elements : List α} {choices : List (Option α)}
    (hwalk : choices <+: elements.map some ++ [none]) : choices.filterMap id <+: elements := by
  obtain ⟨rest, hrest⟩ := hwalk
  have helements : (elements.map some ++ [none]).filterMap id = elements := by
    simp [List.filterMap_append, List.filterMap_map]
  rw [← helements, ← hrest, List.filterMap_append]
  exact List.prefix_append _ _

theorem choices_killCycle {target : KillTarget} (hconsistent : service.table.Consistent)
    (htarget : (service.killCycle setup).1.target = some target)
    (hstands : ∀ pass ∈ service.cyclePasses setup, pass.StandsAt setup now) :
    (service.cyclePasses setup).map (Pass.choice? setup) <+:
      (service.ranking setup target.floor now).map some ++ [none] := by
  rcases killCycle_cases setup service with
    ⟨hnone, -⟩ | ⟨found, deficit, announced, tally, hfound, -, -, hpasses, -, hquiet, -⟩
  · rw [hnone] at htarget
    cases htarget
  · obtain rfl : found = target := Option.some.inj (hfound.symm.trans htarget)
    have hranking : service.ranking setup found.floor now =
        announced.ranking setup found.floor now := by
      rw [ranking, ranking, hquiet.table_eq]
    rw [hpasses] at hstands
    rw [hpasses, List.map_map, hranking]
    apply choices_killPasses
    · rw [hquiet.table_eq]
      exact hconsistent
    · exact fun start hstart => hstands _ (List.mem_map_of_mem hstart)

/-- A cycle during which the clock stands still, after whatever the service went through
before: it takes the ranking as of the start of the cycle, selects the first bundles of
it in order and kills exactly their processes, each once and within a bundle by ascending
pid; and a pass finds no bundle exactly when the passes before it took all of the ranking. -/
theorem killCycle_walks_ranking (setup : Setup σ) (host : σ) (actions : List Action)
    (target : KillTarget) (now : Seconds)
    (htarget : (((start host).run setup actions).killCycle setup).1.target = some target)
    (hstands : ∀ pass ∈ ((start host).run setup actions).cyclePasses setup,
      pass.StandsAt setup now) :
    let service := (start host).run setup actions
    let after := (service.killCycle setup).2
    let ranking := service.ranking setup target.floor now
    let selection := service.cycleSelection setup
    let pids := selection.flatMap fun bundle => bundle.procs.keys
    selection <+: ranking ∧
    after.selectedKeys = service.selectedKeys ++ selection.map Bundle.key ∧
    after.killedPids = service.killedPids ++ pids ∧ pids.Nodup ∧
    (∀ bundle ∈ selection, bundle.procs.keys.Pairwise (· < ·)) ∧
    ∀ earlier pass later, service.cyclePasses setup = earlier ++ pass :: later →
      (pass.choice? setup = none ↔ earlier.filterMap (Pass.choice? setup) = ranking) := by
  intro service after ranking selection pids
  have hconsistent : service.table.Consistent := run_table_consistent setup host actions
  have hexpired : (service.table.expire setup.rules now).Consistent :=
    (Table.consistent_partsKeep setup.rules).expire hconsistent
  have hwalk := choices_killCycle hconsistent htarget hstands
  have hleading : selection <+: ranking := by
    have hchosen := filterMap_of_walk hwalk
    rwa [List.filterMap_map] at hchosen
  have hstored : ∀ bundle ∈ selection,
      bundle ∈ (service.table.expire setup.rules now).bundles.values := fun bundle hbundle =>
    (Table.mem_eligible.1 (hleading.subset hbundle)).1
  have hsound : ∀ bundle ∈ selection, bundle.Sound := by
    intro bundle hbundle
    obtain ⟨key, hlookup⟩ := OrdMap.mem_values.1 (hstored bundle hbundle)
    exact hexpired.sound hlookup
  have hkilled : (service.cycleCalls setup).map KillCall.pid = pids := by
    rw [pid_cycleCalls]
    exact List.flatMap_congr fun bundle hbundle => (hsound bundle hbundle).pids_eq
  refine ⟨hleading, (takes_killCycle setup service).selectedKeys_eq, ?_, ?_, ?_, ?_⟩
  · rw [← hkilled]
    exact killedPids_killCycle
  · apply hexpired.pids_nodup hstored
    exact hexpired.eligible_keys_nodup.sublist (hleading.sublist.map _)
  · exact fun bundle _ => bundle.pids_ascending
  · intro earlier pass later hsplit
    rw [hsplit, List.map_append, List.map_cons] at hwalk
    rw [eq_none_iff_of_walk hwalk, List.filterMap_map]
    rfl

/-- Two bundles in the background have grown old when the clock stops, and the second one is
the better choice: the cycle kills both in this order, and its third pass finds nothing. -/
theorem killCycle_walks_ranking_oldBundles :
    let host : Host Script :=
      { Script.host with
        total := fun script => (script.totalMemory, { script with clock := script.clock + 60 }) }
    let setup : Setup Script := ⟨host, .nameless, .default, "/proc"⟩
    let script : Script :=
      { Script.start.setReading (some 450000) with freed := .ofList [(1, 10), (2, 10)] }
    let actions : List Action :=
      [.perform ⟨none, ⟨1, 20010001, "browser", 100⟩, .background⟩, .readTotal,
        .perform ⟨none, ⟨2, 20010002, "player", 100⟩, .background⟩, .readTotal]
    let service := (start script).run setup actions
    (service.cyclePasses setup).map (fun pass => (pass.choice? setup).map Bundle.name) =
      [some "player", some "browser", none] ∧
    (service.killCycle setup).2.killedPids = service.killedPids ++ [2, 1] := by
  intro host setup script actions service
  have hstands : ∀ pass ∈ service.cyclePasses setup, pass.StandsAt setup 220 := by
    have htimes : ∀ time ∈ (service.cyclePasses setup).flatMap (Pass.times setup), time = 220 := by
      decide
    intro pass hpass time htime
    exact htimes time (List.mem_flatMap.2 ⟨pass, hpass, htime⟩)
  let target : KillTarget := ⟨512000, 400, 512000, 5⟩
  have htarget : (((start script).run setup actions).killCycle setup).1.target = some target := by
    decide
  have hwalk := killCycle_walks_ranking setup script actions target 220 htarget hstands
  have hpids : ((service.cycleSelection setup).flatMap fun bundle => bundle.procs.keys) =
      [2, 1] := by decide
  rw [← hpids]
  exact ⟨by decide, hwalk.2.2.1⟩

end Service

end MemoryReclaim
