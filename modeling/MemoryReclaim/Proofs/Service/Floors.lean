import MemoryReclaim.Config.Document
import MemoryReclaim.Host.Scripted
import MemoryReclaim.Proofs.KillLevels
import MemoryReclaim.Proofs.Service.KillBounds
import MemoryReclaim.Proofs.Table.Admissions
import MemoryReclaim.Proofs.Table.Floors

/-!
# Important applications

The floor of an application holds all of its processes down, whichever is seen first.
What counts is the name of the bundle: a process goes by the name under which its bundle
was founded, which is a placeholder when the founder came through the queue without a
name.  The floors themselves are taken as they are configured, and a floor below the range
of priorities takes its application below every kill level.
-/

namespace MemoryReclaim

namespace Service

variable {σ : Type} {setup : Setup σ} {service : Service σ}

/-! ## Admissions in a run -/

/-- The processes that an action makes the service track. -/
def admitted (setup : Setup σ) (service : Service σ) (action : Action) : List Admission :=
  match service.applied? setup action with
  | none => []
  | some request => service.table.admissions setup.rules (service.clock setup).1 request.ensured

/-- All admissions of a run, in order. -/
def admissions (setup : Setup σ) : List Action → Service σ → List Admission
  | [], _ => []
  | action :: later, service =>
      service.admitted setup action ++ admissions setup later (service.act setup action)

/-- Only an event brings in processes. -/
theorem dwindles_kept (setup : Setup σ) (table : Table) :
    KeptBetweenEvents setup fun service => Table.Dwindles table service.table where
  quiet hquiet hdwindles := by rwa [hquiet.table_eq]
  refreshed hdwindles := hdwindles.trans .expire
  killBundle bundle hdwindles := by
    rw [table_killBundle]
    exact hdwindles.trans (.setState _ _)
  setState key state hdwindles := hdwindles.trans (.setState key state)

theorem act_accounted {trace : List Admission} (haccounted : Table.Accounted trace service.table)
    (action : Action) :
    Table.Accounted (trace ++ service.admitted setup action)
      (service.act setup action).table := by
  rw [admitted]
  cases happlied : service.applied? setup action with
  | none =>
      rw [List.append_nil]
      apply haccounted.dwindle _ ((dwindles_kept setup service.table).act happlied .refl)
      have hadvances : Advances setup service (service.act setup action) := act_advances action
      obtain ⟨history, htable⟩ := hadvances.table_run
      rw [htable]
      exact (Table.consistent_partsKeep setup.rules).run haccounted.consistent history
  | some request =>
      rw [(act_applies happlied).table_eq]
      exact haccounted.apply request

theorem run_accounted {trace : List Admission} (haccounted : Table.Accounted trace service.table)
    (actions : List Action) :
    Table.Accounted (trace ++ service.admissions setup actions)
      (service.run setup actions).table := by
  induction actions generalizing trace service with
  | nil => rwa [admissions, List.append_nil]
  | cons action later ih =>
      rw [admissions, ← List.append_assoc]
      exact ih (act_accounted haccounted action)

/-! ## Floors in a run -/

theorem run_floored (setup : Setup σ) (host : σ) (actions : List Action) :
    ((start host).run setup actions).table.Floored setup.rules ∧
      ((start host).run setup actions).table.All ProcessRecord.Held := by
  obtain ⟨history, htable⟩ := run_table setup host actions
  rw [htable]
  exact ⟨(Table.floored_partsKeep setup.rules).run (Table.empty_floored _) history,
    Table.run_all (ProcessRecord.held_lasting setup.rules) history⟩

/-- Whatever processes come and go and in whatever order, each process has the floor of the
name under which its bundle was founded, and neither it nor its bundle is ever above that
floor.  This is the floor of its own name whenever it founded the bundle or found its own
name there. -/
theorem floor_follows_founder (setup : Setup σ) (host : σ) (actions : List Action) :
    let floors := setup.config.floors
    let trace := (start host).admissions setup actions
    let table := ((start host).run setup actions).table
    ∀ key bundle pid process,
      table.bundle? key = some bundle → bundle.process? pid = some process →
      ∃ admission, Admission.last? pid trace = some admission ∧ admission.identity.key = key ∧
        process.floor = floors.get? admission.bundleName ∧
        (∀ floor, process.floor = some floor →
          process.priority ≤ floor ∧ bundle.priority ≤ floor) ∧
        (∃ founder ∈ trace, founder.joined = none ∧ founder.identity.key = key ∧
          founder.identity.name = admission.bundleName) ∧
        (admission.joined = none ∨ admission.joined = some admission.identity.name →
          process.floor = floors.get? admission.identity.name) := by
  intro floors trace table key bundle pid process hbundle hprocess
  have hstart : Table.Accounted [] (start host).table := Table.empty_accounted
  have haccounted : Table.Accounted trace table := run_accounted hstart actions
  obtain ⟨hfloored, hheld⟩ := run_floored setup host actions
  have hconsistent := haccounted.consistent
  have howner : table.owners.get? pid = some key :=
    hconsistent.owner_iff.2 ⟨bundle, hbundle, by simp [Bundle.contains_procs, hprocess]⟩
  obtain ⟨admission, hlast, hkey, hname⟩ := haccounted.admitted howner
  have hbundleName : bundle.name = admission.bundleName := by
    rw [Table.bundleName?, hbundle] at hname
    exact Option.some.inj hname
  have hfloor : process.floor = floors.get? admission.bundleName :=
    (hfloored hbundle hprocess).trans (congrArg _ hbundleName)
  refine ⟨admission, hlast, hkey, hfloor, ?_, haccounted.founded hname, ?_⟩
  · intro floor hsome
    have hbelow := (hheld (hconsistent.process?_eq hbundle hprocess)).le_floor hsome
    have hleast := (hconsistent.sound hbundle).priority_isLeast
    exact ⟨hbelow, Int.le_trans (hleast.2 ⟨pid, process, hprocess, rfl⟩) hbelow⟩
  · intro hown
    rw [hfloor, Admission.bundleName]
    rcases hown with hfounder | hsame
    · rw [hfounder, Option.getD_none]
    · rw [hsame, Option.getD_some]

/-- The launcher founds its bundle, and a process without a name that joins it later is held
at or below the floor of the launcher. -/
theorem floor_follows_founder_launcher :
    let config := Config.default.withFloor "launcher" 200
    let setup : Setup Script := ⟨Script.host, .nameless, config, "/proc"⟩
    let actions : List Action :=
      [.update (.single ⟨1, 20010001, "launcher"⟩ .createProcess), .startUpdates true,
        .post (.single (.unnamed 2 20010001) .createProcess), .takeUpdate]
    let table := ((start Script.start).run setup actions).table
    ∃ bundle process, table.bundle? ⟨100, 20010001⟩ = some bundle ∧
      bundle.process? 2 = some process ∧ process.floor = some 200 ∧ process.priority ≤ 200 := by
  intro config setup actions table
  have hrecord : ((table.bundle? ⟨100, 20010001⟩).bind fun bundle =>
      bundle.process? 2).isSome := by decide
  obtain ⟨process, hsome⟩ := Option.isSome_iff_exists.1 hrecord
  obtain ⟨bundle, hbundle, hprocess⟩ := Option.bind_eq_some_iff.1 hsome
  obtain ⟨admission, hlast, -, hfloor, hheld, -⟩ := floor_follows_founder setup Script.start
    actions ⟨100, 20010001⟩ bundle 2 process hbundle hprocess
  have hadmission : Admission.last? 2 ((start Script.start).admissions setup actions) =
      some ⟨⟨2, 20010001, "uid_20010001", 100⟩, some "launcher"⟩ := by decide
  rw [hlast, Option.some.injEq] at hadmission
  have hconfigured : process.floor = some 200 := by
    rw [hfloor, hadmission]
    decide
  exact ⟨bundle, process, hbundle, hprocess, hconfigured, (hheld 200 hconfigured).1⟩

/-- A process comes without a name and the launcher after it under the same user: the
launcher goes by the placeholder and has no floor. -/
theorem placeholder_hides_floor :
    let config := Config.default.withFloor "launcher" 200
    let setup : Setup Script := ⟨Script.host, .nameless, config, "/proc"⟩
    let launcher : ResolvedIdentity := ⟨2, 20010001, "launcher", 100⟩
    let actions : List Action :=
      [.startUpdates true, .post (.single (.unnamed 1 20010001) .createProcess), .takeUpdate,
        .update (.single ⟨2, 20010001, "launcher"⟩ .createProcess), .read]
    let service := (start Script.start).run setup actions
    Admission.last? 2 ((start Script.start).admissions setup actions) =
      some ⟨launcher, some "uid_20010001"⟩ ∧
    config.floors.get? "launcher" = some 200 ∧
    (service.table.process? 2).map (fun process => (process.floor, process.priority)) =
      some (none, 400) := by
  decide

/-- A bundle has a valid priority, as have its processes, and a table of kill levels can
reach it, exactly if the floor that is configured for its name is not below the range. -/
theorem priority_isValid_iff_floor (setup : Setup σ) (host : σ) (actions : List Action) :
    let table := ((start host).run setup actions).table
    ∀ key bundle, table.bundle? key = some bundle →
      let inRange := ∀ floor, setup.config.floors.get? bundle.name = some floor →
        Priority.lowest ≤ floor
      (∀ pid process, bundle.process? pid = some process →
        (process.priority.isValid ↔ inRange)) ∧
      (bundle.priority.isValid ↔ inRange) ∧
      ((∃ entries levels available target, KillLevels.ofEntries entries = .ok levels ∧
        levels.query available = some target ∧ bundle ∈ table.killable target.floor) ↔
          inRange) := by
  intro table key bundle hbundle inRange
  have hconsistent : table.Consistent := run_table_consistent setup host actions
  obtain ⟨hfloored, hheld⟩ := run_floored setup host actions
  have hprocess : ∀ {pid process}, bundle.process? pid = some process →
      (process.priority.isValid ↔ inRange) := by
    intro pid process hprocess
    rw [(hheld (hconsistent.process?_eq hbundle hprocess)).isValid_iff,
      hfloored hbundle hprocess]
    rfl
  obtain ⟨⟨pid, process, hlowest, hpriority⟩, -⟩ := (hconsistent.sound hbundle).priority_isLeast
  have hvalid : bundle.priority.isValid ↔ inRange := hpriority ▸ hprocess hlowest
  refine ⟨fun pid process => hprocess, hvalid, ?_⟩
  constructor
  · rintro ⟨entries, levels, available, target, hlevels, htarget, hkillable⟩
    have hfloor := KillLevels.isValid_of_query hlevels htarget
    have hreached := (Table.mem_killable.1 hkillable).2
    have hbackground := ((hconsistent.sound hbundle).fits hlowest).le_background
    rw [hpriority] at hbackground
    rw [← hvalid]
    rw [Priority.isValid, Bool.and_eq_true, decide_eq_true_eq, decide_eq_true_eq] at hfloor ⊢
    exact ⟨Int.le_trans hfloor.1 hreached, Int.le_trans hbackground (by decide)⟩
  · intro hrange
    obtain ⟨entries, levels, available, target, hlevels, htarget, hfloor⟩ :=
      KillLevels.exists_query (hvalid.2 hrange)
    refine ⟨entries, levels, available, target, hlevels, htarget, Table.mem_killable.2 ?_⟩
    exact ⟨OrdMap.mem_values.2 ⟨key, hbundle⟩, Int.le_of_eq hfloor⟩

/-- A camera that is given the lowest floor there is can be reached. -/
theorem priority_isValid_iff_floor_camera :
    let config := Config.default.withFloor "camera" .lowest
    let setup : Setup Script := ⟨Script.host, .nameless, config, "/proc"⟩
    let actions : List Action := [.update (.single ⟨100, 20010002, "camera"⟩ .createProcess)]
    let table := ((start Script.start).run setup actions).table
    ∃ bundle, table.bundle? ⟨100, 20010002⟩ = some bundle ∧ bundle.priority = .lowest ∧
      ∃ entries levels available target, KillLevels.ofEntries entries = .ok levels ∧
        levels.query available = some target ∧ bundle ∈ table.killable target.floor := by
  intro config setup actions table
  have hstored : ((table.bundle? ⟨100, 20010002⟩).filter fun bundle =>
      bundle.name = "camera" ∧ bundle.priority = .lowest).isSome := by decide
  obtain ⟨bundle, hsome⟩ := Option.isSome_iff_exists.1 hstored
  obtain ⟨hbundle, hfields⟩ := Option.filter_eq_some_iff.1 hsome
  obtain ⟨hname, hpriority⟩ := of_decide_eq_true hfields
  have hreached := (priority_isValid_iff_floor setup Script.start actions ⟨100, 20010002⟩ bundle
    hbundle).2.2
  refine ⟨bundle, hbundle, hpriority, hreached.2 fun floor hfloor => ?_⟩
  have hconfigured : setup.config.floors.get? "camera" = some .lowest := by decide
  rw [hname, hconfigured, Option.some.injEq] at hfloor
  exact Int.le_of_eq hfloor

/-- A document may give a floor below the range.  The application then has that priority, and
not even the lowest kill level reaches it. -/
theorem floor_leaves_range :
    let text := "\x7b\"important_bundles\": \x7b\"camera\": -2000\x7d\x7d"
    let config := (Config.ofText? text).getD .default
    let setup : Setup Script := ⟨Script.host, .nameless, config, "/proc"⟩
    let actions : List Action := [.update (.single ⟨100, 20010002, "camera"⟩ .createProcess)]
    let table := ((start Script.start).run setup actions).table
    (Config.ofText? text).isSome ∧
    (table.process? 100).map ProcessRecord.priority = some (-2000) ∧
    (table.bundle? ⟨100, 20010002⟩).map Bundle.priority = some (-2000) ∧
    Priority.isValid (-2000) = false ∧ table.killable .lowest = [] := by
  decide

end Service

end MemoryReclaim
