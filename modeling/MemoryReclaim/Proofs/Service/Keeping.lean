import MemoryReclaim.Proofs.Host
import MemoryReclaim.Proofs.Service.Passes
import MemoryReclaim.Proofs.Table.Freshness
import MemoryReclaim.Service.Calls
import MemoryReclaim.Service.Monitor

/-!
# What the operations of a service keep

Every operation moves on: it uses the host and adds to the journal.  `Quiet` is an
operation that leaves the table alone as well and selects no bundle, as most do.  The
others use the table at a time just read from the clock, so the table stays up to date as
of a time that the clock does not go back behind; `Advances` is what is common to both
kinds.
-/

namespace MemoryReclaim.Service

variable {σ : Type}

/-- A service moves on by using its host and by adding to its journal. -/
structure Onward (setup : Setup σ) (before after : Service σ) : Prop where
  leads : setup.host.Leads before.host after.host
  journal_grows : before.journal <+: after.journal

def selectedKey? : Event → Option BundleKey
  | .selected key => some key
  | .delivered _ | .killed _ _ | .wrote _ _ _ _ => none

/-- The bundles that the killer has selected, in order. -/
def selectedKeys (service : Service σ) : List BundleKey :=
  service.journal.filterMap selectedKey?

/-- The service moves on, leaves the table alone and selects no bundle. -/
structure Quiet (setup : Setup σ) (before after : Service σ) : Prop
    extends Onward setup before after where
  table_eq : after.table = before.table
  selectedKeys_eq : after.selectedKeys = before.selectedKeys

variable {setup : Setup σ} {service before middle after : Service σ}

theorem Onward.trans (hfirst : Onward setup before middle) (hsecond : Onward setup middle after) :
    Onward setup before after where
  leads := hfirst.leads.trans hsecond.leads
  journal_grows := hfirst.journal_grows.trans hsecond.journal_grows

theorem selectedKeys_record (events : List Event) :
    (service.record events).selectedKeys =
      service.selectedKeys ++ events.filterMap selectedKey? :=
  List.filterMap_append

namespace Quiet

theorem trans (hfirst : Quiet setup before middle) (hsecond : Quiet setup middle after) :
    Quiet setup before after where
  toOnward := hfirst.toOnward.trans hsecond.toOnward
  table_eq := hsecond.table_eq.trans hfirst.table_eq
  selectedKeys_eq := hsecond.selectedKeys_eq.trans hfirst.selectedKeys_eq

/-- A change of the queues, the windows or the counters only. -/
theorem of_eq (hhost : after.host = before.host) (hjournal : after.journal = before.journal)
    (htable : after.table = before.table) : Quiet setup before after where
  leads := hhost ▸ .refl
  journal_grows := hjournal ▸ List.prefix_rfl
  table_eq := htable
  selectedKeys_eq := congrArg (List.filterMap selectedKey?) hjournal

theorem refl : Quiet setup service service := of_eq rfl rfl rfl

/-- One use of the host. -/
theorem use {host : σ} (hstep : setup.host.Step service.host host) :
    Quiet setup service { service with host } where
  leads := .single hstep
  journal_grows := List.prefix_rfl
  table_eq := rfl
  selectedKeys_eq := rfl

theorem record {events : List Event} (hunselected : events.filterMap selectedKey? = []) :
    Quiet setup service (service.record events) where
  leads := .refl
  journal_grows := List.prefix_append _ _
  table_eq := rfl
  selectedKeys_eq := by rw [selectedKeys_record, hunselected, List.append_nil]

theorem deliver (deliveries : List Delivery) :
    Quiet setup service (service.record (deliveries.map .delivered)) := by
  apply record
  rw [List.filterMap_eq_nil_iff]
  intro event hevent
  obtain ⟨delivery, -, rfl⟩ := List.mem_map.1 hevent
  rfl

theorem notify (notice : Notice) : Quiet setup service (service.notify notice) :=
  deliver _

theorem clock : Quiet setup service (service.clock setup).2 := use (.now _)

theorem measure : Quiet setup service (service.measure setup).2 := use (.available _)

theorem readFile (path : Path) : Quiet setup service (service.readFile setup path).2 :=
  use (.read path _)

theorem killProcess (pid : Pid) : Quiet setup service (service.killProcess setup pid).2 :=
  trans (use (.kill pid _)) (record rfl)

theorem echo (path : Path) (content : String) :
    Quiet setup service (service.echo setup path content).2 :=
  trans (use (.write path content .truncate _)) (record rfl)

theorem post (request : UpdateRequest) : Quiet setup service (service.post request).2 := by
  rw [Service.post]
  split
  · exact refl
  · exact of_eq rfl rfl rfl

theorem reserve {α : Type} {call : Service σ → Except Fault α × Service σ}
    (hcall : Quiet setup service (call service).2) (caller expected : Uid) :
    Quiet setup service (service.reserve caller expected call).2 := by
  rw [Service.reserve]
  split
  · exact hcall
  · exact refl

theorem reportWindow (info : WindowInfo) :
    Quiet setup service (service.reportWindow info).2 := by
  rw [Service.reportWindow]
  split
  · exact of_eq rfl rfl rfl
  · next reason _ =>
    have hpost : Quiet setup service
        (service.post (.single (.unnamed info.pid info.uid) reason)).2 := post _
    split
    · next posted heq =>
      rw [heq] at hpost
      exact hpost.trans (of_eq rfl rfl rfl)
    · next fault posted heq =>
      rw [heq] at hpost
      exact hpost

theorem reportWindows (windows : List WindowInfo) :
    Quiet setup service (service.reportWindows windows).2 := by
  induction windows generalizing service with
  | nil => exact refl
  | cons info later ih => exact (reportWindow info).trans ih

theorem notifyLifecycle (request : UpdateRequest) :
    Quiet setup service (service.notifyLifecycle request).2 := by
  rw [Service.notifyLifecycle]
  split
  · apply trans _ (post request)
    exact of_eq rfl rfl rfl
  · exact post request

theorem withRequest {update : UpdateRequest → Service σ → Except Fault Unit × Service σ}
    (hupdate : ∀ request, Quiet setup service (update request service).2)
    (info : ProcessStateInfo) :
    Quiet setup service (Service.withRequest info update service).2 := by
  rw [Service.withRequest]
  split
  · exact hupdate _
  · exact refl

theorem startUpdates (hasRuntime : Bool) :
    Quiet setup service (service.startUpdates hasRuntime).2 := by
  rw [Service.startUpdates]
  split
  · exact refl
  · split
    · exact of_eq rfl rfl rfl
    · exact refl

theorem fireTimer (timer : Timer) : Quiet setup service (service.fireTimer timer) := by
  rw [Service.fireTimer]
  split
  · exact refl
  · apply trans _ (post _)
    exact of_eq rfl rfl rfl

theorem startKiller (hasRuntime : Bool) :
    Quiet setup service (service.startKiller hasRuntime).2 := by
  rw [Service.startKiller]
  split
  · exact refl
  · split
    · exact of_eq rfl rfl rfl
    · exact refl

theorem signalPressure : Quiet setup service service.signalPressure.2 := by
  rw [Service.signalPressure]
  split
  · exact refl
  · exact of_eq rfl rfl rfl

theorem pressure? (path : Path) (threshold : Float) :
    Quiet setup service (service.pressure? setup path threshold).2 := by
  have hread : Quiet setup service (service.readFile setup path).2 := readFile path
  rw [Service.pressure?]
  split
  · next heq =>
    rw [heq] at hread
    exact hread
  · next heq =>
    rw [heq] at hread
    exact hread

theorem readPriority (pid : Pid) : Quiet setup service (service.readPriority setup pid).2 := by
  have hread : Quiet setup service
      (service.readFile setup (ProcFile.path setup.procRoot pid "oom_score_adj")).2 :=
    readFile _
  rw [Service.readPriority]
  split
  · next heq =>
    rw [heq] at hread
    exact hread
  · next heq =>
    rw [heq] at hread
    split <;> exact hread

theorem subscribe (name : SubscriberName) :
    Quiet setup service (service.subscribe name).2 := by
  rw [Service.subscribe]
  apply trans _ (deliver _)
  exact of_eq rfl rfl rfl

theorem unsubscribe (name : SubscriberName) :
    Quiet setup service (service.unsubscribe name).2 := by
  rw [Service.unsubscribe]
  apply trans _ (deliver _)
  exact of_eq rfl rfl rfl

theorem publishLevel (level : Nat) : Quiet setup service (service.publishLevel level) :=
  of_eq rfl rfl rfl

theorem announceLevel (level : Nat) : Quiet setup service (service.announceLevel level) := by
  rw [Service.announceLevel]
  split
  · exact notify _
  · exact refl

theorem notifyChange (change : Option AppStateChange) :
    Quiet setup service (service.notifyChange change) := by
  cases change with
  | none => exact refl
  | some change => exact notify _

theorem killReclaimed (process : ProcessRecord) :
    Quiet setup service (service.killReclaimed setup process).2 :=
  (notify _).trans (killProcess _)

theorem killAll (processes : List ProcessRecord) :
    Quiet setup service (service.killAll setup processes).2 := by
  induction processes generalizing service with
  | nil => exact refl
  | cons process later ih => exact (killReclaimed process).trans ih

end Quiet

theorem table_killBundle (bundle : Bundle) (service : Service σ) :
    (service.killBundle setup bundle).2.table =
      (service.table.setState bundle.key .waitingForKill).2 := by
  have hkilled : Quiet setup (service.record [.selected bundle.key])
      ((service.record [.selected bundle.key]).killAll setup bundle.procs.values).2 := .killAll _
  exact congrArg (fun table => (table.setState bundle.key .waitingForKill).2) hkilled.table_eq

theorem selectedKeys_killBundle (bundle : Bundle) (service : Service σ) :
    (service.killBundle setup bundle).2.selectedKeys = service.selectedKeys ++ [bundle.key] := by
  have hkilled : Quiet setup (service.record [.selected bundle.key])
      ((service.record [.selected bundle.key]).killAll setup bundle.procs.values).2 := .killAll _
  exact hkilled.selectedKeys_eq.trans (selectedKeys_record _)

/-! ## What a cycle is made of -/

/-- Besides the kill of one bundle at a time, a cycle does nothing that is not quiet. -/
inductive KillStep (setup : Setup σ) : Service σ → Service σ → Prop
  | quiet {before after : Service σ} (hquiet : Quiet setup before after) :
      KillStep setup before after
  | kill (floor : Priority) (service : Service σ) :
      KillStep setup service (service.killOne setup floor).2

abbrev KillSteps (setup : Setup σ) : Service σ → Service σ → Prop :=
  Relation.ReflTransGen (KillStep setup)

/-- To the end of all passes, and to and from the kill of each. -/
theorem killPasses_steps (target : KillTarget) (deficit : Kilobytes) (left kills : Nat)
    (freed : Kilobytes) (service : Service σ) :
    KillSteps setup service (service.killPasses setup target deficit left kills freed).2 ∧
      ∀ start ∈ service.passStarts setup target deficit left freed,
        KillSteps setup service start ∧
        KillSteps setup (start.killOne setup target.floor).2
          (service.killPasses setup target deficit left kills freed).2 := by
  have hstart : ∀ service : Service σ, KillSteps setup service (service.passStart setup) :=
    fun _ => .single (.quiet (.echo _ _))
  have hkill : ∀ start : Service σ,
      KillSteps setup start (start.killOne setup target.floor).2 := fun _ => .single (.kill _ _)
  have hend : ∀ start : Service σ, KillSteps setup (start.killOne setup target.floor).2
      (start.passEnd setup target.floor) := fun _ => .single (.quiet .measure)
  have hpublish : ∀ start : Service σ, KillSteps setup (start.killOne setup target.floor).2
      ((start.passEnd setup target.floor).publishLevel 0) :=
    fun start => (hend start).tail (.quiet (.publishLevel 0))
  apply killPasses_induction (motive := fun _ _ _ service result starts =>
    KillSteps setup service result.2 ∧ ∀ start ∈ starts, KillSteps setup service start ∧
      KillSteps setup (start.killOne setup target.floor).2 result.2)
  case cap =>
    intro kills freed service
    exact ⟨.refl, fun _ hmem => absurd hmem List.not_mem_nil⟩
  case covered =>
    intro left kills freed service _
    exact ⟨.refl, fun _ hmem => absurd hmem List.not_mem_nil⟩
  case nothing =>
    intro left kills freed service _ _
    refine ⟨(hstart service).trans (hkill _), fun start hmem => ?_⟩
    rw [List.mem_singleton.1 hmem]
    exact ⟨hstart service, .refl⟩
  case lost =>
    intro left kills freed service gained _ _ _ _
    refine ⟨(hstart service).trans ((hkill _).trans (hpublish _)), fun start hmem => ?_⟩
    rw [List.mem_singleton.1 hmem]
    exact ⟨hstart service, hpublish _⟩
  case recovered =>
    intro left kills freed service gained available _ _ _ _ _
    refine ⟨(hstart service).trans ((hkill _).trans (hpublish _)), fun start hmem => ?_⟩
    rw [List.mem_singleton.1 hmem]
    exact ⟨hstart service, hpublish _⟩
  case again =>
    intro left kills freed service gained available result starts _ _ _ _ _ ih
    have hpass : KillSteps setup service
        ((service.passStart setup).passEnd setup target.floor) :=
      (hstart service).trans ((hkill _).trans (hend _))
    refine ⟨hpass.trans ih.1, fun start hmem => ?_⟩
    rcases List.mem_cons.1 hmem with rfl | hlater
    · exact ⟨hstart service, (hend _).trans ih.1⟩
    · obtain ⟨hbefore, hafter⟩ := ih.2 start hlater
      exact ⟨hpass.trans hbefore, hafter⟩

theorem killCycle_steps : KillSteps setup service (service.killCycle setup).2 := by
  have hmeasured : Quiet setup service
      ({ service with cycles := service.cycles + 1 }.measure setup).2 := by
    apply Quiet.trans _ Quiet.measure
    exact .of_eq rfl rfl rfl
  rw [Service.killCycle]
  split
  · next heq =>
    rw [heq] at hmeasured
    exact .single (.quiet hmeasured)
  · next heq =>
    rw [heq] at hmeasured
    split
    · exact .single (.quiet hmeasured)
    · split
      · rw [Service.killForTarget]
        apply Relation.ReflTransGen.head _ (killPasses_steps _ _ _ _ _ _).1
        exact .quiet (hmeasured.trans ((Quiet.publishLevel _).trans (Quiet.announceLevel _)))
      · exact .single (.quiet hmeasured)

/-! ## The table of a running service -/

/-- The clock is steady, and the table is up to date as of a time that no later reading
is before. -/
structure Timely (setup : Setup σ) (service : Service σ) : Prop where
  steady : setup.host.Steady service.host
  fresh : ∃ last, service.table.Fresh setup.rules last ∧ setup.host.NotBefore last service.host

theorem start_timely {host : σ} (hsteady : setup.host.Steady host) :
    (start host).Timely setup :=
  ⟨hsteady, 0, Table.empty_fresh setup.rules, Host.notBefore_zero⟩

namespace Timely

theorem quiet (htimely : before.Timely setup) (hquiet : Quiet setup before after) :
    after.Timely setup := by
  obtain ⟨last, hfresh, hbound⟩ := htimely.fresh
  refine ⟨htimely.steady.leads hquiet.leads, last, ?_, hbound.leads hquiet.leads⟩
  rw [hquiet.table_eq]
  exact hfresh

/-- A reading of the clock is a time as of which the table is up to date. -/
theorem fresh_now (htimely : service.Timely setup) :
    service.table.Fresh setup.rules (service.clock setup).1 := by
  obtain ⟨last, hfresh, hbound⟩ := htimely.fresh
  exact hfresh.wait hbound.le_now

/-- Any use of the table at the time just read leaves it up to date. -/
theorem operate (htimely : service.Timely setup) (operation : Table.Operation) :
    { (service.clock setup).2 with
      table := service.table.perform setup.rules (service.clock setup).1 operation }.Timely
        setup where
  steady := htimely.steady.leads Quiet.clock.leads
  fresh := ⟨_, htimely.fresh_now.perform operation, htimely.steady.notBefore_now⟩

theorem setBundleState (htimely : service.Timely setup) (key : BundleKey)
    (state : BundleState) : (service.setBundleState key state).2.Timely setup where
  steady := htimely.steady
  fresh := by
    obtain ⟨last, hfresh, hbound⟩ := htimely.fresh
    exact ⟨last, hfresh.perform (.setState key state), hbound⟩

end Timely

/-- What every action keeps. -/
structure Advances (setup : Setup σ) (before after : Service σ) : Prop
    extends Onward setup before after where
  timely : before.Timely setup → after.Timely setup
  table_run : ∃ history, after.table = before.table.run setup.rules history

theorem Quiet.advances (hquiet : Quiet setup before after) : Advances setup before after where
  toOnward := hquiet.toOnward
  timely htimely := htimely.quiet hquiet
  table_run := ⟨[], hquiet.table_eq⟩

namespace Advances

theorem trans (hfirst : Advances setup before middle) (hsecond : Advances setup middle after) :
    Advances setup before after where
  toOnward := hfirst.toOnward.trans hsecond.toOnward
  timely htimely := hsecond.timely (hfirst.timely htimely)
  table_run := by
    obtain ⟨earlier, hmiddle⟩ := hfirst.table_run
    obtain ⟨later, hafter⟩ := hsecond.table_run
    refine ⟨earlier ++ later, ?_⟩
    rw [hafter, hmiddle, Table.run, Table.run, Table.run, List.foldl_append]

theorem of_eq (hhost : after.host = before.host) (hjournal : after.journal = before.journal)
    (htable : after.table = before.table) : Advances setup before after :=
  (Quiet.of_eq hhost hjournal htable).advances

theorem refl : Advances setup service service := of_eq rfl rfl rfl

theorem operate (operation : Table.Operation) :
    Advances setup service
      { (service.clock setup).2 with
        table := service.table.perform setup.rules (service.clock setup).1 operation } where
  leads := Quiet.clock.leads
  journal_grows := List.prefix_rfl
  timely htimely := htimely.operate operation
  table_run := ⟨[((service.clock setup).1, operation)], rfl⟩

theorem perform (request : ResolvedRequest) :
    Advances setup service (service.perform setup request) := by
  rw [Service.perform]
  apply trans _ (Quiet.notifyChange _).advances
  exact operate (.apply request)

theorem updateNow (request : UpdateRequest) :
    Advances setup service (service.updateNow setup request).2 := by
  rw [Service.updateNow]
  split
  · exact refl
  · exact perform _

theorem notifyStateNow (caller : Uid) (info : ProcessStateInfo) :
    Advances setup service (service.notifyStateNow setup caller info).2 := by
  rw [Service.notifyStateNow, reserve]
  split
  · rw [withRequest]
    split
    · exact updateNow _
    · exact refl
  · exact refl

theorem updateStep : Advances setup service (service.updateStep setup) := by
  rw [Service.updateStep]
  split
  · apply trans _ (perform _)
    exact of_eq rfl rfl rfl
  · exact refl

theorem refreshed : Advances setup service (service.refreshed setup) := operate .expire

theorem setBundleState (key : BundleKey) (state : BundleState) :
    Advances setup service (service.setBundleState key state).2 where
  leads := .refl
  journal_grows := List.prefix_rfl
  timely htimely := htimely.setBundleState key state
  table_run := ⟨[(0, .setState key state)], rfl⟩

theorem select (key : BundleKey) : Advances setup service (service.record [.selected key]) where
  leads := .refl
  journal_grows := List.prefix_append _ _
  timely htimely := ⟨htimely.steady, htimely.fresh⟩
  table_run := ⟨[], rfl⟩

theorem killBundle (bundle : Bundle) :
    Advances setup service (service.killBundle setup bundle).2 := by
  rw [Service.killBundle]
  apply trans _ (setBundleState _ _)
  exact (select bundle.key).trans (Quiet.killAll _).advances

theorem killOne (floor : Priority) :
    Advances setup service (service.killOne setup floor).2 := by
  have hclock : Advances setup service ((service.refreshed setup).clock setup).2 :=
    refreshed.trans Quiet.clock.advances
  rw [Service.killOne, Service.killableBundles]
  simp only
  split
  · exact hclock
  · exact hclock.trans (killBundle _)

theorem killSteps (hsteps : KillSteps setup before after) : Advances setup before after := by
  induction hsteps with
  | refl => exact refl
  | tail _ hstep ih =>
      apply ih.trans
      cases hstep with
      | quiet hquiet => exact hquiet.advances
      | kill floor service => exact killOne floor

theorem killCycle : Advances setup service (service.killCycle setup).2 :=
  killSteps killCycle_steps

end Advances

end MemoryReclaim.Service
