import MemoryReclaim.Proofs.Service.Blind
import MemoryReclaim.Proofs.Service.Visibility
import MemoryReclaim.Proofs.Table.Facts

/-!
# Services that nobody can tell apart

Two services are twins when they agree on everything but the table and the queue of
updates, their tables have the same facts, and their queues hold the same updates apart
from timeouts.  Twins that take the same action on the same host stay twins, and what they
answer, choose and announce on the way is the same.
-/

namespace MemoryReclaim

/-- The updates that wait to be applied, apart from timeouts. -/
def UpdateQueue.awaited (queue : UpdateQueue) : List UpdateRequest :=
  queue.pending.filter fun request => request.reason ≠ .abilityStartTimeout

namespace Service

variable {σ : Type} {setup : Setup σ} {service left right : Service σ}

/-- The updates of the worker, if it runs, apart from timeouts. -/
def awaited (service : Service σ) : Option (List UpdateRequest) :=
  service.updates.map UpdateQueue.awaited

/-- Whether the worker is about to take a timeout. -/
def awaitsTimeout (service : Service σ) : Bool :=
  service.nextUpdate?.any fun request => request.reason = .abilityStartTimeout

/-- Two services on the same host, whose tables are up to date with the same facts as of a
time that no later reading of the clock is before. -/
structure Twins (setup : Setup σ) (left right : Service σ) : Prop where
  recast : ∃ table updates, right = left.recast table updates
  awaited_eq : left.awaited = right.awaited
  steady : setup.host.Steady left.host
  facts : ∃ last, left.table.Fresh setup.rules last ∧ right.table.Fresh setup.rules last ∧
    Table.SameFacts setup.rules last left.table right.table ∧
    setup.host.NotBefore last left.host

theorem perform_eq (setup : Setup σ) (request : ResolvedRequest) (service : Service σ) :
    service.perform setup request =
      notifyChange (service.table.apply setup.rules (service.clock setup).1 request).1
        { (service.clock setup).2 with
          table := service.table.perform setup.rules (service.clock setup).1 (.apply request) } :=
  rfl

/-- A worker that is not about to take a timeout has nothing to take, or takes an update
that is awaited. -/
theorem awaited_cases {pending : List UpdateRequest} {timers : List Timer}
    (hqueue : service.updates = some ⟨pending, timers⟩) (hnext : service.awaitsTimeout = false) :
    (pending = [] ∧ UpdateQueue.awaited ⟨pending, timers⟩ = []) ∨
      ∃ request later, pending = request :: later ∧
        UpdateQueue.awaited ⟨pending, timers⟩ = request :: UpdateQueue.awaited ⟨later, timers⟩ := by
  cases pending with
  | nil => exact .inl ⟨rfl, rfl⟩
  | cons request later =>
      rw [awaitsTimeout, nextUpdate?, hqueue] at hnext
      have hreason : request.reason ≠ .abilityStartTimeout := by
        simpa using hnext
      exact .inr ⟨request, later, rfl, List.filter_cons_of_pos (by simpa using hreason)⟩

namespace Twins

theorem host_eq (htwins : Twins setup left right) : right.host = left.host := by
  obtain ⟨table, updates, rfl⟩ := htwins.recast
  rfl

theorem clock_eq (htwins : Twins setup left right) :
    (right.clock setup).1 = (left.clock setup).1 := by
  rw [clock, clock, htwins.host_eq]

theorem windows_eq (htwins : Twins setup left right) : right.windows = left.windows := by
  obtain ⟨table, updates, rfl⟩ := htwins.recast
  rfl

theorem blind (htwins : Twins setup left right) {call : Service σ → Service σ}
    (hblind : Blind setup call) : Twins setup (call left) (call right) where
  recast := by
    obtain ⟨table, updates, rfl⟩ := htwins.recast
    exact ⟨table, updates, hblind.call_recast left table updates⟩
  awaited_eq := by
    rw [awaited, awaited, hblind.updates_eq, hblind.updates_eq]
    exact htwins.awaited_eq
  steady := htwins.steady.leads (hblind.leads left)
  facts := by
    obtain ⟨last, hleft, hright, hsame, hbound⟩ := htwins.facts
    rw [hblind.table_eq, hblind.table_eq]
    exact ⟨last, hleft, hright, hsame, hbound.leads (hblind.leads left)⟩

/-! ## Uses of the table -/

theorem operate (htwins : Twins setup left right) (operation : Table.Operation) :
    Twins setup
      { (left.clock setup).2 with
        table := left.table.perform setup.rules (left.clock setup).1 operation }
      { (right.clock setup).2 with
        table := right.table.perform setup.rules (right.clock setup).1 operation } := by
  obtain ⟨last, hleft, hright, hsame, hbound⟩ := htwins.facts
  have hle : last ≤ (left.clock setup).1 := hbound.le_now
  have hleads : setup.host.Leads left.host (left.clock setup).2.host := Quiet.clock.leads
  have hoperated : Table.SameFacts setup.rules (left.clock setup).1
      (left.table.perform setup.rules (left.clock setup).1 operation)
      (right.table.perform setup.rules (left.clock setup).1 operation) :=
    (hsame.mono hle).perform hleft.consistent hright.consistent operation
  rw [htwins.clock_eq]
  refine ⟨?_, htwins.awaited_eq, htwins.steady.leads hleads, (left.clock setup).1,
    (hleft.wait hle).perform operation, (hright.wait hle).perform operation, hoperated,
    htwins.steady.notBefore_now⟩
  obtain ⟨table, updates, rfl⟩ := htwins.recast
  exact ⟨_, updates, rfl⟩

theorem refreshed (htwins : Twins setup left right) :
    Twins setup (left.refreshed setup) (right.refreshed setup) :=
  htwins.operate .expire

/-- What a reader sees is the same. -/
theorem table_refreshed (htwins : Twins setup left right) :
    (right.refreshed setup).table = (left.refreshed setup).table := by
  obtain ⟨last, hleft, hright, hsame, hbound⟩ := htwins.facts
  have hle : last ≤ (left.clock setup).1 := hbound.le_now
  have hexpired := Table.Fresh.expire_eq (hleft.wait hle) (hright.wait hle) (hsame.mono hle)
  rw [Service.refreshed, Service.refreshed]
  simp only [htwins.clock_eq]
  exact hexpired.symm

theorem perform (htwins : Twins setup left right) (request : ResolvedRequest) :
    Twins setup (left.perform setup request) (right.perform setup request) := by
  have hchange := Table.change_apply setup.rules (left.clock setup).1 request right.table
    left.table
  have hoperated := htwins.operate (.apply request)
  rw [perform_eq, perform_eq, htwins.clock_eq, hchange]
  rw [htwins.clock_eq] at hoperated
  exact hoperated.blind (.notifyChange _)

theorem setBundleState (htwins : Twins setup left right) (key : BundleKey)
    (state : BundleState) :
    Twins setup (left.setBundleState key state).2 (right.setBundleState key state).2 := by
  have hafter : ∀ service : Service σ, (service.setBundleState key state).2 =
      { service with table := (service.table.setState key state).2 } := fun _ => rfl
  have hfresh : ∀ {table : Table} {last : Seconds}, table.Fresh setup.rules last →
      (table.setState key state).2.Fresh setup.rules last :=
    fun hfresh => hfresh.perform (.setState key state)
  obtain ⟨last, hleft, hright, hsame, hbound⟩ := htwins.facts
  rw [hafter, hafter]
  refine ⟨?_, htwins.awaited_eq, htwins.steady, last, hfresh hleft, hfresh hright,
    hsame.setState key state, hbound⟩
  obtain ⟨table, updates, rfl⟩ := htwins.recast
  exact ⟨_, updates, rfl⟩

theorem updateNow (htwins : Twins setup left right) (request : UpdateRequest) :
    Twins setup (left.updateNow setup request).2 (right.updateNow setup request).2 := by
  rw [updateNow_eq, updateNow_eq]
  split
  · exact htwins.perform _
  · exact htwins

theorem notifyStateNow (htwins : Twins setup left right) (caller : Uid)
    (info : ProcessStateInfo) :
    Twins setup (left.notifyStateNow setup caller info).2
      (right.notifyStateNow setup caller info).2 := by
  rw [notifyStateNow_eq, notifyStateNow_eq]
  split
  · split
    · exact htwins.updateNow _
    · exact htwins
  · exact htwins

/-! ## Uses of the queue -/

theorem requeue (htwins : Twins setup left right) {one other : Option UpdateQueue}
    (hawaited : one.map UpdateQueue.awaited = other.map UpdateQueue.awaited) :
    Twins setup { left with updates := one } { right with updates := other } where
  recast := by
    obtain ⟨table, updates, rfl⟩ := htwins.recast
    exact ⟨table, other, rfl⟩
  awaited_eq := hawaited
  steady := htwins.steady
  facts := htwins.facts

theorem updates_cases (htwins : Twins setup left right) :
    (left.updates = none ∧ right.updates = none) ∨
      ∃ queue counterpart, left.updates = some queue ∧ right.updates = some counterpart ∧
        queue.awaited = counterpart.awaited := by
  have hawaited := htwins.awaited_eq
  rw [awaited, awaited] at hawaited
  cases hleft : left.updates with
  | none =>
      rw [hleft] at hawaited
      exact .inl ⟨rfl, Option.map_eq_none_iff.1 hawaited.symm⟩
  | some queue =>
      rw [hleft] at hawaited
      obtain ⟨counterpart, hright, heq⟩ := Option.map_eq_some_iff.1 hawaited.symm
      exact .inr ⟨queue, counterpart, rfl, hright, heq.symm⟩

theorem post (htwins : Twins setup left right) (request : UpdateRequest) :
    (right.post request).1 = (left.post request).1 ∧
      Twins setup (left.post request).2 (right.post request).2 := by
  rcases htwins.updates_cases with ⟨hleft, hright⟩ | ⟨queue, counterpart, hleft, hright, heq⟩
  · rw [Service.post, Service.post, hleft, hright]
    exact ⟨rfl, htwins⟩
  · rw [post_of_running hleft, post_of_running hright]
    have hawaited : ∀ queue : UpdateQueue,
        UpdateQueue.awaited { queue with pending := queue.pending ++ [request] } =
          queue.awaited ++ [request].filter fun request => request.reason ≠ .abilityStartTimeout :=
      fun queue => List.filter_append queue.pending [request]
    have hposted : Twins setup
        { left with updates := some { queue with pending := queue.pending ++ [request] } }
        { right with
          updates := some { counterpart with pending := counterpart.pending ++ [request] } } := by
      apply htwins.requeue
      rw [Option.map_some, Option.map_some, hawaited, hawaited, heq]
    exact ⟨rfl, hposted⟩

theorem reportWindow (htwins : Twins setup left right) (info : WindowInfo) :
    (right.reportWindow info).1 = (left.reportWindow info).1 ∧
      Twins setup (left.reportWindow info).2 (right.reportWindow info).2 := by
  have hcommit : Blind setup fun service : Service σ =>
      { service with windows := service.windows.apply info } :=
    .of_recast (fun _ _ _ => rfl) fun _ => rfl
  rw [Service.reportWindow, Service.reportWindow, htwins.windows_eq]
  cases left.windows.transition? info with
  | none => exact ⟨rfl, htwins.blind hcommit⟩
  | some reason =>
      obtain ⟨hresult, hposted⟩ := htwins.post (.single (.unnamed info.pid info.uid) reason)
      dsimp only
      cases hleft : left.post (.single (.unnamed info.pid info.uid) reason) with
      | mk outcome after =>
      cases hright : right.post (.single (.unnamed info.pid info.uid) reason) with
      | mk outcomeRight afterRight =>
      rw [hleft, hright] at hresult hposted
      dsimp only at hresult
      subst hresult
      cases outcomeRight with
      | ok => exact ⟨rfl, hposted.blind hcommit⟩
      | error fault => exact ⟨rfl, hposted⟩

theorem reportWindows (htwins : Twins setup left right) (windows : List WindowInfo) :
    Twins setup (left.reportWindows windows).2 (right.reportWindows windows).2 := by
  induction windows generalizing left right with
  | nil => exact htwins
  | cons info later ih => exact ih (htwins.reportWindow info).2

theorem reserve {α : Type} (htwins : Twins setup left right)
    {call : Service σ → Except Fault α × Service σ}
    (hcall : Twins setup (call left).2 (call right).2) (caller expected : Uid) :
    Twins setup (left.reserve caller expected call).2 (right.reserve caller expected call).2 := by
  rw [reserve_eq, reserve_eq]
  split
  · exact hcall
  · exact htwins

theorem postState (htwins : Twins setup left right) (caller : Uid) (info : ProcessStateInfo) :
    Twins setup (left.notifyStateQueued setup caller info).2
      (right.notifyStateQueued setup caller info).2 := by
  apply htwins.reserve
  rw [withRequest, withRequest]
  split
  · exact (htwins.post _).2
  · exact htwins

theorem notifyLifecycle (htwins : Twins setup left right) (request : UpdateRequest) :
    Twins setup (left.notifyLifecycle request).2 (right.notifyLifecycle request).2 := by
  have hforget : Blind setup fun service : Service σ =>
      { service with windows := service.windows.erase request.target.pid } :=
    .of_recast (fun _ _ _ => rfl) fun _ => rfl
  rw [Service.notifyLifecycle, Service.notifyLifecycle]
  split
  · exact ((htwins.blind hforget).post request).2
  · exact (htwins.post request).2

theorem startUpdates (htwins : Twins setup left right) (hasRuntime : Bool) :
    Twins setup (left.startUpdates hasRuntime).2 (right.startUpdates hasRuntime).2 := by
  rcases htwins.updates_cases with ⟨hleft, hright⟩ | ⟨queue, counterpart, hleft, hright, heq⟩
  · rw [Service.startUpdates, Service.startUpdates, hleft, hright]
    cases hasRuntime with
    | true => exact htwins.requeue rfl
    | false => exact htwins
  · rw [Service.startUpdates, Service.startUpdates, hleft, hright]
    exact htwins

theorem fireTimer (htwins : Twins setup left right) (timer : Timer) :
    Twins setup (left.fireTimer timer) (right.fireTimer timer) := by
  rcases htwins.updates_cases with ⟨hleft, hright⟩ | ⟨queue, counterpart, hleft, hright, heq⟩
  · rw [Service.fireTimer, Service.fireTimer, hleft, hright]
    exact htwins
  · rw [Service.fireTimer, Service.fireTimer, hleft, hright]
    have hfired : Twins setup
        { left with updates := some { queue with timers := queue.timers.erase timer } }
        { right with
          updates := some { counterpart with timers := counterpart.timers.erase timer } } :=
      htwins.requeue (congrArg some heq)
    exact (hfired.post _).2

/-- Workers that are not about to take a timeout take the same update. -/
theorem updateStep (htwins : Twins setup left right) (hleft : left.awaitsTimeout = false)
    (hright : right.awaitsTimeout = false) :
    Twins setup (left.updateStep setup) (right.updateStep setup) := by
  rw [updateStep_eq, updateStep_eq]
  rcases htwins.updates_cases with ⟨hnone, hother⟩ | ⟨queue, counterpart, hqueue, hother, heq⟩
  · rw [hnone, hother]
    exact htwins
  rw [hqueue, hother]
  obtain ⟨pending, timers⟩ := queue
  obtain ⟨pendingRight, timersRight⟩ := counterpart
  rcases awaited_cases hqueue hleft with ⟨hempty, hnone⟩ | ⟨request, later, hnext, hawaited⟩
  · rcases awaited_cases hother hright with ⟨hemptyRight, -⟩ | ⟨request, later, -, hawaited⟩
    · rw [hempty, hemptyRight]
      exact htwins
    · rw [hnone, hawaited] at heq
      cases heq
  · rcases awaited_cases hother hright with
      ⟨-, hnone⟩ | ⟨counterpart, laterRight, hnextRight, hagain⟩
    · rw [hnone, hawaited] at heq
      cases heq
    · rw [hawaited, hagain] at heq
      obtain ⟨rfl, hlater⟩ := List.cons.inj heq
      have htaken : Twins setup
          { left with updates := some ⟨later, timers ++
            timersAfter setup.config.graceWindow left.uptime request⟩ }
          { right with updates := some ⟨laterRight, timersRight ++
            timersAfter setup.config.graceWindow right.uptime request⟩ } :=
        htwins.requeue (congrArg some hlater)
      rw [hnext, hnextRight]
      exact htaken.perform (queuedEvent setup request)

/-! ## Kills -/

theorem killBundle (htwins : Twins setup left right) (bundle : Bundle) :
    (right.killBundle setup bundle).1 = (left.killBundle setup bundle).1 ∧
      Twins setup (left.killBundle setup bundle).2 (right.killBundle setup bundle).2 := by
  have hselected := htwins.blind (.record [.selected bundle.key])
  constructor
  · obtain ⟨table, updates, heq⟩ := hselected.recast
    rw [Service.killBundle, Service.killBundle, heq]
    exact killAll_recast bundle.procs.values _ table updates
  · have hkilled := hselected.blind (.killAll bundle.procs.values)
    exact hkilled.setBundleState bundle.key .waitingForKill

/-- Twins kill the same bundle. -/
theorem killOne (htwins : Twins setup left right) (floor : Priority) :
    (right.killOne setup floor).1 = (left.killOne setup floor).1 ∧
      Twins setup (left.killOne setup floor).2 (right.killOne setup floor).2 := by
  have hready : Twins setup (left.atChoice setup) (right.atChoice setup) :=
    htwins.refreshed.blind .clock
  have htable : (right.atChoice setup).table = (left.atChoice setup).table :=
    htwins.table_refreshed
  have htime : right.choiceTime setup = left.choiceTime setup := htwins.refreshed.clock_eq
  rw [killOne_eq, killOne_eq, choice?, choice?, htable, htime]
  split
  · exact ⟨rfl, hready⟩
  · exact hready.killBundle _

theorem measure_eq (htwins : Twins setup left right) :
    (right.measure setup).1 = (left.measure setup).1 := by
  rw [measure, measure, htwins.host_eq]

theorem killPasses (htwins : Twins setup left right) (target : KillTarget) (deficit : Kilobytes)
    (remaining kills : Nat) (freed : Kilobytes) :
    (right.killPasses setup target deficit remaining kills freed).1 =
        (left.killPasses setup target deficit remaining kills freed).1 ∧
      Twins setup (left.killPasses setup target deficit remaining kills freed).2
        (right.killPasses setup target deficit remaining kills freed).2 := by
  induction remaining generalizing left right kills freed with
  | zero => exact ⟨rfl, htwins⟩
  | succ remaining ih =>
      have hstart := htwins.blind .passStart
      obtain ⟨hgained, hkilled⟩ := hstart.killOne target.floor
      have hend : Twins setup ((left.passStart setup).passEnd setup target.floor)
          ((right.passStart setup).passEnd setup target.floor) := by
        have hmeasured := hkilled.blind .measure
        rw [passEnd, passEnd]
        exact hmeasured
      have hreading : (right.passStart setup).passReading setup target.floor =
          (left.passStart setup).passReading setup target.floor := by
        rw [passReading, passReading, hkilled.measure_eq]
      have hlast := hend.blind (.publishLevel 0)
      rw [killPasses_succ, killPasses_succ]
      dsimp only
      rw [hgained, hreading]
      split
      · exact ⟨rfl, htwins⟩
      split
      · exact ⟨rfl, hkilled⟩
      split
      · exact ⟨rfl, hlast⟩
      split
      · exact ih hend _ _
      · exact ⟨rfl, hlast⟩

/-- Twins go through the same cycle. -/
theorem killCycle (htwins : Twins setup left right) :
    (right.killCycle setup).1 = (left.killCycle setup).1 ∧
      Twins setup (left.killCycle setup).2 (right.killCycle setup).2 := by
  have hcount : Blind setup fun service : Service σ =>
      { service with cycles := service.cycles + 1 } :=
    .of_recast (fun _ _ _ => rfl) fun _ => rfl
  have hcycles : right.cycles = left.cycles := by
    obtain ⟨table, updates, rfl⟩ := htwins.recast
    rfl
  have hcounted := htwins.blind hcount
  have hreading := hcounted.measure_eq
  have hmeasured := hcounted.blind .measure
  rw [Service.killCycle, Service.killCycle]
  cases hleft : { left with cycles := left.cycles + 1 }.measure setup with
  | mk reading measured =>
  cases hright : { right with cycles := right.cycles + 1 }.measure setup with
  | mk readingRight measuredRight =>
  rw [hleft, hright] at hreading hmeasured
  dsimp only at hreading hmeasured
  rw [hreading, hcycles]
  cases reading with
  | none => exact ⟨rfl, hmeasured⟩
  | some available =>
      dsimp only
      cases setup.levels.query available with
      | none => exact ⟨rfl, hmeasured⟩
      | some target =>
          dsimp only
          split
          · have hannounced := (hmeasured.blind (.publishLevel target.level)).blind
              (.announceLevel target.level)
            obtain ⟨htally, hafter⟩ := hannounced.killPasses target
              (target.targetBuffer - available) setup.config.maxKills 0 0
            rw [killForTarget, killForTarget]
            dsimp only
            rw [htally]
            exact ⟨rfl, hafter⟩
          · exact ⟨rfl, hmeasured⟩

/-- Twins that take the same action stay twins, as long as none takes a timeout. -/
theorem act (htwins : Twins setup left right) (action : Action)
    (hleft : action = .takeUpdate → left.awaitsTimeout = false)
    (hright : action = .takeUpdate → right.awaitsTimeout = false) :
    Twins setup (left.act setup action) (right.act setup action) := by
  have hidle : ∀ action : Action,
      (∀ (service : Service σ) table updates, (service.recast table updates).act setup action =
        (service.act setup action).recast table updates) →
      (∀ service : Service σ, (service.act setup action).host = service.host) →
      Twins setup (left.act setup action) (right.act setup action) := by
    intro action hrecast hhost
    have hblind : Blind setup fun service => service.act setup action := .of_recast hrecast hhost
    exact htwins.blind hblind
  cases action with
  | update request => exact htwins.updateNow request
  | perform request => exact htwins.perform request
  | post request => exact (htwins.post request).2
  | notifyState caller info => exact htwins.notifyStateNow caller info
  | postState caller info => exact htwins.postState caller info
  | notifyWindows caller windows => exact htwins.reserve (htwins.reportWindows windows) _ _
  | notifyLifecycle request => exact htwins.notifyLifecycle request
  | notifyDevice pid uid name connected => exact (htwins.post _).2
  | startUpdates hasRuntime => exact htwins.startUpdates hasRuntime
  | takeUpdate => exact htwins.updateStep (hleft rfl) (hright rfl)
  | dropUpdates => exact htwins.requeue rfl
  | fireTimer timer => exact htwins.fireTimer timer
  | setUptime uptime => exact hidle _ (fun _ _ _ => rfl) fun _ => rfl
  | read => exact htwins.refreshed
  | setBundleState key state => exact htwins.setBundleState key state
  | startKiller hasRuntime => exact htwins.blind (.startKiller hasRuntime)
  | signal => exact htwins.blind .signalPressure
  | takeSignal => exact hidle _ (fun _ _ _ => rfl) fun _ => rfl
  | dropSignals => exact hidle _ (fun _ _ _ => rfl) fun _ => rfl
  | cycle => exact htwins.killCycle.2
  | killOne floor => exact (htwins.killOne floor).2
  | checkPressure path threshold => exact htwins.blind (.pressure? path threshold)
  | readPriority caller pid => exact htwins.blind (.reserve (.readPriority pid) _ _)
  | readAvailable => exact htwins.blind .measure
  | readTotal => exact htwins.blind ⟨fun _ _ _ => rfl, fun _ => (Quiet.use (.total _)).leads⟩
  | subscribe name => exact htwins.blind (.subscribe name)
  | unsubscribe name => exact htwins.blind (.unsubscribe name)

end Twins

end Service

end MemoryReclaim
