import MemoryReclaim.Proofs.Service.Keeping

/-!
# Runs of a service

The service as a transition system: an action is a call from outside or one step of a
worker, of a timer or of the pressure monitor, and a run is a list of actions.  The
operations of the workers and of the monitor only take actions, so what holds after
every run holds whenever a call returns.
-/

namespace MemoryReclaim

namespace Service

variable {σ : Type} {setup : Setup σ} {service before middle after : Service σ}

inductive Action
  | update (request : UpdateRequest)
  /-- An update whose names were looked up elsewhere. -/
  | perform (request : ResolvedRequest)
  | post (request : UpdateRequest)
  | notifyState (caller : Uid) (info : ProcessStateInfo)
  | postState (caller : Uid) (info : ProcessStateInfo)
  | notifyWindows (caller : Uid) (windows : List WindowInfo)
  | notifyLifecycle (request : UpdateRequest)
  | notifyDevice (pid : Pid) (uid : Uid) (name : String) (connected : Bool)
  | startUpdates (hasRuntime : Bool)
  /-- The worker of updates takes one from its queue. -/
  | takeUpdate
  | dropUpdates
  | fireTimer (timer : Timer)
  | setUptime (uptime : Nat)
  | read
  | setBundleState (key : BundleKey) (state : BundleState)
  | startKiller (hasRuntime : Bool)
  | signal
  /-- The killer takes a signal from its queue, for which it then runs a cycle. -/
  | takeSignal
  | dropSignals
  | cycle
  | killOne (floor : Priority)
  | checkPressure (path : Path) (threshold : Float)
  | readPriority (caller : Uid) (pid : Pid)
  | readAvailable
  | readTotal
  | subscribe (name : SubscriberName)
  | unsubscribe (name : SubscriberName)

def takeSignal (service : Service σ) : Service σ :=
  { service with signals := service.signals.map Nat.pred }

def act (setup : Setup σ) (service : Service σ) : Action → Service σ
  | .update request => (service.updateNow setup request).2
  | .perform request => service.perform setup request
  | .post request => (service.post request).2
  | .notifyState caller info => (service.notifyStateNow setup caller info).2
  | .postState caller info => (service.notifyStateQueued setup caller info).2
  | .notifyWindows caller windows => (service.notifyWindows setup caller windows).2
  | .notifyLifecycle request => (service.notifyLifecycle request).2
  | .notifyDevice pid uid name connected => (service.notifyDevice pid uid name connected).2
  | .startUpdates hasRuntime => (service.startUpdates hasRuntime).2
  | .takeUpdate => service.updateStep setup
  | .dropUpdates => { service with updates := none }
  | .fireTimer timer => service.fireTimer timer
  | .setUptime uptime => { service with uptime }
  | .read => service.refreshed setup
  | .setBundleState key state => (service.setBundleState key state).2
  | .startKiller hasRuntime => (service.startKiller hasRuntime).2
  | .signal => service.signalPressure.2
  | .takeSignal => service.takeSignal
  | .dropSignals => { service with signals := none }
  | .cycle => (service.killCycle setup).2
  | .killOne floor => (service.killOne setup floor).2
  | .checkPressure path threshold => (service.pressure? setup path threshold).2
  | .readPriority caller pid => (service.kernelPriority setup caller pid).2
  | .readAvailable => (service.availableMemory setup).2
  | .readTotal => (service.totalMemory setup).2
  | .subscribe name => (service.subscribe name).2
  | .unsubscribe name => (service.unsubscribe name).2

/-- The service after a run. -/
def run (setup : Setup σ) (actions : List Action) (service : Service σ) : Service σ :=
  actions.foldl (act setup) service

theorem act_advances (action : Action) : Advances setup service (service.act setup action) := by
  cases action with
  | update request => exact .updateNow request
  | perform request => exact .perform request
  | post request => exact (Quiet.post request).advances
  | notifyState caller info => exact .notifyStateNow caller info
  | postState caller info =>
      exact (Quiet.reserve (Quiet.withRequest Quiet.post info) _ _).advances
  | notifyWindows caller windows =>
      exact (Quiet.reserve (Quiet.reportWindows windows) _ _).advances
  | notifyLifecycle request => exact (Quiet.notifyLifecycle request).advances
  | notifyDevice pid uid name connected => exact (Quiet.post _).advances
  | startUpdates hasRuntime => exact (Quiet.startUpdates hasRuntime).advances
  | takeUpdate => exact .updateStep
  | dropUpdates => exact .of_eq rfl rfl rfl
  | fireTimer timer => exact (Quiet.fireTimer timer).advances
  | setUptime uptime => exact .of_eq rfl rfl rfl
  | read => exact .refreshed
  | setBundleState key state => exact .setBundleState key state
  | startKiller hasRuntime => exact (Quiet.startKiller hasRuntime).advances
  | signal => exact Quiet.signalPressure.advances
  | takeSignal => exact .of_eq rfl rfl rfl
  | dropSignals => exact .of_eq rfl rfl rfl
  | cycle => exact .killCycle
  | killOne floor => exact .killOne floor
  | checkPressure path threshold => exact (Quiet.pressure? path threshold).advances
  | readPriority caller pid => exact (Quiet.reserve (Quiet.readPriority pid) _ _).advances
  | readAvailable => exact Quiet.measure.advances
  | readTotal => exact (Quiet.use (.total _)).advances
  | subscribe name => exact (Quiet.subscribe name).advances
  | unsubscribe name => exact (Quiet.unsubscribe name).advances

theorem run_advances (actions : List Action) :
    Advances setup service (service.run setup actions) := by
  induction actions generalizing service with
  | nil => exact .refl
  | cons action later ih => exact (act_advances action).trans ih

/-! ## Workers and monitors only take actions -/

/-- Some run leads from one service to another. -/
def Runs (setup : Setup σ) (before after : Service σ) : Prop :=
  ∃ actions, before.run setup actions = after

namespace Runs

theorem refl : Runs setup service service := ⟨[], rfl⟩

theorem act (action : Action) : Runs setup service (service.act setup action) :=
  ⟨[action], rfl⟩

theorem trans (hfirst : Runs setup before middle) (hsecond : Runs setup middle after) :
    Runs setup before after := by
  obtain ⟨earlier, rfl⟩ := hfirst
  obtain ⟨later, rfl⟩ := hsecond
  exact ⟨earlier ++ later, List.foldl_append⟩

theorem flush : Runs setup service (service.flush setup) := by
  have hsteps : ∀ count {service : Service σ},
      Runs setup service (service.updateSteps setup count) := by
    intro count
    induction count with
    | zero => exact refl
    | succ count ih => exact (act .takeUpdate).trans ih
  exact hsteps _

theorem stopUpdates : Runs setup service (service.stopUpdates setup) :=
  flush.trans (act .dropUpdates)

theorem signalStep : Runs setup service (service.signalStep setup) := by
  rw [Service.signalStep]
  split
  · next count hsignals =>
    have htaken : service.takeSignal = { service with signals := some count } := by
      rw [takeSignal, hsignals]
      rfl
    rw [← htaken]
    exact (act .takeSignal).trans (act .cycle)
  · exact refl

theorem handleSignals : Runs setup service (service.handleSignals setup) := by
  have hsteps : ∀ count {service : Service σ},
      Runs setup service (service.signalSteps setup count) := by
    intro count
    induction count with
    | zero => exact refl
    | succ count ih => exact signalStep.trans ih
  exact hsteps _

theorem stopKiller : Runs setup service (service.stopKiller setup) :=
  handleSignals.trans (act .dropSignals)

theorem shutdown : Runs setup service (service.shutdown setup) :=
  stopKiller.trans stopUpdates

end Runs

end Service

namespace Watch

open Service

variable {σ : Type} {setup : Setup σ}

theorem read_runs (monitor : Monitor) (watch : Watch σ) :
    Runs setup watch.service (watch.read setup monitor).service := by
  have hchecked : Runs setup watch.service
      (watch.service.pressure? setup monitor.path monitor.threshold).2 :=
    .act (.checkPressure monitor.path monitor.threshold)
  rw [Watch.read]
  split
  · next heq =>
    rw [heq] at hchecked
    simp only
    split
    · exact hchecked.trans (.trans (.act .signal) .handleSignals)
    · exact hchecked.trans .handleSignals
  · next heq =>
    rw [heq] at hchecked
    exact hchecked

theorem startMonitor_runs (path : Path) (threshold : Float) (interval : Nat) (relays : Bool)
    (watch : Watch σ) :
    Runs setup watch.service
      (watch.startMonitor setup path threshold interval relays).service := by
  let settled := watch.settle setup
  let period := max interval 1
  let monitor : Monitor :=
    { path, threshold, interval := period, relays, due := settled.service.uptime + period }
  have hsettled : Runs setup watch.service settled.service := .flush
  exact hsettled.trans (read_runs monitor { settled with monitor := some monitor })

theorem ring_runs (watch : Watch σ) (alarm : Nat × Alarm) :
    Runs setup watch.service (watch.ring setup alarm).service := by
  have hwaited : Runs setup watch.service { watch.service with uptime := alarm.1 } :=
    .act (.setUptime alarm.1)
  rw [Watch.ring]
  simp only
  split
  · exact hwaited.trans (.trans (.act (.fireTimer _)) .flush)
  · split
    · exact hwaited
    · next monitor _ =>
      let rung : Watch σ :=
        { watch with
          service := { watch.service with uptime := alarm.1 }
          monitor := some { monitor with due := monitor.due + monitor.interval } }
      exact hwaited.trans (read_runs monitor rung)

/-- The passing of time makes a service take actions and nothing else. -/
theorem sleep_runs (duration : Nat) (watch : Watch σ) :
    Runs setup watch.service (watch.sleep setup duration).service := by
  have hrings : ∀ (alarms : List (Nat × Alarm)) (watch : Watch σ),
      Runs setup watch.service (alarms.foldl (ring setup) watch).service := by
    intro alarms
    induction alarms with
    | nil => exact fun _ => .refl
    | cons alarm later ih => exact fun watch => (ring_runs watch alarm).trans (ih _)
  have hsettled : Runs setup watch.service (watch.settle setup).service := .flush
  exact hsettled.trans ((hrings _ _).trans (.act (.setUptime _)))

end Watch

namespace Service

variable {σ : Type} {setup : Setup σ}

/-- However a service is used, its table is up to date as of its last use. -/
theorem run_timely {host : σ} (hsteady : setup.host.Steady host) (actions : List Action) :
    ((start host).run setup actions).Timely setup :=
  (run_advances actions).timely (start_timely hsteady)

end Service

end MemoryReclaim
