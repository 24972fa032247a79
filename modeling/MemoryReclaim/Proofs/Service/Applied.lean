import MemoryReclaim.Proofs.Service.Action

/-!
# The events that actions apply

An action does at most one of four things to the table: it applies one event, ends grace
windows that have passed, sets the state of a bundle, or kills.  `applied?` names the event
of the first kind, whether it comes straight from a call or out of the queue; every action
that has none and does nothing of the rest is quiet.
-/

namespace MemoryReclaim.Service

variable {σ : Type} {setup : Setup σ} {service : Service σ}

/-- The event that a synchronous update makes; an update may be refused. -/
def syncEvent? (setup : Setup σ) (request : UpdateRequest) : Option ResolvedRequest :=
  match setup.directory.resolve request.target with
  | .error _ => none
  | .ok target => some (setup.directory.requestAbout request target)

/-- The event that an update from the queue makes. -/
def queuedEvent (setup : Setup σ) (request : UpdateRequest) : ResolvedRequest :=
  setup.directory.requestAbout request (setup.directory.resolveOrPlaceholder request.target)

/-- The update that the worker takes next. -/
def nextUpdate? (service : Service σ) : Option UpdateRequest :=
  service.updates.bind fun queue => queue.pending.head?

/-- The event that an action applies to the table, if it applies one. -/
def applied? (setup : Setup σ) (service : Service σ) : Action → Option ResolvedRequest
  | .update request => syncEvent? setup request
  | .perform request => some request
  | .notifyState caller info =>
      if caller = setup.config.foundation then info.request?.bind (syncEvent? setup) else none
  | .takeUpdate => service.nextUpdate?.map (queuedEvent setup)
  | _ => none

/-- The events that a run applies, in order. -/
def events (setup : Setup σ) : List Action → Service σ → List ResolvedRequest
  | [], _ => []
  | action :: later, service =>
      (service.applied? setup action).toList ++ events setup later (service.act setup action)

/-- Whether an action uses the table in another way than by an event. -/
def Action.readsOrKills : Action → Bool
  | .read | .setBundleState _ _ | .cycle | .killOne _ => true
  | _ => false

/-! ## What an event does -/

/-- The effect of one event on a service, whose queue may change at the same time. -/
structure Applies (setup : Setup σ) (request : ResolvedRequest) (before after : Service σ) :
    Prop where
  table_eq : after.table =
    (before.table.apply setup.rules (before.clock setup).1 request).2
  selectedKeys_eq : after.selectedKeys = before.selectedKeys

theorem perform_applies (request : ResolvedRequest) :
    Applies setup request service (service.perform setup request) := by
  have htold : Quiet setup _ (service.perform setup request) := Quiet.notifyChange _
  exact ⟨htold.table_eq, htold.selectedKeys_eq⟩

theorem updateNow_eq (setup : Setup σ) (request : UpdateRequest) (service : Service σ) :
    (service.updateNow setup request).2 =
      match syncEvent? setup request with
      | some event => service.perform setup event
      | none => service := by
  rw [updateNow, syncEvent?]
  cases setup.directory.resolve request.target <;> rfl

theorem updateNow_quiet {request : UpdateRequest} (hnone : syncEvent? setup request = none) :
    Quiet setup service (service.updateNow setup request).2 := by
  rw [updateNow_eq, hnone]
  exact .refl

theorem reserve_eq {α : Type} (caller expected : Uid)
    (call : Service σ → Except Fault α × Service σ) (service : Service σ) :
    service.reserve caller expected call =
      if caller = expected then call service
      else (.error (.permissionDenied caller), service) := by
  rw [reserve, checkCaller]
  by_cases hcaller : caller = expected
  · rw [if_pos hcaller, if_pos hcaller]
  · rw [if_neg hcaller, if_neg hcaller]

theorem notifyStateNow_eq (setup : Setup σ) (caller : Uid) (info : ProcessStateInfo)
    (service : Service σ) :
    (service.notifyStateNow setup caller info).2 =
      if caller = setup.config.foundation then
        match info.request? with
        | some request => (service.updateNow setup request).2
        | none => service
      else service := by
  rw [notifyStateNow, reserve_eq]
  split
  · rw [withRequest]
    cases info.request? <;> rfl
  · rfl

theorem updateStep_eq (setup : Setup σ) (service : Service σ) :
    service.updateStep setup =
      match service.updates with
      | some ⟨request :: pending, timers⟩ =>
          let added := timersAfter setup.config.graceWindow service.uptime request
          { service with updates := some ⟨pending, timers ++ added⟩ }.perform setup
            (queuedEvent setup request)
      | _ => service := rfl

/-- An action that applies an event performs it; what else it does is to take an update from
the queue. -/
theorem act_eq_perform {action : Action} {request : ResolvedRequest}
    (happlied : service.applied? setup action = some request) :
    ∃ updates, service.act setup action = { service with updates }.perform setup request := by
  have hupdated : ∀ {update : UpdateRequest}, syncEvent? setup update = some request →
      ∃ updates, (service.updateNow setup update).2 =
        { service with updates }.perform setup request := by
    intro update hevent
    rw [updateNow_eq, hevent]
    exact ⟨service.updates, rfl⟩
  cases action with
  | update update => exact hupdated happlied
  | perform event =>
      rw [← Option.some.inj happlied]
      exact ⟨service.updates, rfl⟩
  | notifyState caller info =>
      rw [applied?] at happlied
      rw [act, notifyStateNow_eq]
      split at happlied
      · next hcaller =>
        obtain ⟨update, hupdate, hevent⟩ := Option.bind_eq_some_iff.1 happlied
        rw [if_pos hcaller, hupdate]
        exact hupdated hevent
      · cases happlied
  | takeUpdate =>
      rw [applied?, nextUpdate?] at happlied
      rw [act, updateStep_eq]
      obtain ⟨update, hnext, rfl⟩ := Option.map_eq_some_iff.1 happlied
      obtain ⟨⟨pending, timers⟩, hqueue, hhead⟩ := Option.bind_eq_some_iff.1 hnext
      cases pending with
      | nil => cases hhead
      | cons first later =>
          rw [hqueue, ← Option.some.inj hhead]
          exact ⟨_, rfl⟩
  | _ => cases happlied

theorem act_applies {action : Action} {request : ResolvedRequest}
    (happlied : service.applied? setup action = some request) :
    Applies setup request service (service.act setup action) := by
  obtain ⟨updates, hact⟩ := act_eq_perform happlied
  have hperformed : Applies setup request { service with updates }
      (service.act setup action) := hact ▸ perform_applies request
  exact ⟨hperformed.table_eq, hperformed.selectedKeys_eq⟩

/-- An action that applies no event is quiet, unless it is one of the others that use the
table. -/
theorem act_quiet {action : Action} (hnone : service.applied? setup action = none)
    (hother : action.readsOrKills = false) : Quiet setup service (service.act setup action) := by
  cases action with
  | update request => exact updateNow_quiet hnone
  | perform request => cases hnone
  | notifyState caller info =>
      rw [applied?] at hnone
      rw [act, notifyStateNow_eq]
      split
      · next hcaller =>
        rw [if_pos hcaller] at hnone
        cases hrequest : info.request? with
        | none => exact .refl
        | some request =>
            rw [hrequest] at hnone
            exact updateNow_quiet hnone
      · exact .refl
  | takeUpdate =>
      rw [applied?, nextUpdate?] at hnone
      rw [act, updateStep_eq]
      split
      · next hqueue =>
        rw [hqueue] at hnone
        cases hnone
      · exact .refl
  | post request => exact .post request
  | postState caller info => exact .reserve (.withRequest Quiet.post info) _ _
  | notifyWindows caller windows => exact .reserve (.reportWindows windows) _ _
  | notifyLifecycle request => exact .notifyLifecycle request
  | notifyDevice pid uid name connected => exact .post _
  | startUpdates hasRuntime => exact .startUpdates hasRuntime
  | fireTimer timer => exact .fireTimer timer
  | startKiller hasRuntime => exact .startKiller hasRuntime
  | signal => exact .signalPressure
  | checkPressure path threshold => exact .pressure? path threshold
  | readPriority caller pid => exact .reserve (.readPriority pid) _ _
  | readAvailable => exact .measure
  | readTotal => exact .use (.total _)
  | subscribe name => exact .subscribe name
  | unsubscribe name => exact .unsubscribe name
  | dropUpdates | setUptime uptime | takeSignal | dropSignals => exact .of_eq rfl rfl rfl
  | read | setBundleState key state | cycle | killOne floor => cases hother

/-! ## What is kept from one event to the next -/

/-- A property that is kept by all that a service does, apart from events. -/
structure KeptBetweenEvents (setup : Setup σ) (motive : Service σ → Prop) : Prop where
  quiet : ∀ {before after}, Quiet setup before after → motive before → motive after
  refreshed : ∀ {service}, motive service → motive (service.refreshed setup)
  killBundle : ∀ {service} bundle, motive service → motive (service.killBundle setup bundle).2
  setState : ∀ {service} key state, motive service → motive (service.setBundleState key state).2

namespace KeptBetweenEvents

variable {motive : Service σ → Prop} {before after : Service σ}

theorem killOne (hkept : KeptBetweenEvents setup motive) (floor : Priority)
    (hservice : motive service) : motive (service.killOne setup floor).2 := by
  have hready : motive (service.atChoice setup) :=
    hkept.quiet .clock (hkept.refreshed hservice)
  rw [killOne_eq]
  cases service.choice? setup floor with
  | none => exact hready
  | some bundle => exact hkept.killBundle bundle hready

theorem killSteps (hkept : KeptBetweenEvents setup motive) (hsteps : KillSteps setup before after)
    (hbefore : motive before) : motive after := by
  induction hsteps with
  | refl => exact hbefore
  | tail _ hstep ih =>
      cases hstep with
      | quiet hquiet => exact hkept.quiet hquiet ih
      | kill floor service => exact hkept.killOne floor ih

theorem act (hkept : KeptBetweenEvents setup motive) {action : Action}
    (hnone : service.applied? setup action = none) (hservice : motive service) :
    motive (service.act setup action) := by
  cases hother : action.readsOrKills with
  | false => exact hkept.quiet (act_quiet hnone hother) hservice
  | true =>
      cases action with
      | read => exact hkept.refreshed hservice
      | setBundleState key state => exact hkept.setState key state hservice
      | cycle => exact hkept.killSteps killCycle_steps hservice
      | killOne floor => exact hkept.killOne floor hservice
      | _ => cases hother

end KeptBetweenEvents

/-! ## What every run keeps -/

/-- The table of a service has a history. -/
theorem run_table (setup : Setup σ) (host : σ) (actions : List Action) :
    ∃ history, ((start host).run setup actions).table = Table.empty.run setup.rules history :=
  (run_advances actions).table_run

theorem run_table_consistent (setup : Setup σ) (host : σ) (actions : List Action) :
    ((start host).run setup actions).table.Consistent := by
  obtain ⟨history, htable⟩ := run_table setup host actions
  rw [htable]
  exact Table.run_consistent setup.rules history

theorem run_table_paired (setup : Setup σ) (host : σ) (actions : List Action) :
    ((start host).run setup actions).table.Paired := by
  obtain ⟨history, htable⟩ := run_table setup host actions
  rw [htable]
  exact Table.run_paired setup.rules history

end MemoryReclaim.Service
