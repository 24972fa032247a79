import MemoryReclaim.Host.Scripted
import MemoryReclaim.Proofs.Service.Twins

/-!
# Grace windows end unseen

A grace window that has passed is ended by whatever comes next: a reader, an update, or the
timeout that the worker sets.  Which of them comes first makes no difference.  Two runs
that differ by readers and timeouts only, at any points, answer every other question alike,
kill the same bundles and send the same notices.
-/

namespace MemoryReclaim.Service

variable {σ : Type} {setup : Setup σ} {service left right : Service σ}

/-! ## Runs with answers -/

/-- What can be read of the table. -/
inductive Query
  | bundles
  | killable (lowest : Priority)
  | process (pid : Pid)
  | bundle (key : BundleKey)

inductive Answer
  | bundles (found : List Bundle)
  | process (found : Option ProcessRecord)
  | bundle (found : Option Bundle)
  deriving DecidableEq

def ask (setup : Setup σ) (service : Service σ) : Query → Answer × Service σ
  | .bundles => (service.bundles setup).map .bundles id
  | .killable lowest => (service.killableBundles setup lowest).map .bundles id
  | .process pid => (service.process? setup pid).map .process id
  | .bundle key => (service.bundle? setup key).map .bundle id

inductive Call
  | act (action : Action)
  | ask (query : Query)

/-- What a call does, and what it answers if it is a question. -/
def handle (setup : Setup σ) (service : Service σ) : Call → Option Answer × Service σ
  | .act action => (none, service.act setup action)
  | .ask query => (service.ask setup query).map some id

/-- One call of a run. -/
structure Moment (σ : Type) where
  /-- The host as the call finds it; between two calls it may have moved on. -/
  host : σ
  call : Call
  /-- Whether the call is one of those by which two runs may differ. -/
  isExtra : Bool

def Moment.meet (setup : Setup σ) (moment : Moment σ) (service : Service σ) :
    Option Answer × Service σ :=
  { service with host := moment.host }.handle setup moment.call

/-- The service after a run. -/
def meetAll (setup : Setup σ) (moments : List (Moment σ)) (service : Service σ) : Service σ :=
  moments.foldl (fun service moment => (moment.meet setup service).2) service

/-- What a call answers, unless it is extra. -/
def Moment.told (setup : Setup σ) (moment : Moment σ) (service : Service σ) : List Answer :=
  if moment.isExtra then [] else (moment.meet setup service).1.toList

/-- What a run answers to the questions that are not extra. -/
def answers (setup : Setup σ) : List (Moment σ) → Service σ → List Answer
  | [], _ => []
  | moment :: later, service =>
      moment.told setup service ++ answers setup later (moment.meet setup service).2

/-- Readers, timeouts, and the worker's step that takes a timeout from its queue. -/
def isUnseen (service : Service σ) : Call → Bool
  | .ask _ | .act .read | .act (.fireTimer _) => true
  | .act (.update request) | .act (.post request) | .act (.notifyLifecycle request) =>
      request.reason = .abilityStartTimeout
  | .act (.perform request) => request.reason = .abilityStartTimeout
  | .act .takeUpdate => service.awaitsTimeout
  | .act _ => false

/-- Only calls that go unseen are extra, and a worker's step that takes a timeout is. -/
def Moment.isMarked (moment : Moment σ) (service : Service σ) : Bool :=
  match moment.isExtra, moment.call with
  | true, call => service.isUnseen call
  | false, .act .takeUpdate => !service.awaitsTimeout
  | false, _ => true

/-- The clock does not go back, and the call is marked as it should be. -/
structure Moment.InOrder (setup : Setup σ) (moment : Moment σ) (service : Service σ) : Prop where
  steady : setup.host.Steady moment.host
  follows : setup.host.Follows service.host moment.host
  marked : moment.isMarked service

/-- Every call of a run is in order when it is its turn. -/
def Admissible (setup : Setup σ) : List (Moment σ) → Service σ → Prop
  | [], _ => True
  | moment :: later, service =>
      moment.InOrder setup service ∧ Admissible setup later (moment.meet setup service).2

/-- A question ends the windows that have passed, and is answered from what is left. -/
theorem ask_service (query : Query) : (service.ask setup query).2 = service.refreshed setup := by
  cases query <;> rfl

theorem perform_of_timeout {request : ResolvedRequest}
    (hreason : request.reason = .abilityStartTimeout) :
    service.perform setup request = service.refreshed setup := by
  rw [perform_eq, Table.perform, Table.apply, hreason]
  rfl

/-! ## Services with the same facts at different times -/

/-- Two services that would be twins if they were on the same host: their tables have the
same facts as of the later of the times that are known to have passed for them. -/
structure Counterparts (setup : Setup σ) (left right : Service σ) : Prop where
  recast : ∃ host table updates, right = { left with host, table, updates }
  awaited_eq : left.awaited = right.awaited
  facts : ∃ last lastRight, left.table.Fresh setup.rules last ∧
    right.table.Fresh setup.rules lastRight ∧
    setup.host.NotBefore last left.host ∧ setup.host.NotBefore lastRight right.host ∧
    Table.SameFacts setup.rules (max last lastRight) left.table right.table

theorem Twins.counterparts (htwins : Twins setup left right) : Counterparts setup left right where
  recast := by
    obtain ⟨table, updates, hright⟩ := htwins.recast
    exact ⟨left.host, table, updates, hright⟩
  awaited_eq := htwins.awaited_eq
  facts := by
    obtain ⟨last, hleft, hright, hsame, hbound⟩ := htwins.facts
    refine ⟨last, last, hleft, hright, hbound, ?_, ?_⟩
    · rw [htwins.host_eq]
      exact hbound
    · rw [Nat.max_self]
      exact hsame

namespace Counterparts

theorem refl (htable : service.table.Fresh setup.rules 0) :
    Counterparts setup service service where
  recast := ⟨service.host, service.table, service.updates, rfl⟩
  awaited_eq := rfl
  facts := ⟨0, 0, htable, htable, Host.notBefore_zero, Host.notBefore_zero, .refl⟩

theorem symm (hpair : Counterparts setup left right) : Counterparts setup right left where
  recast := by
    obtain ⟨host, table, updates, rfl⟩ := hpair.recast
    exact ⟨left.host, left.table, left.updates, rfl⟩
  awaited_eq := hpair.awaited_eq.symm
  facts := by
    obtain ⟨last, lastRight, hleft, hright, hbound, hboundRight, hsame⟩ := hpair.facts
    rw [Nat.max_comm] at hsame
    exact ⟨lastRight, last, hright, hleft, hboundRight, hbound, hsame.symm⟩

theorem journal_eq (hpair : Counterparts setup left right) : left.journal = right.journal := by
  obtain ⟨host, table, updates, rfl⟩ := hpair.recast
  rfl

/-- On the same host counterparts are twins. -/
theorem twins (hpair : Counterparts setup left right) {host : σ}
    (hsteady : setup.host.Steady host) (hleft : setup.host.Follows left.host host)
    (hright : setup.host.Follows right.host host) :
    Twins setup { left with host } { right with host } where
  recast := by
    obtain ⟨former, table, updates, rfl⟩ := hpair.recast
    exact ⟨table, updates, rfl⟩
  awaited_eq := hpair.awaited_eq
  steady := hsteady
  facts := by
    obtain ⟨last, lastRight, hfresh, hfreshRight, hbound, hboundRight, hsame⟩ := hpair.facts
    refine ⟨max last lastRight, hfresh.wait (Nat.le_max_left _ _),
      hfreshRight.wait (Nat.le_max_right _ _), hsame, ?_⟩
    intro later hleads
    exact Nat.max_le.2 ⟨hleft last hbound later hleads, hright lastRight hboundRight later hleads⟩

/-! ## What one of them does alone -/

theorem move (hpair : Counterparts setup left right) {host : σ}
    (hfollows : setup.host.Follows left.host host) :
    Counterparts setup { left with host } right where
  recast := by
    obtain ⟨former, table, updates, rfl⟩ := hpair.recast
    exact ⟨former, table, updates, rfl⟩
  awaited_eq := hpair.awaited_eq
  facts := by
    obtain ⟨last, lastRight, hleft, hright, hbound, hboundRight, hsame⟩ := hpair.facts
    exact ⟨last, lastRight, hleft, hright, hfollows last hbound, hboundRight, hsame⟩

theorem requeue (hpair : Counterparts setup left right) {updates : Option UpdateQueue}
    (hawaited : updates.map UpdateQueue.awaited = left.awaited) :
    Counterparts setup { left with updates } right where
  recast := by
    obtain ⟨host, table, former, rfl⟩ := hpair.recast
    exact ⟨host, table, former, rfl⟩
  awaited_eq := hawaited.trans hpair.awaited_eq
  facts := hpair.facts

theorem refreshed (hpair : Counterparts setup left right)
    (hsteady : setup.host.Steady left.host) :
    Counterparts setup (left.refreshed setup) right where
  recast := by
    obtain ⟨host, table, updates, rfl⟩ := hpair.recast
    exact ⟨host, table, updates, rfl⟩
  awaited_eq := hpair.awaited_eq
  facts := by
    obtain ⟨last, lastRight, hleft, hright, hbound, hboundRight, hsame⟩ := hpair.facts
    have hle : last ≤ (left.clock setup).1 := hbound.le_now
    have hlater : max last lastRight ≤ max (left.clock setup).1 lastRight :=
      Nat.max_le.2 ⟨Nat.le_trans hle (Nat.le_max_left _ _), Nat.le_max_right _ _⟩
    have hexpired : Table.SameFacts setup.rules (max (left.clock setup).1 lastRight) left.table
        (left.table.expire setup.rules (left.clock setup).1) :=
      .expire hleft.consistent (Nat.le_max_left _ _)
    exact ⟨(left.clock setup).1, lastRight, (hleft.wait hle).perform .expire, hright,
      hsteady.notBefore_now, hboundRight, hexpired.symm.trans (hsame.mono hlater)⟩

theorem post_timeout (hpair : Counterparts setup left right) {request : UpdateRequest}
    (hreason : request.reason = .abilityStartTimeout) :
    Counterparts setup (left.post request).2 right := by
  cases hqueue : left.updates with
  | none =>
      rw [post, hqueue]
      exact hpair
  | some queue =>
      rw [post_of_running hqueue]
      apply hpair.requeue
      have hnone : [request].filter (fun request => request.reason ≠ .abilityStartTimeout) = [] :=
        List.filter_cons_of_neg (by simpa using hreason)
      rw [awaited, hqueue, Option.map_some, Option.map_some, UpdateQueue.awaited,
        List.filter_append, hnone, List.append_nil]
      rfl

theorem fireTimer (hpair : Counterparts setup left right) (timer : Timer) :
    Counterparts setup (left.fireTimer timer) right := by
  rw [Service.fireTimer]
  split
  · exact hpair
  · next queue hqueue =>
    apply post_timeout _ rfl
    apply hpair.requeue
    rw [awaited, hqueue]
    rfl

theorem updateStep (hpair : Counterparts setup left right)
    (hsteady : setup.host.Steady left.host) (hnext : left.awaitsTimeout) :
    Counterparts setup (left.updateStep setup) right := by
  rw [updateStep_eq]
  split
  · next request pending timers hqueue =>
    rw [awaitsTimeout, nextUpdate?, hqueue] at hnext
    have hreason : request.reason = .abilityStartTimeout := of_decide_eq_true hnext
    have htaken : Counterparts setup
        { left with updates := some ⟨pending, timers ++
          timersAfter setup.config.graceWindow left.uptime request⟩ } right := by
      apply hpair.requeue
      rw [awaited, hqueue]
      exact congrArg some (List.filter_cons_of_neg (by simpa using hreason)).symm
    have hevent : (queuedEvent setup request).reason = .abilityStartTimeout := hreason
    rw [perform_of_timeout hevent]
    exact htaken.refreshed hsteady
  · exact hpair

/-- Nobody sees a call that ends windows only, or has them ended. -/
theorem unseen (hpair : Counterparts setup left right) {call : Call}
    (hsteady : setup.host.Steady left.host) (hunseen : left.isUnseen call) :
    Counterparts setup (left.handle setup call).2 right := by
  cases call with
  | ask query =>
      have hafter : (left.handle setup (.ask query)).2 = left.refreshed setup :=
        ask_service query
      rw [hafter]
      exact hpair.refreshed hsteady
  | act action =>
      have hperformed : ∀ {event : ResolvedRequest}, event.reason = .abilityStartTimeout →
          Counterparts setup (left.perform setup event) right := by
        intro event hreason
        rw [perform_of_timeout hreason]
        exact hpair.refreshed hsteady
      cases action with
      | read => exact hpair.refreshed hsteady
      | fireTimer timer => exact hpair.fireTimer timer
      | takeUpdate => exact hpair.updateStep hsteady hunseen
      | perform event => exact hperformed (of_decide_eq_true hunseen)
      | post request => exact hpair.post_timeout (of_decide_eq_true hunseen)
      | update request =>
          have hreason : request.reason = .abilityStartTimeout := of_decide_eq_true hunseen
          rw [handle, Service.act, updateNow_eq, syncEvent?]
          cases setup.directory.resolve request.target with
          | error fault => exact hpair
          | ok target => exact hperformed hreason
      | notifyLifecycle request =>
          have hreason : request.reason = .abilityStartTimeout := of_decide_eq_true hunseen
          have hgoing : request.reason ≠ .processTerminated := by
            rw [hreason]
            decide
          rw [handle, Service.act, notifyLifecycle, if_neg hgoing]
          exact hpair.post_timeout hreason
      | _ => cases hunseen

end Counterparts

/-! ## What both of them do -/

theorem Twins.ask (htwins : Twins setup left right) (query : Query) :
    (right.ask setup query).1 = (left.ask setup query).1 := by
  have htable := htwins.table_refreshed
  cases query with
  | bundles => exact congrArg (fun table => Answer.bundles table.byImportance) htable
  | killable lowest => exact congrArg (fun table => Answer.bundles (table.killable lowest)) htable
  | process pid => exact congrArg (fun table => Answer.process (table.process? pid)) htable
  | bundle key => exact congrArg (fun table => Answer.bundle (table.bundle? key)) htable

theorem Twins.handle (htwins : Twins setup left right) (call : Call)
    (hleft : call = .act .takeUpdate → left.awaitsTimeout = false)
    (hright : call = .act .takeUpdate → right.awaitsTimeout = false) :
    (right.handle setup call).1 = (left.handle setup call).1 ∧
      Twins setup (left.handle setup call).2 (right.handle setup call).2 := by
  cases call with
  | act action =>
      exact ⟨rfl, htwins.act action (fun htake => hleft (congrArg Call.act htake))
        fun htake => hright (congrArg Call.act htake)⟩
  | ask query =>
      have hafter : ∀ service : Service σ,
          (service.handle setup (.ask query)).2 = service.refreshed setup :=
        fun service => ask_service query
      rw [hafter, hafter]
      exact ⟨congrArg some (htwins.ask query), htwins.refreshed⟩

theorem Moment.awaitsTimeout_of_isMarked {moment : Moment σ} (hremains : moment.isExtra = false)
    (hmarked : moment.isMarked service) (htake : moment.call = .act .takeUpdate) :
    service.awaitsTimeout = false := by
  rw [isMarked, hremains, htake] at hmarked
  simpa using hmarked

/-! ## Whole runs -/

theorem answers_append (earlier later : List (Moment σ)) (service : Service σ) :
    answers setup (earlier ++ later) service =
      answers setup earlier service ++ answers setup later (meetAll setup earlier service) := by
  induction earlier generalizing service with
  | nil => rfl
  | cons moment rest ih =>
      rw [List.cons_append, answers, answers, ih, List.append_assoc]
      rfl

theorem admissible_append (earlier later : List (Moment σ)) (service : Service σ) :
    Admissible setup (earlier ++ later) service ↔
      Admissible setup earlier service ∧
        Admissible setup later (meetAll setup earlier service) := by
  induction earlier generalizing service with
  | nil => exact (true_and _).symm.to_iff
  | cons moment rest ih =>
      rw [List.cons_append, Admissible, Admissible, ih, and_assoc]
      rfl

namespace Counterparts

/-- A stretch of extra calls answers nothing and makes no difference. -/
theorem extras (hpair : Counterparts setup left right) {moments : List (Moment σ)}
    (hextra : ∀ moment ∈ moments, moment.isExtra) (hadmissible : Admissible setup moments left) :
    answers setup moments left = [] ∧
      Counterparts setup (meetAll setup moments left) right := by
  induction moments generalizing left with
  | nil => exact ⟨rfl, hpair⟩
  | cons moment later ih =>
      obtain ⟨horder, hlater⟩ := hadmissible
      have hthis : moment.isExtra := hextra moment List.mem_cons_self
      have hmarked := horder.marked
      rw [Moment.isMarked, hthis] at hmarked
      have hafter : Counterparts setup (moment.meet setup left).2 right :=
        (hpair.move horder.follows).unseen horder.steady hmarked
      obtain ⟨hnone, hend⟩ :=
        ih hafter (fun other hother => hextra other (List.mem_cons_of_mem _ hother)) hlater
      refine ⟨?_, hend⟩
      rw [answers, Moment.told, if_pos hthis, hnone, List.append_nil]

/-- A call that both have to answer finds them twins. -/
theorem remaining (hpair : Counterparts setup left right) {moment : Moment σ}
    (hremains : moment.isExtra = false) (horder : moment.InOrder setup left)
    (horderRight : moment.InOrder setup right) :
    moment.told setup left = moment.told setup right ∧
      Counterparts setup (moment.meet setup left).2 (moment.meet setup right).2 := by
  have htwins := hpair.twins horder.steady horder.follows horderRight.follows
  obtain ⟨hanswer, hmet⟩ := htwins.handle moment.call
    (fun htake => Moment.awaitsTimeout_of_isMarked hremains horder.marked htake)
    (fun htake => Moment.awaitsTimeout_of_isMarked hremains horderRight.marked htake)
  rw [Moment.told, Moment.told, Moment.meet, Moment.meet, hanswer]
  exact ⟨rfl, hmet.counterparts⟩

/-- Runs that have the same calls left when the extra ones are struck out. -/
theorem meetAll (hpair : Counterparts setup left right) {common moments others : List (Moment σ)}
    (hmoments : moments.filter (fun moment => !moment.isExtra) = common)
    (hothers : others.filter (fun moment => !moment.isExtra) = common)
    (hleft : Admissible setup moments left) (hright : Admissible setup others right) :
    answers setup moments left = answers setup others right ∧
      Counterparts setup (Service.meetAll setup moments left)
        (Service.meetAll setup others right) := by
  -- The induction is on the calls that both runs have; between two of them each run has
  -- its own extra calls.
  have hstretch : ∀ {stretch : List (Moment σ)}, (∀ moment ∈ stretch, ¬(!moment.isExtra) = true) →
      ∀ moment ∈ stretch, moment.isExtra := by
    intro stretch hstretch moment hmem
    simpa using hstretch moment hmem
  induction common generalizing left right moments others with
  | nil =>
      obtain ⟨hnone, hpair⟩ := hpair.extras (hstretch (List.filter_eq_nil_iff.1 hmoments)) hleft
      obtain ⟨hnoneRight, hpair⟩ :=
        hpair.symm.extras (hstretch (List.filter_eq_nil_iff.1 hothers)) hright
      exact ⟨hnone.trans hnoneRight.symm, hpair.symm⟩
  | cons moment common ih =>
      obtain ⟨before, after, rfl, hbefore, hremains, hafter⟩ := List.filter_eq_cons_iff.1 hmoments
      obtain ⟨beforeRight, afterRight, rfl, hbeforeRight, -, hafterRight⟩ :=
        List.filter_eq_cons_iff.1 hothers
      rw [Bool.not_eq_true'] at hremains
      rw [admissible_append, Admissible] at hleft hright
      obtain ⟨hearlier, horder, hlater⟩ := hleft
      obtain ⟨hearlierRight, horderRight, hlaterRight⟩ := hright
      obtain ⟨hnone, hpair⟩ := hpair.extras (hstretch hbefore) hearlier
      obtain ⟨hnoneRight, hpair⟩ := hpair.symm.extras (hstretch hbeforeRight) hearlierRight
      obtain ⟨htold, hmet⟩ := hpair.symm.remaining hremains horder horderRight
      obtain ⟨hlast, hend⟩ := ih hmet hafter hafterRight hlater hlaterRight
      refine ⟨?_, ?_⟩
      · rw [answers_append, answers_append, hnone, hnoneRight, answers, answers, htold, hlast]
      · rw [Service.meetAll, Service.meetAll, List.foldl_append, List.foldl_append]
        exact hend

end Counterparts

/-- Two runs from the start that differ by readers and timeouts only, wherever these stand
and whoever notices first that a grace window has passed, answer all other questions alike
and leave the same journal: the same bundles selected and the same notices delivered, in
the same order. -/
theorem extras_leave_no_trace (setup : Setup σ) (host : σ) (moments others : List (Moment σ))
    (hmoments : Admissible setup moments (start host))
    (hothers : Admissible setup others (start host))
    (hsame : moments.filter (fun moment => !moment.isExtra) =
      others.filter fun moment => !moment.isExtra) :
    answers setup moments (start host) = answers setup others (start host) ∧
      (meetAll setup moments (start host)).journal =
        (meetAll setup others (start host)).journal := by
  have hstart : Counterparts setup (start host) (start host) :=
    .refl (Table.empty_fresh setup.rules)
  obtain ⟨hanswers, hend⟩ := hstart.meetAll hsame rfl hmoments hothers
  exact ⟨hanswers, hend.journal_eq⟩

/-- An ability started at 100: in the first run the worker's timer ends its window at 111
and somebody reads the list at 112; in the second nobody looks before 115. -/
theorem extras_leave_no_trace_gallery :
    let setup : Setup Script := ⟨Script.host, .nameless, .default, "/proc"⟩
    let gallery : Identity := ⟨7, 20010007, "gallery"⟩
    let moment (clock : Seconds) (call : Call) (isExtra : Bool) : Moment Script :=
      ⟨{ Script.start with clock }, call, isExtra⟩
    let started : List (Moment Script) :=
      [moment 100 (.act (.startUpdates true)) false,
        moment 100 (.act (.post (.single gallery .abilityStart))) false,
        moment 100 (.act .takeUpdate) false]
    let noticed : List (Moment Script) :=
      [moment 111 (.act (.fireTimer ⟨10000, gallery⟩)) true,
        moment 111 (.act .takeUpdate) true, moment 112 (.ask .bundles) true]
    let later : List (Moment Script) :=
      [moment 115 (.ask (.process 7)) false, moment 300 (.act (.killOne 0)) false]
    let service : Service Script := start Script.start
    answers setup (started ++ noticed ++ later) service =
        answers setup (started ++ later) service ∧
      (meetAll setup (started ++ noticed ++ later) service).journal =
        (meetAll setup (started ++ later) service).journal ∧
      (answers setup (started ++ later) service).length = 1 ∧
      (meetAll setup (started ++ later) service).selectedKeys = [⟨100, 20010007⟩] := by
  intro setup gallery moment started noticed later service
  have hstep : ∀ {state later : Script}, Script.host.Step state later →
      state.clock ≤ later.clock := by
    intro state later hstep
    cases hstep with
    | available => exact Nat.le_of_eq (Script.clock_takeReading state).symm
    | _ => exact Nat.le_refl _
  have hinOrder : ∀ (service : Service Script) (moment : Moment Script),
      service.host.clock ≤ moment.host.clock → moment.isMarked service →
      moment.InOrder setup service := by
    intro service moment hle hmarked
    exact ⟨.of_clock Script.clock (fun _ => rfl) hstep _,
      .of_clock Script.clock (fun _ => rfl) hstep hle, hmarked⟩
  have hnoticed : Admissible setup (started ++ noticed ++ later) service :=
    ⟨hinOrder _ _ (by decide) (by decide), hinOrder _ _ (by decide) (by decide),
      hinOrder _ _ (by decide) (by decide), hinOrder _ _ (by decide) (by decide),
      hinOrder _ _ (by decide) (by decide), hinOrder _ _ (by decide) (by decide),
      hinOrder _ _ (by decide) (by decide), hinOrder _ _ (by decide) (by decide), trivial⟩
  have hunnoticed : Admissible setup (started ++ later) service :=
    ⟨hinOrder _ _ (by decide) (by decide), hinOrder _ _ (by decide) (by decide),
      hinOrder _ _ (by decide) (by decide), hinOrder _ _ (by decide) (by decide),
      hinOrder _ _ (by decide) (by decide), trivial⟩
  obtain ⟨hanswers, hjournal⟩ :=
    extras_leave_no_trace setup Script.start _ _ hnoticed hunnoticed rfl
  exact ⟨hanswers, hjournal, by decide, by decide⟩

end MemoryReclaim.Service
