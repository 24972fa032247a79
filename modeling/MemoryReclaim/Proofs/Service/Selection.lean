import MemoryReclaim.Host.Scripted
import MemoryReclaim.Proofs.Service.Applied
import MemoryReclaim.Proofs.Table.Arrivals

/-!
# Selections in turn

The killer selects a bundle and from then on passes it over, until a process arrives under
its key.  A trace lists both, selections and arrivals, as they occur in a run.  What a run
keeps is stated of its trace: no bundle is selected while it waits, and the table holds no
active bundle under a key that waits.
-/

namespace MemoryReclaim

inductive Occurrence
  | selected (key : BundleKey)
  | arrived (identity : ResolvedIdentity)
  deriving DecidableEq

namespace Occurrence

def selected? : Occurrence → Option BundleKey
  | selected key => some key
  | arrived _ => none

/-- Whether the bundle under `key` waits for an arrival, from whether it did before. -/
def waits (key : BundleKey) (before : Bool) : Occurrence → Bool
  | selected chosen => before || chosen = key
  | arrived identity => before && identity.key ≠ key

/-- Whether the bundle under `key` was selected and has had no arrival since. -/
def waiting (key : BundleKey) (trace : List Occurrence) : Bool :=
  trace.foldl (waits key) false

theorem waiting_selected (key chosen : BundleKey) (trace : List Occurrence) :
    waiting key (trace ++ [selected chosen]) = (waiting key trace || chosen = key) := by
  rw [waiting, List.foldl_append]
  rfl

theorem foldl_waits_arrived (key : BundleKey) (before : Bool) (arrivals : List ResolvedIdentity) :
    (arrivals.map arrived).foldl (waits key) before =
      (before && arrivals.all fun identity => identity.key ≠ key) := by
  induction arrivals generalizing before with
  | nil => simp
  | cons identity later ih =>
      rw [List.map_cons, List.foldl_cons, ih, waits, List.all_cons, Bool.and_assoc]

theorem waiting_arrived (key : BundleKey) (trace : List Occurrence)
    (arrivals : List ResolvedIdentity) :
    waiting key (trace ++ arrivals.map arrived) =
      (waiting key trace && arrivals.all fun identity => identity.key ≠ key) := by
  rw [waiting, List.foldl_append, foldl_waits_arrived]
  rfl

/-- A bundle that waits goes on waiting as long as no process arrives under its key. -/
theorem waits_of_no_arrival {key : BundleKey} {between : List Occurrence}
    (hnone : ∀ identity, arrived identity ∈ between → identity.key ≠ key) :
    between.foldl (waits key) true = true := by
  induction between with
  | nil => rfl
  | cons occurrence later ih =>
      have hlater := ih fun identity hmem => hnone identity (List.mem_cons_of_mem _ hmem)
      cases occurrence with
      | selected chosen => exact hlater
      | arrived identity =>
          have hother := hnone identity List.mem_cons_self
          rw [List.foldl_cons, waits, Bool.true_and, decide_eq_true hother]
          exact hlater

/-- Each bundle is selected only when it does not wait. -/
def InTurn (trace : List Occurrence) : Prop :=
  ∀ ⦃earlier key later⦄, trace = earlier ++ selected key :: later → waiting key earlier = false

namespace InTurn

variable {trace : List Occurrence}

theorem append {added : Occurrence} (hinTurn : InTurn trace)
    (hadded : ∀ key, added = selected key → waiting key trace = false) :
    InTurn (trace ++ [added]) := by
  intro earlier key later hsplit
  -- The selection in question is the one that is added, or one before it.
  rcases List.eq_nil_or_concat later with rfl | ⟨rest, last, rfl⟩
  · obtain ⟨rfl, hlast⟩ := List.append_inj' hsplit rfl
    exact hadded key (List.head_eq_of_cons_eq hlast)
  · rw [List.concat_eq_append, ← List.cons_append, ← List.append_assoc] at hsplit
    exact hinTurn (List.append_inj' hsplit rfl).1

theorem append_arrived (hinTurn : InTurn trace) (arrivals : List ResolvedIdentity) :
    InTurn (trace ++ arrivals.map arrived) := by
  induction arrivals generalizing trace with
  | nil => rwa [List.map_nil, List.append_nil]
  | cons identity later ih =>
      rw [List.map_cons, ← List.singleton_append, ← List.append_assoc]
      exact ih (hinTurn.append fun _ hselected => by cases hselected)

/-- Between two selections of one bundle a process arrived under its key. -/
theorem arrival_between (hinTurn : InTurn trace) {key : BundleKey}
    {earlier between later : List Occurrence}
    (hsplit : trace = earlier ++ selected key :: (between ++ selected key :: later)) :
    ∃ identity, arrived identity ∈ between ∧ identity.key = key := by
  by_contra hnone
  push Not at hnone
  have hagain : waiting key (earlier ++ [selected key] ++ between) = false := by
    apply @hinTurn _ key later
    rw [hsplit]
    simp
  rw [waiting, List.foldl_append, ← waiting, waiting_selected, decide_eq_true rfl,
    Bool.or_true, waits_of_no_arrival hnone] at hagain
  cases hagain

end InTurn

end Occurrence

namespace Service

open Occurrence

variable {σ : Type} {setup : Setup σ} {service before middle after : Service σ}

/-- The processes that an action makes the service track under a key of theirs. -/
def arrivals (setup : Setup σ) (service : Service σ) (action : Action) : List ResolvedIdentity :=
  match service.applied? setup action with
  | none => []
  | some request => service.table.arrivals setup.rules (service.clock setup).1 request.ensured

/-- The bundles that an action selects. -/
def selections (setup : Setup σ) (service : Service σ) (action : Action) : List BundleKey :=
  (service.act setup action).selectedKeys.drop service.selectedKeys.length

def trace (setup : Setup σ) : List Action → Service σ → List Occurrence
  | [], _ => []
  | action :: later, service =>
      (service.arrivals setup action).map arrived ++
        (service.selections setup action).map selected ++
          trace setup later (service.act setup action)

/-- The trace lists the selections that the service made, each of them in its turn, and no
bundle that waits can be selected. -/
structure Orderly (trace : List Occurrence) (service : Service σ) : Prop where
  selected_eq : trace.filterMap selected? = service.selectedKeys
  inTurn : InTurn trace
  dormant : ∀ key, waiting key trace → service.table.Dormant key
  consistent : service.table.Consistent

theorem start_orderly (host : σ) : Orderly [] (start host) where
  selected_eq := rfl
  inTurn := by
    intro earlier key later hsplit
    simp at hsplit
  dormant key hwaiting := by cases hwaiting
  consistent := Table.empty_consistent

namespace Orderly

variable {trace : List Occurrence}

/-- Arrivals are noted when the bundles of all other keys are as they were. -/
theorem arrive (horderly : Orderly trace before) {arrivals : List ResolvedIdentity}
    (hselected : after.selectedKeys = before.selectedKeys) (hconsistent : after.table.Consistent)
    (hinherits : ∀ key, (∀ identity ∈ arrivals, identity.key ≠ key) →
      Table.Inherits key before.table after.table) :
    Orderly (trace ++ arrivals.map arrived) after where
  selected_eq := by
    have hnone : (arrivals.map arrived).filterMap selected? = [] := by
      simp [List.filterMap_map, Function.comp_def, selected?]
    rw [List.filterMap_append, hnone, List.append_nil, hselected, horderly.selected_eq]
  inTurn := horderly.inTurn.append_arrived arrivals
  dormant key hwaiting := by
    rw [waiting_arrived, Bool.and_eq_true] at hwaiting
    apply (horderly.dormant key hwaiting.1).inherits
    apply hinherits
    intro identity hidentity
    exact of_decide_eq_true (List.all_eq_true.1 hwaiting.2 identity hidentity)
  consistent := hconsistent

theorem applies (horderly : Orderly trace before) {request : ResolvedRequest}
    (happlies : Applies setup request before after) :
    Orderly (trace ++ (before.table.arrivals setup.rules (before.clock setup).1
      request.ensured).map arrived) after := by
  apply horderly.arrive happlies.selectedKeys_eq
  · rw [happlies.table_eq]
    exact (Table.consistent_partsKeep setup.rules).apply horderly.consistent request
  · intro key helsewhere
    rw [happlies.table_eq]
    exact .apply helsewhere

/-- A bundle that is active does not wait, so it may be its turn. -/
theorem killBundle (horderly : Orderly trace service) {bundle : Bundle}
    (hstored : service.table.bundle? bundle.key = some bundle) (hactive : bundle.state = .active) :
    Orderly (trace ++ [selected bundle.key]) (service.killBundle setup bundle).2 where
  selected_eq := by
    rw [List.filterMap_append, horderly.selected_eq, selectedKeys_killBundle]
    rfl
  inTurn := by
    apply horderly.inTurn.append
    rintro _ ⟨⟩
    -- If the bundle waited, none under its key would be active.
    by_contra hwaiting
    have hstate := horderly.dormant bundle.key (by simpa using hwaiting) hstored
    rw [hactive] at hstate
    cases hstate
  dormant key hwaiting := by
    rw [waiting_selected, Bool.or_eq_true, decide_eq_true_eq] at hwaiting
    rw [table_killBundle]
    apply Table.setState_dormant
    exact hwaiting.symm.imp Eq.symm (horderly.dormant key)
  consistent := by
    rw [table_killBundle]
    exact horderly.consistent.setState _ _

end Orderly

/-- From one service to the other there is nothing to note but selections, and whatever
waits goes on waiting. -/
structure Selects (before after : Service σ) : Prop where
  notes : ∀ {trace}, Orderly trace before →
    ∃ keys : List BundleKey, Orderly (trace ++ keys.map selected) after
  dormant : ∀ {key}, before.table.Dormant key → after.table.Dormant key

namespace Selects

theorem of_inherits (hselected : after.selectedKeys = before.selectedKeys)
    (hconsistent : before.table.Consistent → after.table.Consistent)
    (hinherits : ∀ key, Table.Inherits key before.table after.table) : Selects before after where
  notes horderly := by
    have hnext : Orderly (_ ++ [].map arrived) after :=
      horderly.arrive hselected (hconsistent horderly.consistent) fun key _ => hinherits key
    exact ⟨[], hnext⟩
  dormant hdormant := hdormant.inherits (hinherits _)

theorem refl : Selects service service := of_inherits rfl id fun _ => .refl

theorem quiet (hquiet : Quiet setup before after) : Selects before after := by
  apply of_inherits hquiet.selectedKeys_eq
  · rw [hquiet.table_eq]
    exact id
  · rw [hquiet.table_eq]
    exact fun _ => .refl

theorem trans (hfirst : Selects before middle) (hsecond : Selects middle after) :
    Selects before after where
  notes horderly := by
    obtain ⟨earlier, hmiddle⟩ := hfirst.notes horderly
    obtain ⟨later, hafter⟩ := hsecond.notes hmiddle
    refine ⟨earlier ++ later, ?_⟩
    rwa [List.map_append, ← List.append_assoc]
  dormant hdormant := hsecond.dormant (hfirst.dormant hdormant)

theorem refreshed : Selects service (service.refreshed setup) :=
  of_inherits rfl (Table.consistent_partsKeep setup.rules).expire fun _ => .expire

theorem killOne (floor : Priority) : Selects service (service.killOne setup floor).2 := by
  have hready : Selects service (service.atChoice setup) := refreshed.trans (quiet .clock)
  rw [killOne_eq]
  cases hchoice : service.choice? setup floor with
  | none => exact hready
  | some bundle =>
      apply hready.trans
      obtain ⟨⟨key, hstored⟩, -, heligible⟩ := of_choice? hchoice
      rw [Bundle.isEligible, Bool.and_eq_true, decide_eq_true_eq, decide_eq_true_eq] at heligible
      constructor
      · intro trace horderly
        have hkey : bundle.key = key := horderly.consistent.key_eq hstored
        rw [← hkey] at hstored
        exact ⟨[bundle.key], horderly.killBundle hstored heligible.2⟩
      · intro key hdormant
        rw [table_killBundle]
        exact Table.setState_dormant (.inr hdormant)

theorem killSteps (hsteps : KillSteps setup before after) : Selects before after := by
  induction hsteps with
  | refl => exact refl
  | tail _ hstep ih =>
      apply ih.trans
      cases hstep with
      | quiet hquiet => exact quiet hquiet
      | kill floor service => exact killOne floor

/-- An action that applies no event has only selections to note. -/
theorem act {action : Action} (hnone : service.applied? setup action = none)
    (hunset : ∀ key state, action ≠ .setBundleState key state) :
    Selects service (service.act setup action) := by
  cases hother : action.readsOrKills with
  | false => exact quiet (act_quiet hnone hother)
  | true =>
      cases action with
      | read => exact refreshed
      | setBundleState key state => exact absurd rfl (hunset key state)
      | cycle => exact killSteps killCycle_steps
      | killOne floor => exact killOne floor
      | _ => cases hother

end Selects

variable {trace : List Occurrence}

theorem selections_eq (horderly : Orderly trace service) {action : Action} {keys : List BundleKey}
    (hafter : Orderly (trace ++ keys.map selected) (service.act setup action)) :
    service.selections setup action = keys := by
  have hkeys : (keys.map selected).filterMap selected? = keys := by
    simp [List.filterMap_map, Function.comp_def, selected?]
  rw [selections, ← hafter.selected_eq, List.filterMap_append, hkeys, horderly.selected_eq,
    List.drop_left]

theorem act_orderly (setup : Setup σ) (horderly : Orderly trace service) {action : Action}
    (hunset : ∀ key state, action ≠ .setBundleState key state) :
    Orderly (trace ++ ((service.arrivals setup action).map arrived ++
      (service.selections setup action).map selected)) (service.act setup action) := by
  rw [arrivals]
  cases happlied : service.applied? setup action with
  | none =>
      obtain ⟨keys, hafter⟩ := (Selects.act happlied hunset).notes horderly
      rw [selections_eq horderly hafter]
      exact hafter
  | some request =>
      have happlies := act_applies happlied
      have hselections : service.selections setup action = [] := by
        rw [selections, happlies.selectedKeys_eq, List.drop_length]
      rw [hselections, List.map_nil, List.append_nil]
      exact horderly.applies happlies

theorem run_orderly (horderly : Orderly trace service) {actions : List Action}
    (hunset : ∀ key state, .setBundleState key state ∉ actions) :
    Orderly (trace ++ service.trace setup actions) (service.run setup actions) := by
  induction actions generalizing trace service with
  | nil => rwa [Service.trace, List.append_nil]
  | cons action later ih =>
      have hnext := act_orderly setup horderly fun key state haction =>
        hunset key state (haction ▸ List.mem_cons_self)
      rw [Service.trace, ← List.append_assoc]
      exact ih hnext fun key state hmem => hunset key state (List.mem_cons_of_mem _ hmem)

/-- Only an arrival under its key ends that a bundle waits. -/
theorem act_dormant {action : Action} {key : BundleKey}
    (hunset : ∀ found state, action ≠ .setBundleState found state)
    (helsewhere : ∀ identity ∈ service.arrivals setup action, identity.key ≠ key)
    (hdormant : service.table.Dormant key) : (service.act setup action).table.Dormant key := by
  rw [arrivals] at helsewhere
  cases happlied : service.applied? setup action with
  | none => exact (Selects.act happlied hunset).dormant hdormant
  | some request =>
      rw [happlied] at helsewhere
      rw [(act_applies happlied).table_eq]
      exact hdormant.inherits (.apply helsewhere)

/-- However events and kills are interleaved, between two selections of one bundle a
process arrives under its key that was not tracked there; and no action without such an
arrival makes an active bundle out of one that waits. -/
theorem selected_again_after_arrival (setup : Setup σ) (host : σ) (actions : List Action)
    (hunset : ∀ key state, .setBundleState key state ∉ actions) :
    let trace := (start host).trace setup actions
    trace.filterMap selected? = ((start host).run setup actions).selectedKeys ∧
    (∀ key earlier between later,
      trace = earlier ++ selected key :: (between ++ selected key :: later) →
        ∃ identity, arrived identity ∈ between ∧ identity.key = key) ∧
    ∀ earlier action later, actions = earlier ++ action :: later →
      let service := (start host).run setup earlier
      ∀ key, (∀ identity ∈ service.arrivals setup action, identity.key ≠ key) →
        service.table.Dormant key → (service.act setup action).table.Dormant key := by
  intro trace
  have horderly : Orderly trace ((start host).run setup actions) :=
    run_orderly (start_orderly host) hunset
  refine ⟨horderly.selected_eq, ?_, ?_⟩
  · intro key earlier between later hsplit
    exact horderly.inTurn.arrival_between hsplit
  · intro earlier action later hsplit service key helsewhere hdormant
    apply act_dormant _ helsewhere hdormant
    rintro found state rfl
    apply hunset found state
    rw [hsplit]
    exact List.mem_append_right _ List.mem_cons_self

/-- A browser is selected and not again, until a second process of it starts: the trace
has an arrival between the two selections. -/
theorem selected_again_after_arrival_browser :
    let host : Host Script :=
      { Script.host with
        now := fun script => (script.clock, { script with clock := script.clock + 60 }) }
    let setup : Setup Script := ⟨host, .nameless, .default, "/proc"⟩
    let first : ResolvedIdentity := ⟨1, 20010001, "browser", 100⟩
    let second : ResolvedIdentity := ⟨2, 20010001, "browser", 100⟩
    let actions : List Action :=
      [.perform ⟨none, first, .background⟩, .killOne 200, .perform ⟨none, first, .eventStart⟩,
        .killOne 200, .perform ⟨none, second, .createProcess⟩, .killOne 200]
    let trace := (start Script.start).trace setup actions
    trace = [.arrived first, .selected ⟨100, 20010001⟩, .arrived second,
      .selected ⟨100, 20010001⟩] ∧
    ∃ identity, .arrived identity ∈ [Occurrence.arrived second] ∧
      identity.key = ⟨100, 20010001⟩ := by
  intro host setup first second actions trace
  have htrace : trace = [.arrived first, .selected ⟨100, 20010001⟩, .arrived second,
      .selected ⟨100, 20010001⟩] := by decide
  have hunset : ∀ key state, .setBundleState key state ∉ actions := by simp [actions]
  have hagain := selected_again_after_arrival setup Script.start actions hunset
  exact ⟨htrace, hagain.2.1 _ [.arrived first] [.arrived second] [] htrace⟩

end Service

end MemoryReclaim
