import MemoryReclaim.Proofs.Table.Representation

/-!
# Arrivals

An event makes sure that the processes it is about are tracked, and one that was not
under its key is an arrival there.  Nothing else that an event does makes a bundle or
changes more of it than its processes and its priority: a bundle that an event leaves
behind, without an arrival under its key, was there before and stood the same.
-/

namespace MemoryReclaim

namespace ResolvedRequest

/-- The process that an event binds to its target. -/
def binder? (request : ResolvedRequest) : Option ResolvedIdentity :=
  if request.reason = .bindExtension then request.caller else none

/-- The processes that an event makes sure of, in order. -/
def ensured (request : ResolvedRequest) : List ResolvedIdentity :=
  match request.reason with
  | .processTerminated | .abilityStartTimeout => []
  | _ => request.target :: request.binder?.toList

theorem ensured_of_live {request : ResolvedRequest} (hgoing : request.reason ≠ .processTerminated)
    (hlive : request.reason ≠ .abilityStartTimeout) :
    request.ensured = request.target :: request.binder?.toList := by
  rw [ensured]
  split
  · contradiction
  · contradiction
  · rfl

end ResolvedRequest

/-- Two states of one bundle that differ at most in its processes and its priority. -/
structure Bundle.Alike (former bundle : Bundle) : Prop where
  name_eq : bundle.name = former.name
  key_eq : bundle.key = former.key
  state_eq : bundle.state = former.state
  created_eq : bundle.created = former.created

namespace Bundle.Alike

variable {former middle bundle : Bundle}

theorem refl : Alike bundle bundle := ⟨rfl, rfl, rfl, rfl⟩

theorem trans (hfirst : Alike former middle) (hsecond : Alike middle bundle) :
    Alike former bundle where
  name_eq := hsecond.name_eq.trans hfirst.name_eq
  key_eq := hsecond.key_eq.trans hfirst.key_eq
  state_eq := hsecond.state_eq.trans hfirst.state_eq
  created_eq := hsecond.created_eq.trans hfirst.created_eq

theorem removeProcess (pid : Pid) : Alike bundle (bundle.removeProcess pid) := by
  rw [Bundle.removeProcess]
  split
  · exact ⟨rfl, rfl, rfl, rfl⟩
  · exact refl

end Bundle.Alike

namespace Table

variable {rules : Rules} {now : Seconds} {key : BundleKey} {table before middle after : Table}

/-- Those of the given processes that are not tracked under their key when it is their
turn. -/
def arrivals (rules : Rules) (now : Seconds) :
    List ResolvedIdentity → Table → List ResolvedIdentity
  | [], _ => []
  | identity :: later, table =>
      (if table.owners.get? identity.pid = some identity.key then [] else [identity]) ++
        arrivals rules now later (table.ensure rules now identity)

/-- Whoever an event makes sure of is tracked under its key from then on. -/
theorem owners_ensure (identity : ResolvedIdentity) (table : Table) (pid : Pid) :
    (table.ensure rules now identity).owners.get? pid =
      if identity.pid = pid then some identity.key else table.owners.get? pid := by
  rw [ensure_eq]
  by_cases htracked : table.owners.get? identity.pid = some identity.key
  · rw [if_pos htracked]
    split
    · next hpid => rw [← hpid, htracked]
    · rfl
  · rw [if_neg htracked, owners_track, owners_remove]
    split <;> rfl

theorem rebind_of_binder {request : ResolvedRequest} {caller : ResolvedIdentity}
    (hbinder : request.binder? = some caller) (table : Table) :
    table.rebind rules now request =
      (table.ensure rules now caller).bind caller.pid request.target.pid := by
  rw [ResolvedRequest.binder?] at hbinder
  split at hbinder
  · next hreason => rw [rebind, hreason, hbinder]
  · cases hbinder

/-- Without a process that it binds, an event ends a binding at most. -/
theorem rebind_of_no_binder {request : ResolvedRequest} (hbinder : request.binder? = none)
    (table : Table) :
    table.rebind rules now request = table ∨
      ∃ binder, table.rebind rules now request = table.unbind binder request.target.pid := by
  rw [rebind]
  split
  · next hreason hcaller =>
    rw [ResolvedRequest.binder?, if_pos hreason, hcaller] at hbinder
    cases hbinder
  · exact .inr ⟨_, rfl⟩
  · exact .inl rfl

/-- The bundle under `key`, if it is there, was there before and stood the same. -/
def Inherits (key : BundleKey) (before after : Table) : Prop :=
  ∀ ⦃bundle⦄, after.bundle? key = some bundle →
    ∃ former, before.bundle? key = some former ∧ former.Alike bundle

namespace Inherits

theorem refl : Inherits key table table := fun bundle hbundle => ⟨bundle, hbundle, .refl⟩

theorem trans (hfirst : Inherits key before middle) (hsecond : Inherits key middle after) :
    Inherits key before after := by
  intro bundle hbundle
  obtain ⟨between, hbetween, hlater⟩ := hsecond hbundle
  obtain ⟨former, hformer, hearlier⟩ := hfirst hbetween
  exact ⟨former, hformer, hearlier.trans hlater⟩

theorem foldl {step : Table → Pid → Table}
    (hstep : ∀ table pid, Inherits key table (step table pid)) (pids : List Pid) :
    Inherits key table (pids.foldl step table) :=
  foldl_invariant (motive := Inherits key table)
    (fun pid htable => htable.trans (hstep _ pid)) .refl pids

/-! ## Changes within a bundle -/

theorem modifyOwner (pid : Pid) (change : Bundle → Bundle)
    (hchange : ∀ bundle : Bundle, bundle.Alike (change bundle)) :
    Inherits key table (table.modifyOwner pid change) := by
  intro bundle hbundle
  rw [bundle?_modifyOwner] at hbundle
  split at hbundle
  · obtain ⟨former, hformer, rfl⟩ := Option.map_eq_some_iff.1 hbundle
    exact ⟨former, hformer, hchange former⟩
  · exact ⟨bundle, hbundle, .refl⟩

theorem modifyProcess (pid : Pid) (change : ProcessRecord → ProcessRecord) :
    Inherits key table (table.modifyProcess pid change) :=
  modifyOwner pid _ fun _ => ⟨rfl, rfl, rfl, rfl⟩

theorem refresh (table : Table) (pid : Pid) :
    Inherits key table (table.refresh rules now pid) := by
  rw [Table.refresh]
  split
  · exact refl
  · exact modifyOwner pid _ fun _ => ⟨rfl, rfl, rfl, rfl⟩

theorem expire : Inherits key table (table.expire rules now) :=
  foldl (fun _ pid => (modifyProcess pid _).trans (refresh _ pid)) _

/-! ## Processes that come and go -/

theorem detach (owner : BundleKey) (pid : Pid) :
    Inherits key table (table.detach owner pid) := by
  intro rest hrest
  rcases Consistent.bundle?_of_detach hrest with ⟨bundle, hbundle, -, rfl, -⟩ | ⟨hbundle, -⟩
  · exact ⟨bundle, hbundle, .removeProcess pid⟩
  · exact ⟨rest, hbundle, .refl⟩

theorem remove (pid : Pid) : Inherits key table (table.remove rules now pid) := by
  rw [Table.remove]
  cases table.owners.get? pid with
  | none => exact refl
  | some owner =>
      cases table.process? pid with
      | none => exact detach owner pid
      | some process =>
          apply (detach owner pid).trans
          apply (foldl (fun _ binder => modifyProcess binder _) process.boundBy.keys).trans
          exact foldl (fun _ target => (modifyProcess target _).trans (refresh _ target)) _

variable {identity : ResolvedIdentity}

/-- A process that is tracked anew leaves the bundles of all other keys alone. -/
theorem track (hother : identity.key ≠ key) :
    Inherits key table (table.track rules now identity) := by
  intro bundle hbundle
  rw [bundle?_track, if_neg hother] at hbundle
  exact ⟨bundle, hbundle, .refl⟩

theorem ensure (hother : table.owners.get? identity.pid = some identity.key ∨ identity.key ≠ key) :
    Inherits key table (table.ensure rules now identity) := by
  rw [ensure_eq]
  split
  · exact refl
  · next huntracked => exact (remove identity.pid).trans (track (hother.resolve_left huntracked))

/-! ## Events -/

theorem bind (binder target : Pid) : Inherits key table (table.bind binder target) := by
  rw [Table.bind]
  split
  · exact (modifyProcess target _).trans (modifyProcess binder _)
  · exact refl

theorem unbind (binder target : Pid) : Inherits key table (table.unbind binder target) :=
  (modifyProcess target _).trans (modifyProcess binder _)

variable {request : ResolvedRequest}

theorem rebind (hbinder : ∀ binder ∈ request.binder?,
      table.owners.get? binder.pid = some binder.key ∨ binder.key ≠ key) :
    Inherits key table (table.rebind rules now request) := by
  rw [Table.rebind]
  split
  · next caller hreason hcaller =>
    apply trans _ (bind _ _)
    apply ensure (hbinder caller _)
    rw [ResolvedRequest.binder?, if_pos hreason, hcaller]
    rfl
  · exact unbind _ _
  · exact refl

theorem of_arrivals {identity : ResolvedIdentity} {later : List ResolvedIdentity}
    (helsewhere : ∀ other ∈ table.arrivals rules now (identity :: later), other.key ≠ key) :
    (table.owners.get? identity.pid = some identity.key ∨ identity.key ≠ key) ∧
      ∀ other ∈ (table.ensure rules now identity).arrivals rules now later, other.key ≠ key := by
  rw [arrivals] at helsewhere
  constructor
  · by_cases htracked : table.owners.get? identity.pid = some identity.key
    · exact .inl htracked
    · rw [if_neg htracked] at helsewhere
      exact .inr (helsewhere identity (List.mem_append_left _ List.mem_cons_self))
  · exact fun other hother => helsewhere other (List.mem_append_right _ hother)

theorem noteEvent
    (helsewhere : ∀ identity ∈ table.arrivals rules now (request.target :: request.binder?.toList),
      identity.key ≠ key) :
    Inherits key table (table.noteEvent rules now request) := by
  obtain ⟨htarget, hlater⟩ := of_arrivals helsewhere
  apply ((ensure htarget).trans (modifyProcess request.target.pid _)).trans
  apply rebind
  intro binder hbinder
  rw [Option.mem_def.1 hbinder] at hlater
  rw [owners_modifyProcess]
  exact (of_arrivals hlater).1

theorem applyLive
    (helsewhere : ∀ identity ∈ table.arrivals rules now (request.target :: request.binder?.toList),
      identity.key ≠ key) :
    Inherits key table (table.applyLive rules now request) := by
  have hfresh : Inherits key table (((table.noteEvent rules now request).expire rules now).refresh
      rules now request.target.pid) :=
    ((noteEvent helsewhere).trans expire).trans (refresh _ _)
  rw [Table.applyLive]
  split
  · exact hfresh.trans (foldl refresh _)
  · exact hfresh

/-- An event without an arrival under a key leaves the bundle there as it was, apart from
its processes and its priority. -/
theorem apply
    (helsewhere : ∀ identity ∈ table.arrivals rules now request.ensured, identity.key ≠ key) :
    Inherits key table (table.apply rules now request).2 := by
  rw [Table.apply]
  split
  · exact remove _
  · exact expire
  · next hgoing hlive =>
    rw [ResolvedRequest.ensured_of_live hgoing hlive] at helsewhere
    exact applyLive helsewhere

end Inherits

/-- No bundle under `key` can be selected. -/
def Dormant (key : BundleKey) (table : Table) : Prop :=
  ∀ ⦃bundle⦄, table.bundle? key = some bundle → bundle.state = .waitingForKill

theorem Dormant.inherits (hdormant : before.Dormant key) (hinherits : Inherits key before after) :
    after.Dormant key := by
  intro bundle hbundle
  obtain ⟨former, hformer, halike⟩ := hinherits hbundle
  exact halike.state_eq.trans (hdormant hformer)

/-- A bundle that is set to wait cannot be selected, nor can those that wait already. -/
theorem setState_dormant {chosen : BundleKey} (hdormant : key = chosen ∨ table.Dormant key) :
    (table.setState chosen .waitingForKill).2.Dormant key := by
  intro bundle hbundle
  rw [bundle?_setState] at hbundle
  split at hbundle
  · obtain ⟨former, -, rfl⟩ := Option.map_eq_some_iff.1 hbundle
    rfl
  · next hother => exact hdormant.resolve_left (Ne.symm hother) hbundle

end Table

end MemoryReclaim
