import MemoryReclaim.Proofs.Table.Admissions
import MemoryReclaim.Proofs.Table.Bystanders
import MemoryReclaim.Proofs.Table.Facts

/-!
# What an event leaves alone

An event is local.  It leaves every bystander alone, and so a bundle without an arrival all of
whose processes it leaves is the same as before.  Any other bundle, unless it is emptied on
the way, at most goes from waiting to active, and only when a process is new in it.
-/

namespace MemoryReclaim

/-- Two states of one bundle that differ at most in its processes and its priority, and in
its state if the bundle may be revived. -/
structure Bundle.Endures (revived : Prop) (former bundle : Bundle) : Prop where
  name_eq : bundle.name = former.name
  key_eq : bundle.key = former.key
  created_eq : bundle.created = former.created
  state : bundle.state = former.state ∨
    former.state = .waitingForKill ∧ bundle.state = .active ∧ revived

namespace Bundle.Endures

variable {revived : Prop} {former middle bundle : Bundle}

theorem refl : bundle.Endures revived bundle := ⟨rfl, rfl, rfl, .inl rfl⟩

theorem of_alike (halike : former.Alike bundle) : former.Endures revived bundle :=
  ⟨halike.name_eq, halike.key_eq, halike.created_eq, .inl halike.state_eq⟩

theorem trans (hfirst : former.Endures revived middle) (hsecond : middle.Endures revived bundle) :
    former.Endures revived bundle where
  name_eq := hsecond.name_eq.trans hfirst.name_eq
  key_eq := hsecond.key_eq.trans hfirst.key_eq
  created_eq := hsecond.created_eq.trans hfirst.created_eq
  state := by
    rcases hfirst.state with hsame | ⟨hwaited, hactive, hrevived⟩
    · rw [← hsame]
      exact hsecond.state
    · -- An active bundle stays active, for only one that waits is revived.
      rcases hsecond.state with hstays | ⟨hwaits, -, -⟩
      · exact .inr ⟨hwaited, hstays.trans hactive, hrevived⟩
      · rw [hactive] at hwaits
        cases hwaits

/-- An arrival makes its bundle active. -/
theorem revive (hrevived : revived) : bundle.Endures revived (bundle.withState .active) where
  name_eq := rfl
  key_eq := rfl
  created_eq := rfl
  state := by
    cases hstate : bundle.state with
    | active => exact .inl rfl
    | waitingForKill => exact .inr ⟨rfl, rfl, hrevived⟩

end Bundle.Endures

namespace Table

variable {rules : Rules} {now : Seconds} {table before middle after : Table}
variable {key : BundleKey} {pid : Pid} {identity : ResolvedIdentity} {request : ResolvedRequest}

/-- The table once the record of a former owner has gone, where the pid of a process is not
tracked under its key. -/
def evictions (rules : Rules) (now : Seconds) (identity : ResolvedIdentity) (table : Table) :
    List Table :=
  if table.owners.get? identity.pid = some identity.key then []
  else [table.remove rules now identity.pid]

/-- The tables in the course of an event right after a process was taken out, which is when
a bundle can be found emptied. -/
def departures (rules : Rules) (now : Seconds) (request : ResolvedRequest) (table : Table) :
    List Table :=
  match request.reason with
  | .processTerminated => [table.remove rules now request.target.pid]
  | .abilityStartTimeout => []
  | _ =>
      table.evictions rules now request.target ++
        request.binder?.toList.flatMap
          ((table.noteTarget rules now request).evictions rules now)

theorem mem_arrivals_head {later : List ResolvedIdentity}
    (huntracked : table.owners.get? identity.pid ≠ some identity.key) :
    identity ∈ table.arrivals rules now (identity :: later) := by
  rw [arrivals, if_neg huntracked]
  exact List.mem_cons_self

theorem mem_arrivals_tail {other : ResolvedIdentity} {later : List ResolvedIdentity}
    (hmem : other ∈ (table.ensure rules now identity).arrivals rules now later) :
    other ∈ table.arrivals rules now (identity :: later) := by
  rw [arrivals]
  exact List.mem_append_right _ hmem

/-! ## Bundles without arrivals -/

theorem owner_of_ensure (rules : Rules) (now : Seconds)
    (helsewhere : table.owners.get? identity.pid = some identity.key ∨ identity.key ≠ key)
    (howner : (table.ensure rules now identity).owners.get? pid = some key) :
    table.owners.get? pid = some key := by
  rw [owners_ensure] at howner
  split at howner
  · next hpid =>
    have hkey : identity.key = key := Option.some.inj howner
    rw [← hpid, ← hkey]
    exact helsewhere.resolve_right fun hother => hother hkey
  · exact howner

theorem owner_of_noteEvent
    (helsewhere : ∀ identity ∈ table.arrivals rules now (request.target :: request.binder?.toList),
      identity.key ≠ key)
    (howner : (table.noteEvent rules now request).owners.get? pid = some key) :
    table.owners.get? pid = some key := by
  obtain ⟨htarget, hlater⟩ := Inherits.of_arrivals helsewhere
  apply owner_of_ensure rules now htarget
  have hnoted : (table.noteTarget rules now request).owners =
      (table.ensure rules now request.target).owners := owners_modifyProcess _ _ _
  rw [← hnoted]
  rw [noteEvent_eq] at howner
  cases hbinder : request.binder? with
  | some binder =>
      rw [hbinder, Option.toList_some] at hlater
      rw [rebind_of_binder hbinder] at howner
      have hensured := (Dwindles.bind binder.pid request.target.pid).owner_eq howner
      apply owner_of_ensure rules now _ hensured
      rw [hnoted]
      exact (Inherits.of_arrivals hlater).1
  | none =>
      rcases rebind_of_no_binder hbinder (table.noteTarget rules now request) with
        hrebind | ⟨binder, hrebind⟩
      · rwa [hrebind] at howner
      · rw [hrebind] at howner
        exact (Dwindles.unbind binder request.target.pid).owner_eq howner

/-- Whoever is tracked under a key after an event without an arrival there was so before. -/
theorem owner_of_apply
    (helsewhere : ∀ identity ∈ table.arrivals rules now request.ensured, identity.key ≠ key)
    (howner : (table.apply rules now request).2.owners.get? pid = some key) :
    table.owners.get? pid = some key := by
  rw [apply] at howner
  split at howner
  · exact (Dwindles.remove request.target.pid).owner_eq howner
  · exact Dwindles.expire.owner_eq howner
  · next hgoing hlive =>
    rw [ResolvedRequest.ensured_of_live hgoing hlive] at helsewhere
    exact owner_of_noteEvent helsewhere (Dwindles.applyLive.owner_eq howner)

theorem bundle?_eq_of_leaves (hbefore : before.Consistent) (hafter : after.Consistent)
    (hinherits : Inherits key before after)
    (howner : ∀ pid, after.owners.get? pid = some key → before.owners.get? pid = some key)
    (hleaves : ∀ pid, before.owners.get? pid = some key → Leaves pid before after) :
    after.bundle? key = before.bundle? key := by
  have howners : ∀ pid, after.owners.get? pid = some key ↔ before.owners.get? pid = some key := by
    intro pid
    refine ⟨howner pid, fun hmember => ?_⟩
    rw [(hleaves pid hmember).owner_eq, hmember]
  cases hbundle : after.bundle? key with
  | some bundle =>
      obtain ⟨former, hformer, halike⟩ := hinherits hbundle
      rw [hformer]
      congr 1
      apply Bundle.eq_of_head (hafter.sound hbundle) (hbefore.sound hformer) halike.head_eq
      intro pid
      rw [hafter.bundle_process? hbundle, hbefore.bundle_process? hformer]
      by_cases hmember : before.owners.get? pid = some key
      · rw [if_pos hmember, if_pos ((howners pid).2 hmember), (hleaves pid hmember).process?_eq]
      · rw [if_neg hmember, if_neg (mt (howners pid).1 hmember)]
  | none =>
      cases hformer : before.bundle? key with
      | none => rfl
      | some former =>
          -- Some process of the bundle is still tracked under the key.
          obtain ⟨pid, process, hprocess⟩ := (hbefore.sound hformer).exists_process
          have hmember : before.owners.get? pid = some key :=
            hbefore.owner_iff.2 ⟨former, hformer, by rw [Bundle.contains_procs, hprocess]; rfl⟩
          obtain ⟨bundle, -, hsome, -⟩ := hafter.exists_process ((howners pid).2 hmember)
          rw [hbundle] at hsome
          cases hsome

/-! ## Bundles that are not emptied -/

/-- The bundle under `key`, if it was there, is there and has endured. -/
def Preserves (key : BundleKey) (revived : Prop) (before after : Table) : Prop :=
  ∀ ⦃former⦄, before.bundle? key = some former →
    ∃ bundle, after.bundle? key = some bundle ∧ former.Endures revived bundle

namespace Preserves

variable {revived : Prop}

theorem refl : Preserves key revived table table :=
  fun former hformer => ⟨former, hformer, .refl⟩

theorem trans (hfirst : Preserves key revived before middle)
    (hsecond : Preserves key revived middle after) : Preserves key revived before after := by
  intro former hformer
  obtain ⟨between, hbetween, hearlier⟩ := hfirst hformer
  obtain ⟨bundle, hbundle, hlater⟩ := hsecond hbetween
  exact ⟨bundle, hbundle, hearlier.trans hlater⟩

theorem of_inherits (hinherits : Inherits key before after)
    (hstands : (after.bundle? key).isSome) : Preserves key revived before after := by
  intro former hformer
  obtain ⟨bundle, hbundle⟩ := Option.isSome_iff_exists.1 hstands
  obtain ⟨inherited, hinherited, halike⟩ := hinherits hbundle
  rw [hformer] at hinherited
  rw [Option.some.inj hinherited]
  exact ⟨bundle, hbundle, .of_alike halike⟩

/-- Without a change of owners no bundle is emptied. -/
theorem of_owners (hbefore : before.Consistent) (hafter : after.Consistent)
    (hinherits : Inherits key before after) (howners : after.owners = before.owners) :
    Preserves key revived before after := by
  intro former hformer
  obtain ⟨bundle, hbundle⟩ :=
    hbefore.exists_bundle hafter (fun _ howner => by rwa [howners]) hformer
  exact of_inherits hinherits (Option.isSome_iff_exists.2 ⟨bundle, hbundle⟩) hformer

theorem track (hrevived : identity.key = key → revived) :
    Preserves key revived table (table.track rules now identity) := by
  intro former hformer
  rw [bundle?_track]
  split
  · next hkey =>
    have hhost : table.hostBundle now identity = former.withState .active := by
      rw [hostBundle, hkey, hformer]
      rfl
    refine ⟨_, rfl, ?_⟩
    rw [hhost]
    exact (Bundle.Endures.revive (hrevived hkey)).trans (.of_alike ⟨rfl, rfl, rfl, rfl⟩)
  · exact ⟨former, hformer, .refl⟩

theorem ensure
    (hstands : ∀ stage ∈ table.evictions rules now identity, (stage.bundle? key).isSome)
    (hrevived : table.owners.get? identity.pid ≠ some identity.key → identity.key = key → revived) :
    Preserves key revived table (table.ensure rules now identity) := by
  rw [ensure_eq]
  rw [evictions] at hstands
  split
  · exact refl
  · next huntracked =>
    rw [if_neg huntracked] at hstands
    exact (of_inherits (.remove identity.pid) (hstands _ List.mem_cons_self)).trans
      (track (hrevived huntracked))

theorem noteTarget (hconsistent : table.Consistent)
    (hstands : ∀ stage ∈ table.evictions rules now request.target, (stage.bundle? key).isSome)
    (hrevived : table.owners.get? request.target.pid ≠ some request.target.key →
      request.target.key = key → revived) :
    Preserves key revived table (table.noteTarget rules now request) := by
  have hensured : (table.ensure rules now request.target).Consistent :=
    (consistent_partsKeep rules).ensure hconsistent request.target
  exact (ensure hstands hrevived).trans
    (.of_owners hensured
      (hensured.modifyProcess (ProcessRecord.keepsPlace_note request.reason now))
      (.modifyProcess _ _) (owners_modifyProcess _ _ _))

theorem bind (hconsistent : table.Consistent) (binder target : Pid) :
    Preserves key revived table (table.bind binder target) := by
  apply of_owners hconsistent (hconsistent.bind binder target) (.bind binder target)
  rw [Table.bind]
  split
  · rw [owners_modifyProcess, owners_modifyProcess]
  · rfl

theorem unbind (hconsistent : table.Consistent) (binder target : Pid) :
    Preserves key revived table (table.unbind binder target) :=
  of_owners hconsistent (hconsistent.unbind binder target) (.unbind binder target)
    (by rw [Table.unbind, owners_modifyProcess, owners_modifyProcess])

theorem rebind (hconsistent : table.Consistent)
    (hstands : ∀ binder ∈ request.binder?, ∀ stage ∈ table.evictions rules now binder,
      (stage.bundle? key).isSome)
    (hrevived : ∀ binder ∈ request.binder?, table.owners.get? binder.pid ≠ some binder.key →
      binder.key = key → revived) :
    Preserves key revived table (table.rebind rules now request) := by
  cases hbinder : request.binder? with
  | some binder =>
      rw [rebind_of_binder hbinder]
      exact (ensure (hstands binder hbinder) (hrevived binder hbinder)).trans
        (bind ((consistent_partsKeep rules).ensure hconsistent binder) _ _)
  | none =>
      rcases rebind_of_no_binder hbinder table with hrebind | ⟨binder, hrebind⟩
      · rw [hrebind]
        exact refl
      · rw [hrebind]
        exact unbind hconsistent binder _

/-- Bringing priorities up to date changes neither owners nor which bundles there are. -/
theorem update (hconsistent : table.Consistent) :
    Preserves key revived (table.noteEvent rules now request)
      (table.applyLive rules now request) := by
  have hnoted : (table.noteEvent rules now request).Consistent :=
    (consistent_partsKeep rules).noteEvent hconsistent request
  have hexpired : ((table.noteEvent rules now request).expire rules now).Consistent :=
    (consistent_partsKeep rules).expire hnoted
  have hfresh : Preserves key revived (table.noteEvent rules now request)
      (((table.noteEvent rules now request).expire rules now).refresh rules now
        request.target.pid) :=
    (of_owners hnoted hexpired .expire
      ((touches_endAbilityStart rules now).owners_foldl _ _)).trans
      (of_owners hexpired hexpired.refresh (.refresh _ _) (owners_refresh rules now _ _))
  rw [Table.applyLive]
  split
  · exact hfresh.trans
      (of_owners hexpired.refresh
        (foldl_invariant (fun _ hstep => hstep.refresh) hexpired.refresh _)
        (.foldl .refresh _) ((touches_refresh rules now).owners_foldl _ _))
  · exact hfresh

theorem applyLive (hconsistent : table.Consistent)
    (htarget : ∀ stage ∈ table.evictions rules now request.target, (stage.bundle? key).isSome)
    (hbinder : ∀ binder ∈ request.binder?,
      ∀ stage ∈ (table.noteTarget rules now request).evictions rules now binder,
        (stage.bundle? key).isSome) :
    Preserves key
      (∃ identity ∈ table.arrivals rules now (request.target :: request.binder?.toList),
        identity.key = key)
      table (table.applyLive rules now request) := by
  have hnoted : (table.noteTarget rules now request).Consistent :=
    noteTarget_consistent hconsistent
  have howners : (table.noteTarget rules now request).owners =
      (table.ensure rules now request.target).owners := owners_modifyProcess _ _ _
  have hfirst : Preserves key
      (∃ identity ∈ table.arrivals rules now (request.target :: request.binder?.toList),
        identity.key = key) table (table.noteTarget rules now request) := by
    apply noteTarget hconsistent htarget
    intro huntracked hkey
    exact ⟨request.target, mem_arrivals_head huntracked, hkey⟩
  apply (hfirst.trans (rebind hnoted hbinder _)).trans (update hconsistent)
  intro binder hmem huntracked hkey
  rw [howners] at huntracked
  refine ⟨binder, mem_arrivals_tail ?_, hkey⟩
  rw [Option.mem_def.1 hmem, Option.toList_some]
  exact mem_arrivals_head huntracked

/-- An event preserves every bundle that is there after each removal. -/
theorem apply (hconsistent : table.Consistent)
    (hstands : ∀ stage ∈ table.departures rules now request, (stage.bundle? key).isSome) :
    Preserves key (∃ identity ∈ table.arrivals rules now request.ensured, identity.key = key)
      table (table.apply rules now request).2 := by
  rw [departures] at hstands
  rw [Table.apply]
  split
  · next hgone =>
    rw [hgone] at hstands
    exact of_inherits (.remove _) (hstands _ List.mem_cons_self)
  · exact of_owners hconsistent ((consistent_partsKeep rules).expire hconsistent) .expire
      ((touches_endAbilityStart rules now).owners_foldl _ _)
  · next hgoing hlive =>
    rw [ResolvedRequest.ensured_of_live hgoing hlive]
    split at hstands
    · contradiction
    · contradiction
    · apply applyLive hconsistent
      · exact fun stage hstage => hstands stage (List.mem_append_left _ hstage)
      · intro binder hbinder stage hstage
        apply hstands stage (List.mem_append_right _ _)
        exact List.mem_flatMap.2 ⟨binder, Option.mem_toList.2 hbinder, hstage⟩

end Preserves

/-- After any history, whatever its times, an event is local.  It leaves every bystander as
it was.  A bundle in which no process is new, and which keeps all of its processes as they
were, is the same as before.  A bundle that no removal empties keeps its name, its key and
its time of creation, and its state changes only from waiting to active and only when a
process is new in it.  The end of a process and the end of a grace window make no process
and no bundle. -/
theorem apply_is_local (rules : Rules) (history : History) (now : Seconds)
    (request : ResolvedRequest) :
    let before := empty.run rules history
    let after := (before.apply rules now request).2
    (∀ pid, before.Bystander rules now request pid → Leaves pid before after) ∧
    (∀ key, (∀ identity ∈ before.arrivals rules now request.ensured, identity.key ≠ key) →
      (∀ pid, before.owners.get? pid = some key → Leaves pid before after) →
      after.bundle? key = before.bundle? key) ∧
    (∀ key former, before.bundle? key = some former →
      (∀ stage ∈ before.departures rules now request, (stage.bundle? key).isSome) →
      ∃ bundle, after.bundle? key = some bundle ∧ bundle.name = former.name ∧
        bundle.uid = former.uid ∧ bundle.account = former.account ∧
        bundle.created = former.created ∧
        (bundle.state = former.state ∨
          former.state = .waitingForKill ∧ bundle.state = .active ∧
            ∃ identity ∈ before.arrivals rules now request.ensured, identity.key = key)) ∧
    (request.reason = .processTerminated ∨ request.reason = .abilityStartTimeout →
      (∀ pid process, after.process? pid = some process →
        ∃ former, before.process? pid = some former) ∧
      ∀ key bundle, after.bundle? key = some bundle →
        ∃ former, before.bundle? key = some former) := by
  intro before after
  have hconsistent : before.Consistent := run_consistent rules history
  have hpaired : before.Paired := run_paired rules history
  have hafter : after.Consistent := (consistent_partsKeep rules).apply hconsistent request
  refine ⟨fun pid hbystander => hbystander.apply hconsistent hpaired, ?_, ?_, ?_⟩
  · intro key helsewhere hleaves
    exact bundle?_eq_of_leaves hconsistent hafter (.apply helsewhere)
      (fun pid => owner_of_apply helsewhere) hleaves
  · intro key former hformer hstands
    obtain ⟨bundle, hbundle, hendures⟩ := Preserves.apply hconsistent hstands hformer
    have hkey := hendures.key_eq
    rw [Bundle.key, Bundle.key, BundleKey.mk.injEq] at hkey
    exact ⟨bundle, hbundle, hendures.name_eq, hkey.2, hkey.1, hendures.created_eq,
      hendures.state⟩
  · intro hreason
    have hensured : request.ensured = [] := by
      rcases hreason with hgone | hended
      · rw [ResolvedRequest.ensured, hgone]
      · rw [ResolvedRequest.ensured, hended]
    have helsewhere : ∀ key,
        ∀ identity ∈ before.arrivals rules now request.ensured, identity.key ≠ key := by
      intro key identity hmem
      rw [hensured] at hmem
      cases hmem
    constructor
    · intro pid process hprocess
      obtain ⟨key, bundle, howner, -, -⟩ := process?_eq_some_iff.1 hprocess
      obtain ⟨former, record, hformer, hrecord⟩ :=
        hconsistent.exists_process (owner_of_apply (helsewhere key) howner)
      exact ⟨record, hconsistent.process?_eq hformer hrecord⟩
    · intro key bundle hbundle
      obtain ⟨former, hformer, -⟩ := Inherits.apply (helsewhere key) hbundle
      exact ⟨former, hformer⟩

end Table

end MemoryReclaim
