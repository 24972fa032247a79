import MemoryReclaim.Proofs.Table.Arrivals

/-!
# Admissions

A process that arrives under a key joins the bundle that is there or founds one.  Only a
founder names the bundle, so an admission records the arrival together with the name that
it found.  What a table owes to the admissions so far is `Accounted`: each bundle goes by
the name of a founder, and each process is in the bundle that it was last admitted to.
-/

namespace MemoryReclaim

structure Admission where
  identity : ResolvedIdentity
  /-- The name of the bundle that the process joins, unless it founds it. -/
  joined : Option String
  deriving DecidableEq

namespace Admission

variable {pid : Pid} {admission : Admission} {trace : List Admission}

def bundleName (admission : Admission) : String := admission.joined.getD admission.identity.name

/-- The last admission of a pid. -/
def last? (pid : Pid) (trace : List Admission) : Option Admission :=
  trace.reverse.find? fun admission => admission.identity.pid = pid

theorem last?_concat (pid : Pid) (trace : List Admission) (admission : Admission) :
    last? pid (trace ++ [admission]) =
      if admission.identity.pid = pid then some admission else last? pid trace := by
  rw [last?, List.reverse_append, List.reverse_singleton, List.singleton_append, List.find?_cons]
  by_cases hpid : admission.identity.pid = pid <;> simp [hpid, last?]

end Admission

namespace Table

variable {rules : Rules} {now : Seconds} {key : BundleKey} {table before middle after : Table}
variable {identity : ResolvedIdentity}

def bundleName? (key : BundleKey) (table : Table) : Option String :=
  (table.bundle? key).map Bundle.name

/-- The arrivals among the given processes, each with the name of the bundle that it joins. -/
def admissions (rules : Rules) (now : Seconds) : List ResolvedIdentity → Table → List Admission
  | [], _ => []
  | identity :: later, table =>
      (if table.owners.get? identity.pid = some identity.key then []
        else [⟨identity, table.bundleName? identity.key⟩]) ++
        admissions rules now later (table.ensure rules now identity)

theorem admissions_cons (identity : ResolvedIdentity) (later : List ResolvedIdentity)
    (table : Table) :
    table.admissions rules now (identity :: later) =
      table.admissions rules now [identity] ++
        (table.ensure rules now identity).admissions rules now later := by
  rw [admissions, admissions, admissions, List.append_nil]

/-! ## Names of bundles -/

theorem bundleName?_modifyOwner (pid : Pid) {change : Bundle → Bundle}
    (hname : ∀ bundle, (change bundle).name = bundle.name) (table : Table) :
    (table.modifyOwner pid change).bundleName? key = table.bundleName? key := by
  rw [bundleName?, bundle?_modifyOwner]
  split
  · rw [Option.map_map]
    exact congrArg (Option.map · _) (funext hname)
  · rfl

theorem bundleName?_modifyProcess (pid : Pid) (change : ProcessRecord → ProcessRecord)
    (table : Table) : (table.modifyProcess pid change).bundleName? key = table.bundleName? key := by
  apply bundleName?_modifyOwner
  exact fun _ => rfl

theorem bundleName?_refresh (pid : Pid) (table : Table) :
    (table.refresh rules now pid).bundleName? key = table.bundleName? key := by
  rw [refresh]
  split
  · rfl
  · apply bundleName?_modifyOwner
    exact fun _ => rfl

theorem bundleName?_foldl {step : Table → Pid → Table}
    (hstep : ∀ table pid, (step table pid).bundleName? key = table.bundleName? key)
    (pids : List Pid) (table : Table) :
    (pids.foldl step table).bundleName? key = table.bundleName? key :=
  foldl_invariant (motive := fun later => later.bundleName? key = table.bundleName? key)
    (fun pid hlater => (hstep _ pid).trans hlater) rfl pids

/-- A process that goes leaves the bundles of all other keys their names. -/
theorem bundleName?_remove {pid : Pid} (helsewhere : table.owners.get? pid ≠ some key) :
    (table.remove rules now pid).bundleName? key = table.bundleName? key := by
  rw [remove]
  cases howner : table.owners.get? pid with
  | none => rfl
  | some owner =>
      have hother : owner ≠ key := fun heq => helsewhere (heq ▸ howner)
      have hdetached : (table.detach owner pid).bundleName? key = table.bundleName? key := by
        rw [bundleName?, bundle?_detach, if_neg hother, bundleName?]
      cases table.process? pid with
      | none => exact hdetached
      | some process =>
          have hbinder : ∀ (table : Table) binder,
              (table.releaseBinder pid binder).bundleName? key = table.bundleName? key :=
            fun table binder => bundleName?_modifyProcess binder _ table
          have htarget : ∀ (table : Table) target,
              (table.releaseTarget rules now pid target).bundleName? key =
                table.bundleName? key := fun table target =>
            (bundleName?_refresh target _).trans (bundleName?_modifyProcess target _ table)
          exact (bundleName?_foldl htarget _ _).trans
            ((bundleName?_foldl hbinder _ _).trans hdetached)

theorem bundleName?_track (table : Table) (found : BundleKey) :
    (table.track rules now identity).bundleName? found =
      if identity.key = found then some ((table.bundleName? found).getD identity.name)
      else table.bundleName? found := by
  rw [bundleName?, bundle?_track]
  split
  · next hfound =>
    rw [bundleName?, ← hfound]
    change some (table.hostBundle now identity).name = _
    rw [hostBundle]
    cases table.bundle? identity.key <;> rfl
  · rfl

/-! ## Tables that only lose processes -/

/-- Bundles and processes may have gone from a table, and none has come. -/
structure Dwindles (before after : Table) : Prop where
  name_eq : ∀ {key name}, after.bundleName? key = some name → before.bundleName? key = some name
  owner_eq : ∀ {pid key}, after.owners.get? pid = some key → before.owners.get? pid = some key

namespace Dwindles

theorem refl : Dwindles table table := ⟨id, id⟩

theorem trans (hfirst : Dwindles before middle) (hsecond : Dwindles middle after) :
    Dwindles before after :=
  ⟨fun hname => hfirst.name_eq (hsecond.name_eq hname),
    fun howner => hfirst.owner_eq (hsecond.owner_eq howner)⟩

theorem of_inherits (hinherits : ∀ key, Inherits key before after)
    (howner : ∀ {pid key}, after.owners.get? pid = some key →
      before.owners.get? pid = some key) : Dwindles before after where
  name_eq {key name} hname := by
    obtain ⟨bundle, hbundle, rfl⟩ := Option.map_eq_some_iff.1 hname
    obtain ⟨former, hformer, halike⟩ := hinherits key hbundle
    rw [bundleName?, hformer, Option.map_some, halike.name_eq]
  owner_eq := howner

theorem of_owners (hinherits : ∀ key, Inherits key before after)
    (howners : after.owners = before.owners) : Dwindles before after :=
  of_inherits hinherits fun howner => howners ▸ howner

theorem remove (pid : Pid) : Dwindles table (table.remove rules now pid) := by
  apply of_inherits fun _ => .remove pid
  intro other key howner
  rw [owners_remove] at howner
  split at howner
  · cases howner
  · exact howner

theorem modifyProcess (pid : Pid) (change : ProcessRecord → ProcessRecord) :
    Dwindles table (table.modifyProcess pid change) :=
  of_owners (fun _ => .modifyProcess pid change) (owners_modifyProcess table pid change)

theorem refresh (pid : Pid) : Dwindles table (table.refresh rules now pid) :=
  of_owners (fun _ => .refresh table pid) (owners_refresh rules now table pid)

theorem expire : Dwindles table (table.expire rules now) :=
  of_owners (fun _ => .expire) ((touches_endAbilityStart rules now).owners_foldl _ _)

theorem refreshAll (pids : List Pid) : Dwindles table (table.refreshAll rules now pids) :=
  of_owners (fun _ => .foldl .refresh pids) ((touches_refresh rules now).owners_foldl _ _)

theorem bind (binder target : Pid) : Dwindles table (table.bind binder target) := by
  rw [Table.bind]
  split
  · exact (modifyProcess _ _).trans (modifyProcess _ _)
  · exact refl

theorem unbind (binder target : Pid) : Dwindles table (table.unbind binder target) :=
  (modifyProcess _ _).trans (modifyProcess _ _)

variable {request : ResolvedRequest}

theorem applyLive :
    Dwindles (table.noteEvent rules now request) (table.applyLive rules now request) := by
  have hfresh : Dwindles (table.noteEvent rules now request)
      (((table.noteEvent rules now request).expire rules now).refresh rules now
        request.target.pid) := expire.trans (refresh _)
  rw [Table.applyLive]
  split
  · exact hfresh.trans (refreshAll _)
  · exact hfresh

theorem setState (key : BundleKey) (state : BundleState) :
    Dwindles table (table.setState key state).2 where
  name_eq {found name} hname := by
    rw [bundleName?, bundle?_setState] at hname
    split at hname
    · rwa [Option.map_map] at hname
    · exact hname
  owner_eq := id

end Dwindles

/-! ## Tables and their admissions -/

/-- What a table owes to the admissions so far. -/
structure Accounted (trace : List Admission) (table : Table) : Prop where
  consistent : table.Consistent
  founded : ∀ {key name}, table.bundleName? key = some name →
    ∃ founder ∈ trace, founder.joined = none ∧ founder.identity.key = key ∧
      founder.identity.name = name
  admitted : ∀ {pid key}, table.owners.get? pid = some key →
    ∃ admission, Admission.last? pid trace = some admission ∧ admission.identity.key = key ∧
      table.bundleName? key = some admission.bundleName

theorem empty_accounted : Accounted [] empty where
  consistent := empty_consistent
  founded hname := by cases hname
  admitted howner := by cases howner

namespace Accounted

variable {trace : List Admission}

theorem dwindle (haccounted : Accounted trace before) (hconsistent : after.Consistent)
    (hdwindles : Dwindles before after) : Accounted trace after where
  consistent := hconsistent
  founded hname := haccounted.founded (hdwindles.name_eq hname)
  admitted {pid key} howner := by
    obtain ⟨admission, hlast, hkey, hname⟩ := haccounted.admitted (hdwindles.owner_eq howner)
    refine ⟨admission, hlast, hkey, ?_⟩
    -- The bundle is still there, for it has the process, and it has kept its name.
    obtain ⟨bundle, -, hbundle, -⟩ := hconsistent.exists_process howner
    have hafter : after.bundleName? key = some bundle.name := congrArg (Option.map _) hbundle
    have hbefore := hdwindles.name_eq hafter
    rw [hafter, ← hbefore, hname]

theorem track (haccounted : Accounted trace table)
    (huntracked : table.owners.get? identity.pid = none) :
    Accounted (trace ++ [⟨identity, table.bundleName? identity.key⟩])
      (table.track rules now identity) where
  consistent := haccounted.consistent.track huntracked
  founded {found name} hname := by
    rw [bundleName?_track] at hname
    by_cases hfound : identity.key = found
    · rw [if_pos hfound] at hname
      cases hformer : table.bundleName? found with
      | none =>
          rw [hformer] at hname
          refine ⟨_, List.mem_append_right _ List.mem_cons_self, ?_, hfound,
            Option.some.inj hname⟩
          rw [hfound, hformer]
      | some former =>
          rw [hformer] at hname
          obtain ⟨founder, hmem, hfounder⟩ := haccounted.founded hformer
          rw [Option.getD_some] at hname
          rw [Option.some.inj hname] at hfounder
          exact ⟨founder, List.mem_append_left _ hmem, hfounder⟩
    · rw [if_neg hfound] at hname
      obtain ⟨founder, hmem, hfounder⟩ := haccounted.founded hname
      exact ⟨founder, List.mem_append_left _ hmem, hfounder⟩
  admitted {pid key} howner := by
    rw [owners_track] at howner
    simp only [Admission.last?_concat, bundleName?_track]
    by_cases hpid : identity.pid = pid
    · rw [if_pos hpid] at howner
      have hkey : identity.key = key := Option.some.inj howner
      refine ⟨_, if_pos hpid, hkey, ?_⟩
      rw [if_pos hkey, ← hkey]
      rfl
    · rw [if_neg hpid] at howner
      obtain ⟨admission, hlast, hkey, hname⟩ := haccounted.admitted howner
      refine ⟨admission, (if_neg hpid).trans hlast, hkey, ?_⟩
      rw [hname]
      split <;> rfl

theorem ensure (haccounted : Accounted trace table) (identity : ResolvedIdentity) :
    Accounted (trace ++ table.admissions rules now [identity])
      (table.ensure rules now identity) := by
  rw [ensure_eq, admissions, admissions, List.append_nil]
  by_cases htracked : table.owners.get? identity.pid = some identity.key
  · rw [if_pos htracked, if_pos htracked, List.append_nil]
    exact haccounted
  · rw [if_neg htracked, if_neg htracked, ← bundleName?_remove htracked]
    apply track
    · exact haccounted.dwindle (haccounted.consistent.remove _) (.remove _)
    · rw [owners_remove, if_pos rfl]

variable {request : ResolvedRequest}

theorem rebind (haccounted : Accounted trace table) :
    Accounted (trace ++ table.admissions rules now request.binder?.toList)
      (table.rebind rules now request) := by
  cases hbinder : request.binder? with
  | some caller =>
      have hensured : Accounted _ (table.ensure rules now caller) := haccounted.ensure caller
      rw [rebind_of_binder hbinder]
      exact hensured.dwindle (hensured.consistent.bind _ _) (.bind _ _)
  | none =>
      rw [Option.toList_none, admissions, List.append_nil]
      rcases rebind_of_no_binder hbinder table with hrebind | ⟨binder, hrebind⟩
      · rwa [hrebind]
      · rw [hrebind]
        exact haccounted.dwindle (haccounted.consistent.unbind _ _) (.unbind _ _)

/-- The note in its target changes nothing that the admission of the binder looks at. -/
theorem admissions_note (pid : Pid) (change : ProcessRecord → ProcessRecord)
    (binder : Option ResolvedIdentity) (table : Table) :
    (table.modifyProcess pid change).admissions rules now binder.toList =
      table.admissions rules now binder.toList := by
  cases binder with
  | none => rfl
  | some caller =>
      rw [Option.toList_some, admissions, admissions, admissions, admissions,
        owners_modifyProcess, bundleName?_modifyProcess]

theorem applyLive (haccounted : Accounted trace table) (request : ResolvedRequest) :
    Accounted (trace ++ table.admissions rules now (request.target :: request.binder?.toList))
      (table.applyLive rules now request) := by
  have hensured : Accounted _ (table.ensure rules now request.target) :=
    haccounted.ensure request.target
  have hnoted := hensured.dwindle
    (hensured.consistent.modifyProcess (ProcessRecord.keepsPlace_note request.reason now))
    (.modifyProcess request.target.pid _)
  have hevent : Accounted _ (table.noteEvent rules now request) := hnoted.rebind
  rw [admissions_note, List.append_assoc, ← admissions_cons] at hevent
  exact hevent.dwindle ((consistent_partsKeep rules).applyLive haccounted.consistent request)
    .applyLive

/-- An event admits those of its processes that arrive with it. -/
theorem apply (haccounted : Accounted trace table) (request : ResolvedRequest) :
    Accounted (trace ++ table.admissions rules now request.ensured)
      (table.apply rules now request).2 := by
  rw [Table.apply]
  split
  · next hgone =>
    rw [ResolvedRequest.ensured, hgone, admissions, List.append_nil]
    exact haccounted.dwindle (haccounted.consistent.remove _) (.remove _)
  · next hended =>
    rw [ResolvedRequest.ensured, hended, admissions, List.append_nil]
    exact haccounted.dwindle ((consistent_partsKeep rules).expire haccounted.consistent) .expire
  · next hgoing hlive =>
    rw [ResolvedRequest.ensured_of_live hgoing hlive]
    exact haccounted.applyLive request

end Accounted

end Table

end MemoryReclaim
