import MemoryReclaim.Proofs.Table.Arrivals

/-!
# Who is visible

Only three kinds of events change who is visible under which pid: the two that say so, and
the end of a process.  Any other event leaves all of it alone, unless it takes the pid of a
visible process for another identity; `Spares` rules that out.
-/

namespace MemoryReclaim

/-- Who is visible after an event about `pid`, from who was before. -/
def Reason.seenAfter (reason : Reason) (pid : Pid) (seen : Pid → Bool) : Pid → Bool :=
  match reason with
  | .visible => fun other => if pid = other then true else seen other
  | .invisible | .processTerminated => fun other => if pid = other then false else seen other
  | _ => seen

theorem Reason.seenAfter_eq_self {reason : Reason} (hvisible : reason ≠ .visible)
    (hinvisible : reason ≠ .invisible) (hgoing : reason ≠ .processTerminated) (pid : Pid)
    (seen : Pid → Bool) : reason.seenAfter pid seen = seen := by
  cases reason <;> first | rfl | contradiction

theorem ProcessRecord.isVisible_note {reason : Reason} (hvisible : reason ≠ .visible)
    (hinvisible : reason ≠ .invisible) (now : Seconds) (process : ProcessRecord) :
    (process.note reason now).isVisible = process.isVisible := by
  cases reason <;> first | rfl | contradiction

theorem ProcessRecord.isVisible_partedFrom (rules : Rules) (now : Seconds) (view : Pid → Bool)
    (gone peer : ProcessRecord) (pid other : Pid) :
    (gone.partedFrom rules now view pid other peer).isVisible = peer.isVisible := by
  simp only [partedFrom]
  split <;> split <;> rfl

namespace Table

variable {rules : Rules} {now : Seconds} {table after : Table} {pid other : Pid}

/-- Whether a process is tracked under `pid` and visible. -/
def seen (table : Table) (pid : Pid) : Bool := (table.process? pid).any ProcessRecord.isVisible

/-- A visible process under the pid of an identity is known by that identity. -/
def Recognizes (identity : ResolvedIdentity) (table : Table) : Prop :=
  table.seen identity.pid → table.owners.get? identity.pid = some identity.key

/-- An event does not take the pid of a visible process for another identity.  Where it says
itself whether the process is visible, it may. -/
def Spares (request : ResolvedRequest) (table : Table) : Prop :=
  request.reason ≠ .visible → request.reason ≠ .invisible →
    ∀ identity ∈ request.ensured, table.Recognizes identity

instance (identity : ResolvedIdentity) (table : Table) : Decidable (table.Recognizes identity) :=
  inferInstanceAs (Decidable (_ → _))

instance (request : ResolvedRequest) (table : Table) : Decidable (table.Spares request) :=
  inferInstanceAs (Decidable (_ → _ → _))

/-! ## Changes of records -/

theorem seen_map (change : Pid → ProcessRecord → ProcessRecord)
    (hlookup : ∀ pid, after.process? pid = (table.process? pid).map (change pid))
    (hvisible : ∀ pid process, (change pid process).isVisible = process.isVisible) :
    after.seen = table.seen := by
  funext pid
  rw [seen, seen, hlookup]
  cases table.process? pid with
  | none => rfl
  | some process => exact hvisible pid process

theorem seen_mapAt {change : ProcessRecord → ProcessRecord}
    (hlookup : ∀ other, after.process? other =
      if pid = other then (table.process? other).map change else table.process? other)
    (hvisible : ∀ process, (change process).isVisible = process.isVisible) :
    after.seen = table.seen := by
  apply seen_map fun other => if pid = other then change else id
  · intro other
    rw [hlookup]
    split <;> simp
  · intro other process
    split
    · exact hvisible process
    · rfl

@[simp]
theorem seen_refresh (table : Table) (pid : Pid) :
    (table.refresh rules now pid).seen = table.seen :=
  seen_mapAt (process?_refresh rules now table pid) fun _ => rfl

theorem seen_refreshAll (table : Table) (pids : List Pid) :
    (table.refreshAll rules now pids).seen = table.seen :=
  foldl_invariant (motive := fun after => after.seen = table.seen)
    (fun pid hseen => (seen_refresh _ pid).trans hseen) rfl pids

@[simp]
theorem seen_expire (table : Table) : (table.expire rules now).seen = table.seen :=
  foldl_invariant (motive := fun after => after.seen = table.seen)
    (fun pid hseen => (seen_mapAt ((touches_endAbilityStart rules now).process?_step _ pid)
      fun _ => rfl).trans hseen) rfl _

theorem seen_bind (table : Table) (binder target : Pid) :
    (table.bind binder target).seen = table.seen := by
  cases hbinder : table.process? binder with
  | none => rw [bind_of_untracked (.inl hbinder)]
  | some consumer =>
      cases htarget : table.process? target with
      | none => rw [bind_of_untracked (.inr htarget)]
      | some extension =>
          apply seen_map _ (process?_bind hbinder htarget)
          intro other process
          simp only
          split <;> split <;> rfl

theorem seen_unbind (table : Table) (binder target : Pid) :
    (table.unbind binder target).seen = table.seen := by
  apply seen_map _ fun other => process?_unbind binder target other table
  intro other process
  simp only
  split <;> split <;> rfl

/-! ## Processes that come and go -/

theorem seen_remove (table : Table) (pid other : Pid) :
    (table.remove rules now pid).seen other = if pid = other then false else table.seen other := by
  rw [seen, seen]
  cases hgone : table.process? pid with
  | none =>
      rw [process?_remove_untracked hgone]
      split
      · next hother => rw [← hother, hgone]; rfl
      · rfl
  | some gone =>
      rw [process?_remove hgone]
      split
      · rfl
      · cases table.process? other with
        | none => rfl
        | some peer => exact ProcessRecord.isVisible_partedFrom _ _ _ _ _ _ _

/-- A process at first sight is not visible. -/
theorem seen_track (identity : ResolvedIdentity) (table : Table) (other : Pid) :
    (table.track rules now identity).seen other =
      if identity.pid = other then false else table.seen other := by
  rw [seen, process?_track]
  split <;> rfl

theorem seen_ensure_of_ne {identity : ResolvedIdentity} (hother : identity.pid ≠ other) :
    (table.ensure rules now identity).seen other = table.seen other := by
  rw [ensure_eq]
  split
  · rfl
  · rw [seen_track, if_neg hother, seen_remove, if_neg hother]

variable {identity : ResolvedIdentity}

/-- A process that is made sure of as who it is known for stays as visible as it was. -/
theorem seen_ensure (hknown : table.Recognizes identity) :
    (table.ensure rules now identity).seen = table.seen := by
  funext other
  by_cases hother : identity.pid = other
  · rw [ensure_eq]
    split
    · rfl
    · next huntracked =>
      have hunseen : table.seen identity.pid = false :=
        Bool.eq_false_iff.2 fun hseen => huntracked (hknown hseen)
      rw [seen_track, if_pos hother, ← hother, hunseen]
  · exact seen_ensure_of_ne hother

theorem Recognizes.ensure {binder : ResolvedIdentity} (hknown : table.Recognizes identity)
    (hbinder : table.Recognizes binder) :
    (table.ensure rules now identity).Recognizes binder := by
  intro hseen
  rw [seen_ensure hknown] at hseen
  rw [owners_ensure]
  split
  · next hsame =>
    have howner := hknown (by rwa [hsame])
    rw [← howner, hsame]
    exact hbinder hseen
  · exact hbinder hseen

/-! ## Events -/

variable {request : ResolvedRequest}

theorem seen_rebind (hbinder : ∀ binder ∈ request.binder?, table.Recognizes binder) :
    (table.rebind rules now request).seen = table.seen := by
  rw [rebind]
  split
  · next caller hreason hcaller =>
    have hknown : table.Recognizes caller := by
      apply hbinder
      rw [ResolvedRequest.binder?, if_pos hreason, hcaller]
      rfl
    rw [seen_bind, seen_ensure hknown]
  · exact seen_unbind _ _ _
  · rfl

@[simp]
theorem seen_applyLive (table : Table) :
    (table.applyLive rules now request).seen = (table.noteEvent rules now request).seen := by
  rw [applyLive]
  split
  · rw [seen_refreshAll, seen_refresh, seen_expire]
  · rw [seen_refresh, seen_expire]

theorem seen_noteEvent (hvisible : request.reason ≠ .visible)
    (hinvisible : request.reason ≠ .invisible) (htarget : table.Recognizes request.target)
    (hbinder : ∀ binder ∈ request.binder?, table.Recognizes binder) :
    (table.noteEvent rules now request).seen = table.seen := by
  have hnoted : ((table.ensure rules now request.target).modifyProcess request.target.pid
      (.note request.reason now)).seen = (table.ensure rules now request.target).seen :=
    seen_mapAt (process?_modifyProcess _ _ _) (ProcessRecord.isVisible_note hvisible hinvisible now)
  rw [noteEvent, seen_rebind, hnoted, seen_ensure htarget]
  -- The binder is still known as who it is, for the target took no visible pid from it.
  intro binder hmem hseen
  rw [hnoted] at hseen
  rw [owners_modifyProcess]
  exact htarget.ensure (hbinder binder hmem) hseen

theorem exists_process_ensure (rules : Rules) (now : Seconds) (hconsistent : table.Consistent)
    (identity : ResolvedIdentity) :
    ∃ process, (table.ensure rules now identity).process? identity.pid = some process := by
  rw [ensure_eq]
  split
  · next htracked =>
    obtain ⟨bundle, process, hbundle, hprocess⟩ := hconsistent.exists_process htracked
    exact ⟨process, hconsistent.process?_eq hbundle hprocess⟩
  · rw [process?_track, if_pos rfl]
    exact ⟨_, rfl⟩

/-- An event that says whether its target is visible is right about it, whoever the pid
belonged to. -/
theorem seen_noteEvent_of_said (hconsistent : table.Consistent) (visible : Bool)
    (hreason : request.reason = if visible then .visible else .invisible) :
    (table.noteEvent rules now request).seen = fun other =>
      if request.target.pid = other then visible else table.seen other := by
  have hrebind : ∀ table : Table, table.rebind rules now request = table := by
    intro table
    rw [rebind, hreason]
    cases visible <;> rfl
  have hsays : ∀ process : ProcessRecord,
      (process.note request.reason now).isVisible = visible := by
    intro process
    rw [hreason]
    cases visible <;> rfl
  funext other
  rw [noteEvent, hrebind, seen, process?_modifyProcess]
  split
  · next hother =>
    obtain ⟨process, hprocess⟩ :=
      exists_process_ensure rules now hconsistent request.target
    rw [← hother, hprocess]
    exact hsays process
  · next hother => exact seen_ensure_of_ne hother

/-- Who is visible after an event that spares the visible. -/
theorem seen_apply (hconsistent : table.Consistent) (hspared : table.Spares request) :
    (table.apply rules now request).2.seen =
      request.reason.seenAfter request.target.pid table.seen := by
  rw [apply]
  split
  · next hreason =>
    rw [hreason]
    exact funext (seen_remove table request.target.pid)
  · next hreason =>
    rw [hreason]
    exact seen_expire table
  · next hgoing hlive =>
    rw [seen_applyLive]
    by_cases hvisible : request.reason = .visible
    · rw [seen_noteEvent_of_said hconsistent true hvisible, hvisible]
      rfl
    by_cases hinvisible : request.reason = .invisible
    · rw [seen_noteEvent_of_said hconsistent false hinvisible, hinvisible]
      rfl
    have hknown := hspared hvisible hinvisible
    rw [ResolvedRequest.ensured_of_live hgoing hlive] at hknown
    rw [Reason.seenAfter_eq_self hvisible hinvisible hgoing]
    apply seen_noteEvent hvisible hinvisible (hknown _ List.mem_cons_self)
    intro binder hbinder
    exact hknown binder (List.mem_cons_of_mem _ (Option.mem_toList.2 hbinder))

end Table

end MemoryReclaim
