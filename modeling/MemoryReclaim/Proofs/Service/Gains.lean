import MemoryReclaim.Proofs.Service.CycleEvents

/-!
# Gains in the journal

The memory that a cycle gained can be read off the journal: each kill is listed with what it
freed.  What lies between one event of a kind and the next is what that event yields, so a
write to the report trigger yields the gain of its pass, and a selection that of its bundle.
-/

namespace MemoryReclaim

def Event.freed : Event → Kilobytes
  | .killed _ freed => freed
  | .delivered _ | .selected _ | .wrote _ _ _ _ => 0

def Event.selects : Event → Bool
  | .selected _ => true
  | .delivered _ | .killed _ _ | .wrote _ _ _ _ => false

/-- The memory freed by all kills among the events. -/
def freedIn (events : List Event) : Kilobytes := (events.map Event.freed).sum

/-- For each event that opens a stretch, the memory freed before the next one does. -/
def yields (opens : Event → Bool) : List Event → List Kilobytes
  | [] => []
  | event :: later =>
      if opens event then freedIn (event :: later.takeWhile (!opens ·)) :: yields opens later
      else yields opens later

section Yields

variable {opens : Event → Bool} {first : Event} {left rest right : List Event}

@[simp]
theorem freedIn_nil : freedIn [] = 0 := rfl

@[simp]
theorem freedIn_cons (event : Event) (later : List Event) :
    freedIn (event :: later) = event.freed + freedIn later :=
  List.sum_cons

@[simp]
theorem freedIn_append (left right : List Event) :
    freedIn (left ++ right) = freedIn left + freedIn right := by
  rw [freedIn, List.map_append, List.sum_append]
  rfl

theorem yields_append_of_closed (hclosed : ∀ event ∈ left, opens event = false) :
    yields opens (left ++ right) = yields opens right := by
  induction left with
  | nil => rfl
  | cons event later ih =>
      have hevent : ¬ opens event := by rw [hclosed event List.mem_cons_self]; exact nofun
      rw [List.cons_append, yields, if_neg hevent]
      exact ih fun other hother => hclosed other (List.mem_cons_of_mem _ hother)

/-- A stretch yields what is freed in it, if nothing more is freed before the next one. -/
theorem yields_stretch (hopens : opens first) (hclosed : ∀ event ∈ rest, opens event = false)
    (hnext : freedIn (right.takeWhile (!opens ·)) = 0) :
    yields opens (first :: rest ++ right) = freedIn (first :: rest) :: yields opens right := by
  have hstretch : (rest ++ right).takeWhile (!opens ·) = rest ++ right.takeWhile (!opens ·) := by
    apply List.takeWhile_append_of_pos
    intro event hevent
    rw [hclosed event hevent]
    rfl
  rw [List.cons_append, yields, if_pos hopens, hstretch, yields_append_of_closed hclosed,
    freedIn_cons, freedIn_append, hnext, Nat.add_zero, freedIn_cons]

end Yields

/-! ## Notices and ends -/

namespace Registry

variable {registry : Registry}

theorem freedIn_told (notice : Notice) : freedIn (registry.told notice) = 0 := by
  rw [freedIn, List.sum_eq_zero_iff_forall_eq_nat]
  intro freed hfreed
  obtain ⟨event, hevent, rfl⟩ := List.mem_map.1 hfreed
  obtain ⟨delivery, -, rfl⟩ := List.mem_map.1 hevent
  rfl

theorem freedIn_endings (ends : List (ProcessRecord × Kilobytes)) :
    freedIn (registry.endings ends) = (ends.map Prod.snd).sum := by
  induction ends with
  | nil => rfl
  | cons first later ih =>
      rw [endings_cons, ending, freedIn_append, freedIn_append, freedIn_told, ih,
        freedIn_cons, freedIn_nil, List.map_cons, List.sum_cons]
      simp only [Event.freed, Nat.zero_add, Nat.add_zero]

theorem told_closed {notice : Notice} {event : Event} (hevent : event ∈ registry.told notice) :
    Service.asksReport event = false ∧ event.selects = false := by
  obtain ⟨delivery, -, rfl⟩ := List.mem_map.1 hevent
  exact ⟨rfl, rfl⟩

theorem endings_closed {ends : List (ProcessRecord × Kilobytes)} {event : Event}
    (hevent : event ∈ registry.endings ends) :
    Service.asksReport event = false ∧ event.selects = false := by
  obtain ⟨⟨process, freed⟩, -, hending⟩ := List.mem_flatMap.1 hevent
  rcases List.mem_append.1 hending with htold | hkilled
  · exact told_closed htold
  · rw [List.mem_singleton.1 hkilled]
    exact ⟨rfl, rfl⟩

end Registry

/-! ## Passes -/

theorem asksReport_wrote (succeeded : Bool) :
    Service.asksReport (.wrote reportTrigger limitedReport .truncate succeeded) := by
  rw [Service.asksReport, decide_eq_true_eq]

namespace Registry.ShowsPass

variable {registry : Registry} {choice : Option Bundle} {gained : Kilobytes}
variable {segment right : List Event}

/-- A pass frees what it gains, and its write to the report trigger yields just that. -/
theorem gain_eq (hshows : registry.ShowsPass choice gained segment)
    (hnext : freedIn (right.takeWhile (!Service.asksReport ·)) = 0) :
    freedIn segment = gained ∧
      yields Service.asksReport (segment ++ right) =
        gained :: yields Service.asksReport right := by
  cases hshows with
  | idle succeeded => exact ⟨rfl, yields_stretch (asksReport_wrote succeeded) nofun hnext⟩
  | @kill succeeded bundle ends _ =>
      have hfreed : freedIn (.wrote reportTrigger limitedReport .truncate succeeded ::
          .selected bundle.key :: registry.endings ends) = (ends.map Prod.snd).sum := by
        rw [freedIn_cons, freedIn_cons, freedIn_endings, Event.freed, Event.freed, Nat.zero_add,
          Nat.zero_add]
      refine ⟨hfreed, ?_⟩
      rw [yields_stretch (asksReport_wrote succeeded) _ hnext, hfreed]
      intro event hevent
      rcases List.mem_cons.1 hevent with rfl | hending
      · rfl
      · exact (endings_closed hending).1

/-- The selections of a pass that freed memory are as many as its gain says. -/
theorem selections_eq (hshows : registry.ShowsPass choice gained segment)
    (hnext : freedIn (right.takeWhile (!Event.selects ·)) = 0) :
    (yields Event.selects (segment ++ right)).countP (0 < ·) =
      (gained :: yields Event.selects right).countP (0 < ·) := by
  cases hshows with
  | idle succeeded =>
      rw [yields_append_of_closed]
      · rfl
      · intro event hevent
        rw [List.mem_singleton.1 hevent]
        rfl
  | @kill succeeded bundle ends _ =>
      have hstretch : yields Event.selects
          (.selected bundle.key :: registry.endings ends ++ right) =
            (ends.map Prod.snd).sum :: yields Event.selects right := by
        rw [yields_stretch rfl _ hnext, freedIn_cons, freedIn_endings, Event.freed, Nat.zero_add]
        exact fun event hevent => (endings_closed hevent).2
      rw [← hstretch]
      rfl

theorem takeWhile_asks (hshows : registry.ShowsPass choice gained segment) :
    (segment ++ right).takeWhile (!Service.asksReport ·) = [] := by
  cases hshows with
  | idle succeeded | kill succeeded =>
      exact List.takeWhile_cons_of_neg (by simp [asksReport_wrote])

/-- Before its selection a pass frees nothing. -/
theorem freedIn_unselected (hshows : registry.ShowsPass choice gained segment)
    (hnext : freedIn (right.takeWhile (!Event.selects ·)) = 0) :
    freedIn ((segment ++ right).takeWhile (!Event.selects ·)) = 0 := by
  cases hshows with
  | idle succeeded =>
      rw [List.singleton_append, List.takeWhile_cons_of_pos rfl, freedIn_cons, hnext]
      rfl
  | kill succeeded =>
      rw [List.cons_append, List.takeWhile_cons_of_pos rfl, List.cons_append,
        List.takeWhile_cons_of_neg (by simp [Event.selects])]
      rfl

end Registry.ShowsPass

/-! ## Several passes -/

namespace Service.Shows

variable {σ : Type} {setup : Setup σ} {registry : Registry} {passes : List (Pass σ)}
variable {segments : List (List Event)}

/-- The journal of several passes gives their gains. -/
theorem gains_eq (hshows : Shows setup registry passes segments) :
    freedIn segments.flatten = (passes.map (Pass.gain setup)).sum ∧
      yields asksReport segments.flatten = passes.map (Pass.gain setup) := by
  suffices hboth : freedIn (segments.flatten.takeWhile (!asksReport ·)) = 0 ∧
      freedIn segments.flatten = (passes.map (Pass.gain setup)).sum ∧
      yields asksReport segments.flatten = passes.map (Pass.gain setup) from hboth.2
  induction hshows with
  | nil => exact ⟨rfl, rfl, rfl⟩
  | cons hpass _ ih =>
      obtain ⟨hnext, hfreed, hyields⟩ := ih
      obtain ⟨hsegment, hstretch⟩ := hpass.gain_eq hnext
      rw [List.flatten_cons, hpass.takeWhile_asks, freedIn_append, hsegment, hfreed, hstretch,
        hyields, List.map_cons, List.sum_cons]
      exact ⟨rfl, rfl, rfl⟩

/-- The selections that freed memory are as many as the passes that gained some. -/
theorem selections_eq (hshows : Shows setup registry passes segments) :
    (yields Event.selects segments.flatten).countP (0 < ·) =
      (passes.map (Pass.gain setup)).countP (0 < ·) := by
  suffices hboth : freedIn (segments.flatten.takeWhile (!Event.selects ·)) = 0 ∧
      (yields Event.selects segments.flatten).countP (0 < ·) =
        (passes.map (Pass.gain setup)).countP (0 < ·) from hboth.2
  induction hshows with
  | nil => exact ⟨rfl, rfl⟩
  | cons hpass _ ih =>
      obtain ⟨hnext, hcount⟩ := ih
      rw [List.flatten_cons]
      refine ⟨hpass.freedIn_unselected hnext, ?_⟩
      rw [hpass.selections_eq hnext, List.map_cons, List.countP_cons, List.countP_cons, hcount]

end Service.Shows

end MemoryReclaim
