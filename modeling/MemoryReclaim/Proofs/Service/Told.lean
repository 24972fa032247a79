import Mathlib.Data.List.Nodup
import MemoryReclaim.Proofs.Service.Twins

/-!
# Changes that subscribers are told of

Subscribers are told of the foreground changes that events make, and of nothing else under
that heading: whatever a service does besides is `Discreet`, a kill cycle included.  An
event tells each registered subscriber once.
-/

namespace MemoryReclaim

/-- The change of the foreground state that an update makes, if it makes one. -/
def UpdateRequest.change? (request : UpdateRequest) : Option AppStateChange :=
  request.reason.appState?.map fun state => ⟨request.target.pid, request.target.uid, state⟩

def Notice.isChange : Notice → Bool
  | .appState _ _ _ => true
  | _ => false

theorem Table.apply_change (rules : Rules) (now : Seconds) (request : ResolvedRequest)
    (table : Table) :
    (table.apply rules now request).1 =
      request.reason.appState?.map fun state =>
        ⟨request.target.pid, request.target.uid, state⟩ := by
  rw [Table.apply]
  cases request.reason <;> rfl

namespace Service

variable {σ : Type} {setup : Setup σ} {service before middle after : Service σ}
variable {name : SubscriberName}

/-- The change that an event in the journal tells a subscriber of. -/
def changeTold? (name : SubscriberName) : Event → Option AppStateChange
  | .delivered ⟨subscriber, .appState pid uid state⟩ =>
      if subscriber = name then some ⟨pid, uid, state⟩ else none
  | _ => none

/-- The changes that a subscriber has been told of, in order. -/
def changesTold (name : SubscriberName) (service : Service σ) : List AppStateChange :=
  service.journal.filterMap (changeTold? name)

theorem changesTold_record (events : List Event) :
    (service.record events).changesTold name =
      service.changesTold name ++ events.filterMap (changeTold? name) :=
  List.filterMap_append

/-! ## What an event tells -/

/-- A subscriber stands in the registry once. -/
theorem filterMap_registered {registry : Registry} (hregistered : registry.contains name)
    (change : AppStateChange) :
    registry.keys.filterMap (fun other => if other = name then some change else none) =
      [change] := by
  have hnodup := registry.keys_nodup
  have hmem := OrdMap.mem_keys.2 hregistered
  obtain ⟨earlier, later, hkeys⟩ := List.append_of_mem hmem
  rw [hkeys, List.nodup_middle, List.nodup_cons, List.mem_append, not_or] at hnodup
  have hnone : ∀ others : List SubscriberName, name ∉ others →
      others.filterMap (fun other => if other = name then some change else none) = [] := by
    intro others hothers
    rw [List.filterMap_eq_nil_iff]
    intro other hother
    rw [if_neg]
    rintro rfl
    exact hothers hother
  rw [hkeys, List.filterMap_append, List.filterMap_cons, if_pos rfl, hnone _ hnodup.1.1,
    hnone _ hnodup.1.2]
  rfl

theorem changesTold_notifyChange (hregistered : service.registry.contains name)
    (change : Option AppStateChange) :
    (service.notifyChange change).changesTold name =
      service.changesTold name ++ change.toList := by
  cases change with
  | none => exact (List.append_nil _).symm
  | some change =>
      rw [notifyChange, notify, changesTold_record, Registry.deliveries, List.map_map,
        List.filterMap_map]
      exact congrArg (service.changesTold name ++ ·) (filterMap_registered hregistered change)

/-- An update tells its change to everyone who is registered, and each of them once. -/
theorem changesTold_updateQueued (hregistered : service.registry.contains name)
    (request : UpdateRequest) :
    (service.updateQueued setup request).changesTold name =
      service.changesTold name ++ request.change?.toList := by
  have hready : ∀ table, ({ (service.clock setup).2 with table } : Service σ).registry.contains
      name := fun _ => hregistered
  rw [updateQueued, perform_eq, changesTold_notifyChange (hready _), Table.apply_change]
  rfl

theorem registry_notifyChange (change : Option AppStateChange) (service : Service σ) :
    (service.notifyChange change).registry = service.registry := by
  cases change <;> rfl

theorem registry_updateQueued (request : UpdateRequest) (service : Service σ) :
    (service.updateQueued setup request).registry = service.registry :=
  registry_notifyChange _ _

/-! ## What tells of no change -/

/-- Nobody is told of a change, and nobody comes or goes. -/
structure Discreet (before after : Service σ) : Prop where
  registry_eq : after.registry = before.registry
  changesTold_eq : ∀ name, after.changesTold name = before.changesTold name

namespace Discreet

theorem of_eq (hregistry : after.registry = before.registry)
    (hjournal : after.journal = before.journal) : Discreet before after where
  registry_eq := hregistry
  changesTold_eq name := congrArg (List.filterMap (changeTold? name)) hjournal

theorem refl : Discreet service service := of_eq rfl rfl

theorem trans (hfirst : Discreet before middle) (hsecond : Discreet middle after) :
    Discreet before after where
  registry_eq := hsecond.registry_eq.trans hfirst.registry_eq
  changesTold_eq name := (hsecond.changesTold_eq name).trans (hfirst.changesTold_eq name)

theorem record {events : List Event}
    (hevents : ∀ event ∈ events, ∀ name, changeTold? name event = none) :
    Discreet service (service.record events) where
  registry_eq := rfl
  changesTold_eq name := by
    have hnone : events.filterMap (changeTold? name) = [] := by
      rw [List.filterMap_eq_nil_iff]
      exact fun event hevent => hevents event hevent name
    rw [changesTold_record, hnone, List.append_nil]

theorem record_single {event : Event} (hevent : ∀ name, changeTold? name event = none) :
    Discreet service (service.record [event]) := by
  apply record
  intro other hother
  rw [List.mem_singleton.1 hother]
  exact hevent

theorem deliver {deliveries : List Delivery}
    (hdeliveries : ∀ delivery ∈ deliveries, delivery.notice.isChange = false) :
    Discreet service (service.record (deliveries.map .delivered)) := by
  apply record
  intro event hevent name
  obtain ⟨⟨subscriber, notice⟩, hdelivery, rfl⟩ := List.mem_map.1 hevent
  have hother := hdeliveries _ hdelivery
  cases notice with
  | appState pid uid state => cases hother
  | _ => rfl

theorem notify {notice : Notice} (hother : notice.isChange = false) :
    Discreet service (service.notify notice) := by
  apply deliver
  intro delivery hdelivery
  obtain ⟨name, -, rfl⟩ := List.mem_map.1 hdelivery
  exact hother

theorem measure : Discreet service (service.measure setup).2 := of_eq rfl rfl

theorem publishLevel (level : Nat) : Discreet service (service.publishLevel level) := of_eq rfl rfl

theorem echo (path : Path) (content : String) :
    Discreet service (service.echo setup path content).2 := by
  let host := (setup.host.echo path content service.host).2
  have hused : Discreet service { service with host } := of_eq rfl rfl
  exact hused.trans (record_single fun _ => rfl)

theorem killReclaimed (process : ProcessRecord) :
    Discreet service (service.killReclaimed setup process).2 := by
  let told := service.notify (.forceReclaim process.pid process.uid)
  let host := (setup.host.kill process.pid told.host).2
  have htold : Discreet service told := notify rfl
  have hused : Discreet told { told with host } := of_eq rfl rfl
  exact htold.trans (hused.trans (record_single fun _ => rfl))

theorem killAll (processes : List ProcessRecord) :
    Discreet service (service.killAll setup processes).2 := by
  induction processes generalizing service with
  | nil => exact refl
  | cons process later ih => exact (killReclaimed process).trans ih

theorem killOne (floor : Priority) : Discreet service (service.killOne setup floor).2 := by
  have hready : Discreet service (service.atChoice setup) := of_eq rfl rfl
  rw [killOne_eq]
  cases service.choice? setup floor with
  | none => exact hready
  | some bundle =>
      have hselected : Discreet (service.atChoice setup)
          ((service.atChoice setup).record [.selected bundle.key]) :=
        record_single fun _ => rfl
      exact hready.trans (hselected.trans ((killAll bundle.procs.values).trans (of_eq rfl rfl)))

theorem killPasses (target : KillTarget) (deficit : Kilobytes) (left kills : Nat)
    (freed : Kilobytes) (service : Service σ) :
    Discreet service (service.killPasses setup target deficit left kills freed).2 := by
  have hkill : ∀ service : Service σ,
      Discreet service ((service.passStart setup).killOne setup target.floor).2 :=
    fun _ => (echo _ _).trans (killOne _)
  have hend : ∀ service : Service σ,
      Discreet service ((service.passStart setup).passEnd setup target.floor) :=
    fun service => (hkill service).trans measure
  apply killPasses_induction (motive := fun _ _ _ service result _ => Discreet service result.2)
  case cap => exact fun _ _ _ => refl
  case covered => exact fun _ _ _ _ _ => refl
  case nothing => exact fun _ _ _ service _ _ => hkill service
  case lost => exact fun _ _ _ service _ _ _ _ _ => (hend service).trans (.publishLevel 0)
  case recovered => exact fun _ _ _ service _ _ _ _ _ _ _ => (hend service).trans (.publishLevel 0)
  case again => exact fun _ _ _ service _ _ _ _ _ _ _ _ _ ih => (hend service).trans ih

theorem announceLevel (level : Nat) : Discreet service (service.announceLevel level) := by
  rw [Service.announceLevel]
  split
  · exact notify rfl
  · exact refl

theorem killCycle : Discreet service (service.killCycle setup).2 := by
  have hmeasured : Discreet service
      ({ service with cycles := service.cycles + 1 }.measure setup).2 := of_eq rfl rfl
  rw [Service.killCycle]
  split
  · next heq =>
    rw [heq] at hmeasured
    exact hmeasured
  · next heq =>
    rw [heq] at hmeasured
    split
    · exact hmeasured
    · split
      · rw [killForTarget]
        apply trans (hmeasured.trans ((publishLevel _).trans (announceLevel _)))
        exact killPasses _ _ _ _ _ _
      · exact hmeasured

end Discreet

/-! ## Subscribing -/

theorem changesTold_subscribe (other : SubscriberName) :
    (service.subscribe other).2.changesTold name = service.changesTold name := by
  have hsilent : ∀ delivery ∈ (service.registry.subscribe other).2.1,
      delivery.notice.isChange = false := by
    rw [Registry.subscribe]
    split
    · exact fun _ hmem => absurd hmem List.not_mem_nil
    · intro delivery hmem
      rw [List.mem_singleton.1 hmem]
      rfl
  exact (Discreet.deliver hsilent).changesTold_eq name

theorem changesTold_unsubscribe (other : SubscriberName) :
    (service.unsubscribe other).2.changesTold name = service.changesTold name := by
  have hsilent : ∀ delivery ∈ (service.registry.unsubscribe other).2.1,
      delivery.notice.isChange = false := by
    rw [Registry.unsubscribe]
    split
    · intro delivery hmem
      rw [List.mem_singleton.1 hmem]
      rfl
    · exact fun _ hmem => absurd hmem List.not_mem_nil
  exact (Discreet.deliver hsilent).changesTold_eq name

/-- Who is registered stays so when somebody subscribes. -/
theorem contains_subscribe (hregistered : service.registry.contains name)
    (other : SubscriberName) : (service.subscribe other).2.registry.contains name := by
  have hkept : (service.registry.subscribe other).2.2.contains name := by
    rw [Registry.subscribe]
    split
    · exact hregistered
    · rw [OrdMap.contains, OrdMap.get?_insert]
      split
      · rfl
      · exact hregistered
  exact hkept

/-- Who is registered stays so when somebody else leaves. -/
theorem contains_unsubscribe (hregistered : service.registry.contains name)
    {other : SubscriberName} (hother : other ≠ name) :
    (service.unsubscribe other).2.registry.contains name := by
  have hkept : (service.registry.unsubscribe other).2.2.contains name := by
    rw [Registry.unsubscribe]
    split
    · rw [OrdMap.contains, OrdMap.get?_erase, if_neg hother]
      exact hregistered
    · exact hregistered
  exact hkept

end Service

end MemoryReclaim
