import MemoryReclaim.Host.Scripted
import MemoryReclaim.Proofs.Service.UpdatePaths
import MemoryReclaim.Proofs.Table.Rankings

/-!
# Listings of bundles

Two readers list bundles, one for reports and one for the killer.  Both end the grace windows
that have passed and then rank what they find.  Nothing that they answer depends on the order
in which the table happens to be walked, and to ask again at the same time changes nothing.
-/

namespace MemoryReclaim.Service

variable {σ : Type} {setup : Setup σ} {service : Service σ}

/-- Where no time has passed, a second look only reads the clock. -/
theorem refreshed_refreshed (hconsistent : service.table.Consistent)
    (hclock : ((service.refreshed setup).clock setup).1 = (service.clock setup).1) :
    (service.refreshed setup).refreshed setup = ((service.refreshed setup).clock setup).2 := by
  have htable : (service.refreshed setup).table.expire setup.rules (service.clock setup).1 =
      (service.refreshed setup).table := hconsistent.expire_expire
  have hagain : (service.refreshed setup).refreshed setup =
      { ((service.refreshed setup).clock setup).2 with
        table := (service.refreshed setup).table.expire setup.rules
          ((service.refreshed setup).clock setup).1 } := rfl
  rw [hagain, hclock, htable]
  rfl

/-- However a service was used, its listings have each bundle that they should have once and
in strict order; those for the killer need that each user belongs to one account.  They are
the same for every order in which the bundles are met, in the sweep that ends grace windows
and in the ranking, and the same when they are asked for again at the same time. -/
theorem listings_determined (setup : Setup σ) (host : σ) (actions : List Action)
    (lowest : Priority) :
    let service := (start host).run setup actions
    let fresh := service.refreshed setup
    let listing := service.bundles setup
    let killing := service.killableBundles setup lowest
    (∀ key, (fresh.table.bundle? key).map Bundle.head =
      (service.table.bundle? key).map Bundle.head) ∧
    fresh.table.Ranks (fun _ => True) Bundle.MoreImportant listing.1 ∧
    (∀ account, service.table.AccountsByUser account →
      fresh.table.Ranks (fun bundle => lowest ≤ bundle.priority) Bundle.Precedes killing.1) ∧
    (∀ visited, visited.Perm service.table.bundles.values →
      let swept := service.table.expireVia setup.rules (service.clock setup).1 visited
      swept = fresh.table ∧ ∀ listed, listed.Perm swept.bundles.values →
        Sort.sortBy Table.importanceOrder listed = listing.1 ∧
        (∀ account, service.table.AccountsByUser account →
          Sort.sortBy Table.killOrder (listed.filter fun bundle => lowest ≤ bundle.priority) =
            killing.1)) ∧
    listing.2 = fresh ∧ killing.2 = fresh ∧
    ((fresh.clock setup).1 = (service.clock setup).1 →
      (fresh.bundles setup).1 = listing.1 ∧ (fresh.killableBundles setup lowest).1 = killing.1 ∧
      fresh.refreshed setup = (fresh.clock setup).2) := by
  intro service fresh listing killing
  have hconsistent : service.table.Consistent := run_table_consistent setup host actions
  have hfresh : fresh.table.Consistent :=
    (Table.consistent_partsKeep setup.rules).expire hconsistent
  refine ⟨Table.head_expireVia hconsistent, hfresh.ranks_byImportance,
    fun account haccounts => hfresh.ranks_killable haccounts.expire lowest,
    fun visited hvisited => ?_, rfl, rfl, fun hclock => ?_⟩
  · intro swept
    have hswept : swept = fresh.table := Table.expireVia_eq hconsistent hvisited
    refine ⟨hswept, fun listed hlisted => ?_⟩
    rw [hswept] at hlisted
    exact ⟨hfresh.sortBy_importanceOrder hlisted,
      fun account haccounts => hfresh.sortBy_killOrder haccounts.expire lowest hlisted⟩
  · have hagain := refreshed_refreshed hconsistent hclock
    refine ⟨?_, ?_, hagain⟩
    · rw [Service.bundles, hagain]
      rfl
    · rw [Service.killableBundles, hagain]
      rfl

/-- The killer is offered a camera and a gallery, whose users come in order, and not the
launcher in front of them; and so it is when the bundles are met in reverse. -/
theorem listings_determined_camera :
    let setup : Setup Script := ⟨Script.host, .nameless, .default, "/proc"⟩
    let actions : List Action :=
      [.update (.single ⟨1, 20010003, "gallery"⟩ .createProcess),
        .update (.single ⟨2, 20010002, "camera"⟩ .createProcess),
        .update (.single ⟨3, 20010001, "launcher"⟩ .foreground)]
    let service := (start Script.start).run setup actions
    let killing := (service.killableBundles setup 300).1
    service.table.AccountsByUser Directory.accountOf ∧
      (service.bundles setup).1.map Bundle.name = ["launcher", "camera", "gallery"] ∧
      killing.map Bundle.name = ["camera", "gallery"] ∧
      killing.Pairwise Bundle.Precedes ∧
      Sort.sortBy Table.killOrder ((service.refreshed setup).table.bundles.values.reverse.filter
        fun bundle => 300 ≤ bundle.priority) = killing ∧
      ((service.refreshed setup).killableBundles setup 300).1 = killing := by
  intro setup actions service killing
  have haccounts : service.table.AccountsByUser Directory.accountOf :=
    run_accountsByUser setup Script.start (by simp [actions])
  have hsame : ((service.refreshed setup).clock setup).1 = (service.clock setup).1 := by decide
  obtain ⟨-, -, hkillable, hwalks, -, -, hagain⟩ :=
    listings_determined setup Script.start actions 300
  obtain ⟨hswept, hlisted⟩ := hwalks service.table.bundles.values (.refl _)
  obtain ⟨-, hreversed⟩ := hlisted (service.refreshed setup).table.bundles.values.reverse
    (by rw [hswept]; exact List.reverse_perm _)
  obtain ⟨-, hrepeated, -⟩ := hagain hsame
  exact ⟨haccounts, by decide, by decide, (hkillable _ haccounts).strict,
    hreversed _ haccounts, hrepeated⟩

end MemoryReclaim.Service
