/-!
# Stable sorting by a comparison

Insertion sort over lists.  An element is placed before the first one that it does
not exceed, so elements that compare equal keep their order.  `sortBy_perm` and
`sortBy_pairwise` say that the result holds the same elements and is in order;
`sortBy_map` that only the comparison decides where an element goes; and
`sortBy_eq_of_perm` that their order does not matter if no two of them compare equal.
-/

namespace MemoryReclaim.Sort

variable {α : Type}

def place (comparison : α → α → Ordering) (element : α) : List α → List α
  | [] => [element]
  | head :: rest =>
      if comparison element head = .gt then head :: place comparison element rest
      else element :: head :: rest

def sortBy (comparison : α → α → Ordering) (elements : List α) : List α :=
  elements.foldr (place comparison) []

theorem place_perm (comparison : α → α → Ordering) (element : α) (elements : List α) :
    (place comparison element elements).Perm (element :: elements) := by
  induction elements with
  | nil => exact .refl _
  | cons head rest ih =>
      unfold place
      split
      · exact (ih.cons head).trans (.swap element head rest)
      · exact .refl _

/-- Sorting neither adds nor drops an element. -/
theorem sortBy_perm (comparison : α → α → Ordering) (elements : List α) :
    (sortBy comparison elements).Perm elements := by
  induction elements with
  | nil => exact .refl _
  | cons head rest ih => exact (place_perm comparison head _).trans (ih.cons head)

theorem mem_place {comparison : α → α → Ordering} {element other : α} {elements : List α} :
    other ∈ place comparison element elements ↔ other = element ∨ other ∈ elements := by
  rw [(place_perm comparison element elements).mem_iff, List.mem_cons]

theorem place_pairwise {comparison : α → α → Ordering} [Std.TransCmp comparison] (element : α)
    {elements : List α}
    (helements : elements.Pairwise fun left right => comparison left right ≠ .gt) :
    (place comparison element elements).Pairwise
      fun left right => comparison left right ≠ .gt := by
  induction elements with
  | nil => simp [place]
  | cons head rest ih =>
      obtain ⟨hhead, hrest⟩ := List.pairwise_cons.1 helements
      by_cases hafter : comparison element head = .gt
      · rw [place, if_pos hafter]
        refine List.pairwise_cons.2 ⟨fun other hmem => ?_, ih hrest⟩
        rcases mem_place.1 hmem with rfl | hlater
        · simp [Std.OrientedCmp.gt_iff_lt.1 hafter]
        · exact hhead other hlater
      · rw [place, if_neg hafter]
        refine List.pairwise_cons.2 ⟨fun other hmem => ?_, helements⟩
        rcases List.mem_cons.1 hmem with rfl | hlater
        · exact hafter
        · exact Ordering.isLE_iff_ne_gt.1 (Std.TransCmp.isLE_trans
            (Ordering.isLE_iff_ne_gt.2 hafter) (Ordering.isLE_iff_ne_gt.2 (hhead other hlater)))

theorem place_map {comparison : α → α → Ordering} {change : α → α}
    (hchange : ∀ left right, comparison (change left) (change right) = comparison left right)
    (element : α) (elements : List α) :
    place comparison (change element) (elements.map change) =
      (place comparison element elements).map change := by
  induction elements with
  | nil => rfl
  | cons head rest ih =>
      rw [List.map_cons, place, place, hchange, ih]
      split <;> rfl

/-- A change that no comparison notices can be made after sorting as well. -/
theorem sortBy_map {comparison : α → α → Ordering} {change : α → α}
    (hchange : ∀ left right, comparison (change left) (change right) = comparison left right)
    (elements : List α) :
    sortBy comparison (elements.map change) = (sortBy comparison elements).map change := by
  induction elements with
  | nil => rfl
  | cons head rest ih =>
      rw [List.map_cons, sortBy, List.foldr_cons, ← sortBy, ih, place_map hchange]
      rfl

/-- No element of a sorted list exceeds a later one. -/
theorem sortBy_pairwise (comparison : α → α → Ordering) [Std.TransCmp comparison]
    (elements : List α) :
    (sortBy comparison elements).Pairwise fun left right => comparison left right ≠ .gt := by
  induction elements with
  | nil => exact .nil
  | cons head rest ih => exact place_pairwise head ih

theorem ne_eq_symm {comparison : α → α → Ordering} [Std.TransCmp comparison] {left right : α}
    (hne : comparison left right ≠ .eq) : comparison right left ≠ .eq :=
  fun heq => hne (Std.OrientedCmp.eq_symm heq)

/-- Elements that compare different are in strict order after sorting. -/
theorem sortBy_strict {comparison : α → α → Ordering} [Std.TransCmp comparison]
    {elements : List α}
    (hdistinct : elements.Pairwise fun left right => comparison left right ≠ .eq) :
    (sortBy comparison elements).Pairwise fun left right => comparison left right = .lt := by
  have hsorted := (sortBy_perm comparison elements).symm.pairwise hdistinct ne_eq_symm
  apply ((sortBy_pairwise comparison elements).and hsorted).imp
  rintro left right ⟨hforward, hne⟩
  cases hcompare : comparison left right with
  | lt => rfl
  | eq => exact absurd hcompare hne
  | gt => exact absurd hcompare hforward

/-- Elements that compare different are sorted into one list, whatever order they come in. -/
theorem sortBy_eq_of_perm {comparison : α → α → Ordering} [Std.TransCmp comparison]
    {elements others : List α}
    (hdistinct : elements.Pairwise fun left right => comparison left right ≠ .eq)
    (hperm : elements.Perm others) : sortBy comparison elements = sortBy comparison others := by
  have hsorted : (sortBy comparison elements).Perm (sortBy comparison others) :=
    (sortBy_perm comparison elements).trans (hperm.trans (sortBy_perm comparison others).symm)
  apply hsorted.eq_of_pairwise _ (sortBy_strict hdistinct)
    (sortBy_strict (hperm.pairwise hdistinct ne_eq_symm))
  intro left right _ _ hbefore hafter
  rw [Std.OrientedCmp.gt_of_lt hafter] at hbefore
  cases hbefore

end MemoryReclaim.Sort
