/-!
# Maps kept in key order

A map is the list of its entries in strictly ascending key order.  The order is
part of the type, so two maps with the same lookups are the same list, and every
walk over a map has one possible order.  The lookup equations `get?_insert`,
`get?_erase` and `get?_modify` need no side condition; `ext_get?` turns equal
lookups into equality.
-/

namespace MemoryReclaim

structure OrdMap (κ ν : Type) [Ord κ] where
  entries : List (κ × ν)
  ascending : entries.Pairwise fun left right => compare left.1 right.1 = .lt
  deriving DecidableEq

abbrev OrdSet (κ : Type) [Ord κ] := OrdMap κ Unit

namespace OrdMap

variable {κ ν : Type} [Ord κ]

def empty : OrdMap κ ν := ⟨[], .nil⟩

instance : Inhabited (OrdMap κ ν) := ⟨empty⟩

def keys (map : OrdMap κ ν) : List κ := map.entries.map Prod.fst

def values (map : OrdMap κ ν) : List ν := map.entries.map Prod.snd

def size (map : OrdMap κ ν) : Nat := map.entries.length

def isEmpty (map : OrdMap κ ν) : Bool := map.entries.isEmpty

def lookup (key : κ) : List (κ × ν) → Option ν
  | [] => none
  | (found, value) :: rest =>
      if compare key found = .eq then some value else lookup key rest

def get? (map : OrdMap κ ν) (key : κ) : Option ν := lookup key map.entries

def contains (map : OrdMap κ ν) (key : κ) : Bool := (map.get? key).isSome

/-- The new entry goes before the first larger key; an equal key is replaced. -/
def insertEntry (key : κ) (value : ν) : List (κ × ν) → List (κ × ν)
  | [] => [(key, value)]
  | (found, old) :: rest =>
      match compare key found with
      | .lt => (key, value) :: (found, old) :: rest
      | .eq => (key, value) :: rest
      | .gt => (found, old) :: insertEntry key value rest

theorem mem_insertEntry {key : κ} {value : ν} {entry : κ × ν} {entries : List (κ × ν)}
    (hmem : entry ∈ insertEntry key value entries) :
    entry = (key, value) ∨ entry ∈ entries := by
  induction entries with
  | nil => simpa [insertEntry] using hmem
  | cons head rest ih =>
      obtain ⟨found, old⟩ := head
      cases hcompare : compare key found with
      | lt => simpa [insertEntry, hcompare] using hmem
      | eq =>
          simp only [insertEntry, hcompare, List.mem_cons] at hmem
          rcases hmem with hnew | hrest
          · exact .inl hnew
          · exact .inr (List.mem_cons_of_mem _ hrest)
      | gt =>
          simp only [insertEntry, hcompare, List.mem_cons] at hmem
          rcases hmem with hhead | hrest
          · exact .inr (by simp [hhead])
          · rcases ih hrest with hnew | hold
            · exact .inl hnew
            · exact .inr (List.mem_cons_of_mem _ hold)

section Lawful

variable [Std.TransOrd κ] [Std.LawfulEqOrd κ]

theorem insertEntry_ascending (key : κ) (value : ν) {entries : List (κ × ν)}
    (hentries : entries.Pairwise fun left right => compare left.1 right.1 = .lt) :
    (insertEntry key value entries).Pairwise
      fun left right => compare left.1 right.1 = .lt := by
  induction entries with
  | nil => simp [insertEntry]
  | cons head rest ih =>
      obtain ⟨found, old⟩ := head
      obtain ⟨hhead, hrest⟩ := List.pairwise_cons.1 hentries
      cases hcompare : compare key found with
      | lt =>
          simp only [insertEntry, hcompare]
          refine List.pairwise_cons.2 ⟨fun entry hmem => ?_, hentries⟩
          rcases List.mem_cons.1 hmem with rfl | hlater
          · exact hcompare
          · exact Std.TransCmp.lt_trans hcompare (hhead entry hlater)
      | eq =>
          have hsame : key = found := Std.LawfulEqCmp.eq_of_compare hcompare
          subst hsame
          simp only [insertEntry, hcompare]
          exact List.pairwise_cons.2 ⟨hhead, hrest⟩
      | gt =>
          simp only [insertEntry, hcompare]
          refine List.pairwise_cons.2 ⟨fun entry hmem => ?_, ih hrest⟩
          rcases mem_insertEntry hmem with rfl | hlater
          · exact Std.OrientedCmp.gt_iff_lt.1 hcompare
          · exact hhead entry hlater

def insert (map : OrdMap κ ν) (key : κ) (value : ν) : OrdMap κ ν :=
  ⟨insertEntry key value map.entries, insertEntry_ascending key value map.ascending⟩

/-- Later pairs of the list win over earlier ones with the same key. -/
def ofList (pairs : List (κ × ν)) : OrdMap κ ν :=
  pairs.foldl (fun map pair => map.insert pair.1 pair.2) empty

end Lawful

def erase (map : OrdMap κ ν) (key : κ) : OrdMap κ ν :=
  ⟨map.entries.filter fun entry => compare key entry.1 != .eq, map.ascending.filter _⟩

def modifyEntry (key : κ) (change : ν → ν) (entry : κ × ν) : κ × ν :=
  (entry.1, if compare key entry.1 = .eq then change entry.2 else entry.2)

def modify (map : OrdMap κ ν) (key : κ) (change : ν → ν) : OrdMap κ ν :=
  ⟨map.entries.map (modifyEntry key change), List.pairwise_map.2 map.ascending⟩

theorem values_modify (map : OrdMap κ ν) (key : κ) (change : ν → ν) :
    (map.modify key change).values =
      map.entries.map fun entry => if compare key entry.1 = .eq then change entry.2 else entry.2 :=
  List.map_map

@[simp]
theorem get?_empty (key : κ) : (empty : OrdMap κ ν).get? key = none := rfl

section Lawful

variable [Std.LawfulEqOrd κ]

theorem lookup_cons (key found : κ) (value : ν) (rest : List (κ × ν)) [DecidableEq κ] :
    lookup key ((found, value) :: rest) =
      if key = found then some value else lookup key rest := by
  simp [lookup, Std.LawfulEqCmp.compare_eq_iff_eq]

variable [DecidableEq κ]

theorem lookup_modify (key other : κ) (change : ν → ν) (entries : List (κ × ν)) :
    lookup other (entries.map (modifyEntry key change)) =
      if key = other then (lookup other entries).map change else lookup other entries := by
  induction entries with
  | nil => simp [lookup]
  | cons head rest ih =>
      obtain ⟨found, value⟩ := head
      simp only [List.map_cons, modifyEntry, lookup_cons, ih,
        Std.LawfulEqCmp.compare_eq_iff_eq]
      by_cases hfound : other = found
      · subst hfound
        by_cases hkey : key = other <;> simp [hkey]
      · simp [hfound]

@[simp]
theorem get?_modify (map : OrdMap κ ν) (key other : κ) (change : ν → ν) :
    (map.modify key change).get? other =
      if key = other then (map.get? other).map change else map.get? other :=
  lookup_modify key other change map.entries

theorem lookup_filter (key other : κ) (entries : List (κ × ν)) :
    lookup other (entries.filter fun entry => compare key entry.1 != .eq) =
      if key = other then none else lookup other entries := by
  induction entries with
  | nil => simp [lookup]
  | cons head rest ih =>
      obtain ⟨found, value⟩ := head
      by_cases hfound : key = found
      · subst hfound
        by_cases hkey : key = other
        · subst hkey
          simpa [Std.ReflCmp.compare_self] using ih
        · simpa [lookup_cons, Ne.symm hkey, hkey] using ih
      · have hkept : (compare key found != Ordering.eq) = true := by
          simpa [bne_iff_ne, Std.LawfulEqCmp.compare_eq_iff_eq] using hfound
        rw [List.filter_cons_of_pos (by exact hkept), lookup_cons, lookup_cons, ih]
        by_cases hkey : key = other
        · subst hkey
          simp [hfound]
        · simp [hkey]

@[simp]
theorem get?_erase (map : OrdMap κ ν) (key other : κ) :
    (map.erase key).get? other = if key = other then none else map.get? other :=
  lookup_filter key other map.entries

theorem lookup_insertEntry (key other : κ) (value : ν) (entries : List (κ × ν)) :
    lookup other (insertEntry key value entries) =
      if key = other then some value else lookup other entries := by
  induction entries with
  | nil =>
      rw [insertEntry, lookup_cons]
      simp [eq_comm]
  | cons head rest ih =>
      obtain ⟨found, old⟩ := head
      cases hcompare : compare key found with
      | lt => simp [insertEntry, hcompare, lookup_cons, eq_comm]
      | eq =>
          have hsame : key = found := Std.LawfulEqCmp.eq_of_compare hcompare
          subst hsame
          by_cases hkey : other = key
          · simp [insertEntry, lookup_cons, hkey]
          · simp [insertEntry, lookup_cons, hkey, Ne.symm hkey]
      | gt =>
          have hne : key ≠ found := by
            rintro rfl
            simp at hcompare
          by_cases hfound : other = found
          · subst hfound
            simp [insertEntry, hcompare, lookup_cons, hne]
          · simp [insertEntry, hcompare, lookup_cons, hfound, ih]

@[simp]
theorem get?_insert [Std.TransOrd κ] (map : OrdMap κ ν) (key other : κ) (value : ν) :
    (map.insert key value).get? other =
      if key = other then some value else map.get? other :=
  lookup_insertEntry key other value map.entries

theorem get?_foldl_insert [Std.TransOrd κ] (pairs : List (κ × ν)) (map : OrdMap κ ν) (key : κ) :
    (pairs.foldl (fun map pair => map.insert pair.1 pair.2) map).get? key =
      (pairs.reverse.lookup key).or (map.get? key) := by
  induction pairs generalizing map with
  | nil => rfl
  | cons pair later ih =>
      have hpair : (map.insert pair.1 pair.2).get? key =
          ([pair].lookup key).or (map.get? key) := by
        rw [get?_insert, List.lookup_cons]
        by_cases hkey : pair.1 = key
        · rw [if_pos hkey, beq_iff_eq.2 hkey.symm]
          rfl
        · rw [if_neg hkey, beq_eq_false_iff_ne.2 (Ne.symm hkey)]
          rfl
      rw [List.foldl_cons, ih, List.reverse_cons, List.lookup_append, Option.or_assoc, hpair]

theorem get?_ofList [Std.TransOrd κ] (pairs : List (κ × ν)) (key : κ) :
    (ofList pairs).get? key = pairs.reverse.lookup key := by
  rw [ofList, get?_foldl_insert, get?_empty, Option.or_none]

end Lawful

section Lawful

variable [Std.LawfulEqOrd κ]

theorem lookup_eq_some_iff {entries : List (κ × ν)}
    (hentries : entries.Pairwise fun left right => compare left.1 right.1 = .lt)
    {key : κ} {value : ν} : lookup key entries = some value ↔ (key, value) ∈ entries := by
  induction entries with
  | nil => simp [lookup]
  | cons head rest ih =>
      obtain ⟨found, old⟩ := head
      obtain ⟨hhead, hrest⟩ := List.pairwise_cons.1 hentries
      simp only [lookup, Std.LawfulEqCmp.compare_eq_iff_eq, List.mem_cons, Prod.mk.injEq]
      by_cases hkey : key = found
      · subst hkey
        have habsent : (key, value) ∉ rest := fun hmem => by
          simpa [Std.ReflCmp.compare_self] using hhead _ hmem
        simp [habsent, eq_comm]
      · simp [hkey, ih hrest]

/-- An entry is listed exactly when looking its key up gives its value. -/
theorem get?_eq_some_iff (map : OrdMap κ ν) {key : κ} {value : ν} :
    map.get? key = some value ↔ (key, value) ∈ map.entries :=
  lookup_eq_some_iff map.ascending

theorem entries_ext [Std.TransOrd κ] {left right : List (κ × ν)}
    (hleft : left.Pairwise fun one two => compare one.1 two.1 = .lt)
    (hright : right.Pairwise fun one two => compare one.1 two.1 = .lt)
    (hlookup : ∀ key, lookup key left = lookup key right) : left = right := by
  induction left generalizing right with
  | nil =>
      cases right with
      | nil => rfl
      | cons head rest =>
          have := hlookup head.1
          simp [lookup, Std.ReflCmp.compare_self] at this
  | cons head rest ih =>
      obtain ⟨hhead, hrest⟩ := List.pairwise_cons.1 hleft
      cases right with
      | nil =>
          have := hlookup head.1
          simp [lookup, Std.ReflCmp.compare_self] at this
      | cons head' rest' =>
          obtain ⟨hhead', hrest'⟩ := List.pairwise_cons.1 hright
          have hmem : head' ∈ head :: rest := by
            have hfound := (lookup_eq_some_iff hright).2 (List.mem_cons_self (a := head'))
            exact (lookup_eq_some_iff hleft).1 ((hlookup _).trans hfound)
          have hmem' : head ∈ head' :: rest' := by
            have hfound := (lookup_eq_some_iff hleft).2 (List.mem_cons_self (a := head))
            exact (lookup_eq_some_iff hright).1 ((hlookup _).symm.trans hfound)
          have hsame : head = head' := by
            rcases List.mem_cons.1 hmem with heq | hlater
            · exact heq.symm
            · rcases List.mem_cons.1 hmem' with heq | hlater'
              · exact heq
              · have := Std.TransCmp.lt_trans (hhead _ hlater) (hhead' _ hlater')
                simp [Std.ReflCmp.compare_self] at this
          subst hsame
          refine congrArg (head :: ·) (ih hrest hrest' fun key => ?_)
          have hboth := hlookup key
          simp only [lookup, Std.LawfulEqCmp.compare_eq_iff_eq] at hboth
          by_cases hkey : key = head.1
          · have habsent : ∀ {entries : List (κ × ν)},
                (∀ entry ∈ entries, compare head.1 entry.1 = .lt) →
                  lookup head.1 entries = none := by
              intro entries hall
              induction entries with
              | nil => rfl
              | cons entry later ih' =>
                  have hlt := hall entry List.mem_cons_self
                  simp only [lookup, hlt]
                  simpa using ih' fun other hother =>
                    hall other (List.mem_cons_of_mem _ hother)
            rw [hkey, habsent hhead, habsent hhead']
          · simpa [hkey] using hboth

theorem keys_nodup (map : OrdMap κ ν) : map.keys.Nodup := by
  rw [keys, List.Nodup, List.pairwise_map]
  apply map.ascending.imp
  intro left right hlt heq
  rw [heq] at hlt
  simp [Std.ReflCmp.compare_self] at hlt

theorem mem_keys {map : OrdMap κ ν} {key : κ} : key ∈ map.keys ↔ map.contains key := by
  simp only [keys, contains, List.mem_map, Option.isSome_iff_exists, get?_eq_some_iff]
  constructor
  · rintro ⟨⟨found, value⟩, hmem, rfl⟩
    exact ⟨value, hmem⟩
  · rintro ⟨value, hmem⟩
    exact ⟨(key, value), hmem, rfl⟩

theorem mem_values {map : OrdMap κ ν} {value : ν} :
    value ∈ map.values ↔ ∃ key, map.get? key = some value := by
  simp only [values, List.mem_map, get?_eq_some_iff]
  constructor
  · rintro ⟨⟨key, found⟩, hmem, rfl⟩
    exact ⟨key, hmem⟩
  · rintro ⟨key, hmem⟩
    exact ⟨(key, value), hmem, rfl⟩

theorem isEmpty_eq_true_iff {map : OrdMap κ ν} :
    map.isEmpty = true ↔ ∀ key, map.get? key = none := by
  simp only [isEmpty, List.isEmpty_iff]
  constructor
  · intro hempty key
    simp [get?, hempty, lookup]
  · intro hnone
    rw [List.eq_nil_iff_forall_not_mem]
    rintro ⟨key, value⟩ hmem
    have hfound := (get?_eq_some_iff map).2 hmem
    simp [hnone key] at hfound

theorem isEmpty_eq_false_iff {map : OrdMap κ ν} :
    map.isEmpty = false ↔ ∃ key value, map.get? key = some value := by
  rw [← Bool.not_eq_true, isEmpty_eq_true_iff]
  simp [Option.ne_none_iff_exists']

/-- Maps that agree on every lookup are equal. -/
theorem ext_get? [Std.TransOrd κ] {left right : OrdMap κ ν}
    (hget : ∀ key, left.get? key = right.get? key) : left = right := by
  obtain ⟨leftEntries, hleft⟩ := left
  obtain ⟨rightEntries, hright⟩ := right
  have : leftEntries = rightEntries := entries_ext hleft hright hget
  subst this
  rfl

@[simp]
theorem erase_erase [Std.TransOrd κ] [DecidableEq κ] (map : OrdMap κ ν) (key : κ) :
    (map.erase key).erase key = map.erase key :=
  ext_get? fun other => by
    rw [get?_erase, get?_erase]
    split <;> rfl

theorem erase_comm [Std.TransOrd κ] [DecidableEq κ] (map : OrdMap κ ν) (key other : κ) :
    (map.erase key).erase other = (map.erase other).erase key :=
  ext_get? fun found => by
    rw [get?_erase, get?_erase, get?_erase, get?_erase]
    split <;> split <;> rfl

@[simp]
theorem modify_id [Std.TransOrd κ] [DecidableEq κ] (map : OrdMap κ ν) (key : κ) :
    map.modify key id = map :=
  ext_get? fun other => by
    rw [get?_modify]
    split
    · rw [Option.map_id, id]
    · rfl

theorem erase_of_absent [Std.TransOrd κ] [DecidableEq κ] {map : OrdMap κ ν} {key : κ}
    (habsent : map.get? key = none) : map.erase key = map :=
  ext_get? fun other => by
    rw [get?_erase]
    split
    · next hother => rw [← hother, habsent]
    · rfl

theorem erase_insert [Std.TransOrd κ] [DecidableEq κ] {map : OrdMap κ ν} {key : κ}
    (habsent : map.get? key = none) (value : ν) : (map.insert key value).erase key = map :=
  ext_get? fun other => by
    rw [get?_erase, get?_insert]
    split
    · next hother => rw [← hother, habsent]
    · rfl

end Lawful

end OrdMap

end MemoryReclaim
