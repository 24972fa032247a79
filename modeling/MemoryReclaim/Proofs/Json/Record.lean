import Mathlib.Data.List.Nodup
import MemoryReclaim.Proofs.Json.Value

/-!
# Records in documents

A record gives known fields in the declared order, or by name, in any order and among other
members.  Opening finds each field that is given and no other, and refuses a name given twice.
What is written is a record that gives its fields by name.
-/

namespace MemoryReclaim.Json

variable {α : Type} {names : List String} {tree : Tree} {members : List (List Piece × Tree)}
  {named known : List (String × Tree)} {record : Record}

/-! ## Association lists -/

/-- Where no name is repeated, looking up is being listed. -/
theorem lookup_eq_some_iff_mem (hnodup : (known.map Prod.fst).Nodup) {name : String}
    {part : Tree} : known.lookup name = some part ↔ (name, part) ∈ known := by
  induction known with
  | nil => simp
  | cons head later ih =>
      obtain ⟨hhead, hlater⟩ := List.nodup_cons.1 hnodup
      rw [List.lookup_cons, List.mem_cons]
      by_cases hname : name = head.1
      · subst hname
        have hfresh : (head.1, part) ∉ later := fun hmem =>
          hhead (List.mem_map.2 ⟨_, hmem, rfl⟩)
        simp [hfresh, Prod.ext_iff, eq_comm]
      · have hother : (name == head.1) = false := beq_eq_false_iff_ne.2 hname
        simp [hother, hname, ih hlater, Prod.ext_iff]

theorem lookup_eq_none_iff_not_mem {name : String} :
    known.lookup name = none ↔ name ∉ known.map Prod.fst := by
  rw [List.lookup_eq_none_iff, List.mem_map]
  constructor
  · rintro hall ⟨part, hpart, rfl⟩
    simpa using hall part hpart
  · intro habsent part hpart
    rw [bne_iff_ne]
    rintro rfl
    exact habsent ⟨part, hpart, rfl⟩

/-- Names in the same order, none repeated, and every entry shared. -/
theorem eq_of_names {left right : List (String × Tree)}
    (hnames : left.map Prod.fst = right.map Prod.fst) (hnodup : (left.map Prod.fst).Nodup)
    (hsub : left ⊆ right) : left = right := by
  induction left generalizing right with
  | nil => simpa using hnames.symm
  | cons head later ih =>
      cases right with
      | nil => simp at hnames
      | cons other others =>
          obtain ⟨hhead, hlater⟩ := List.cons.inj hnames
          obtain ⟨hfresh, hdistinct⟩ := List.nodup_cons.1 hnodup
          have hsame : head = other := by
            refine (List.mem_cons.1 (hsub List.mem_cons_self)).resolve_right fun hmem => hfresh ?_
            rw [hlater]
            exact List.mem_map.2 ⟨head, hmem, rfl⟩
          rw [hsame, ih hlater hdistinct fun part hpart => ?_]
          refine (List.mem_cons.1 (hsub (List.mem_cons_of_mem _ hpart))).resolve_left fun heq => ?_
          exact hfresh (List.mem_map.2 ⟨part, hpart, by rw [heq, hhead]⟩)

/-! ## Forms -/

/-- A field of a record: its name, and the trees that give its value. -/
abbrev Field := String × (Tree → Prop)

variable {fields : List Field}

/-- The members of an object, each under the name that its key denotes. -/
def Named (members : List (List Piece × Tree)) (named : List (String × Tree)) : Prop :=
  List.Forall₂ (fun member entry => Denotes member.1 entry.1.toList ∧ member.2 = entry.2)
    members named

/-- A tree for each of the fields, under the name of the field. -/
def Given (fields : List Field) (known : List (String × Tree)) : Prop :=
  List.Forall₂ (fun field part => part.1 = field.1 ∧ field.2 part.2) fields known

/-- A record that may have the fields named and that gives the ones listed.  An array gives
the first fields in their order; the members of an object that bear other names are no part
of the record. -/
inductive RecordForm (names : List String) (fields : List Field) : Tree → Prop
  | inOrder {known : List (String × Tree)} (hknown : Given fields known)
      (hnames : known.map Prod.fst <+: names) :
      RecordForm names fields (.array (known.map Prod.snd))
  | byName {members : List (List Piece × Tree)} {named known : List (String × Tree)}
      (hknown : Given fields known) (hnamed : Named members named)
      (hothers : (named.filter fun member => names.contains member.1).Perm known) :
      RecordForm names fields (.object members)

/-! ## Opening -/

theorem members?_eq_some_iff :
    tree.members? = some named ↔ ∃ members, tree = .object members ∧ Named members named := by
  cases tree with
  | object members =>
      have hmember : ∀ (member : List Piece × Tree) (entry : String × Tree),
          ((resolve member.1).map fun key => (String.ofList key, member.2)) = some entry ↔
            Denotes member.1 entry.1.toList ∧ member.2 = entry.2 := by
        intro member entry
        rw [← map_ofList_resolve, Option.map_eq_some_iff, Option.map_eq_some_iff]
        simp only [Prod.ext_iff]
        constructor
        · rintro ⟨key, hkey, hname, hvalue⟩
          exact ⟨⟨key, hkey, hname⟩, hvalue⟩
        · rintro ⟨⟨key, hkey, hname⟩, hvalue⟩
          exact ⟨key, hkey, hname, hvalue⟩
      change members.mapM _ = _ ↔ _
      rw [mapM_eq_some_iff]
      simp only [hmember, Tree.object.injEq, exists_eq_left', Named]
  | null | bool _ | number _ | text _ | array _ => simp [Tree.members?]

theorem Given.map_fst (hgiven : Given fields known) :
    known.map Prod.fst = fields.map Prod.fst := by
  induction hgiven with
  | nil => rfl
  | cons hpart _ ih => rw [List.map_cons, List.map_cons, hpart.1, ih]

theorem Given.exists_mem (hgiven : Given fields known) {field : Field} (hfield : field ∈ fields) :
    ∃ part, (field.1, part) ∈ known ∧ field.2 part := by
  induction hgiven with
  | nil => simp at hfield
  | @cons head part others later hpart _ ih =>
      rcases List.mem_cons.1 hfield with rfl | hlater
      · exact ⟨part.2, List.mem_cons.2 (.inl (Prod.ext hpart.1.symm rfl)), hpart.2⟩
      · obtain ⟨found, hmem, hvalue⟩ := ih hlater
        exact ⟨found, List.mem_cons_of_mem _ hmem, hvalue⟩

theorem Given.exists_field (hgiven : Given fields known) {part : String × Tree}
    (hpart : part ∈ known) : ∃ form, (part.1, form) ∈ fields ∧ form part.2 := by
  induction hgiven with
  | nil => simp at hpart
  | @cons field head others later hhead _ ih =>
      rcases List.mem_cons.1 hpart with rfl | hlater
      · exact ⟨field.2, List.mem_cons.2 (.inl (Prod.ext hhead.1 rfl)), hhead.2⟩
      · obtain ⟨form, hmem, hvalue⟩ := ih hlater
        exact ⟨form, List.mem_cons_of_mem _ hmem, hvalue⟩

/-- Members that bear the same name stand under it in the same order. -/
theorem Named.sublist (hnamed : Named members named) {chosen : List (List Piece × Tree)}
    {name : String} (hsub : chosen.Sublist members)
    (hchosen : ∀ member ∈ chosen, Denotes member.1 name.toList) :
    (chosen.map fun member => (name, member.2)).Sublist named := by
  induction hsub generalizing named with
  | slnil => exact List.nil_sublist _
  | cons member _ ih =>
      cases hnamed with
      | cons _ hlater => exact (ih hlater hchosen).cons _
  | cons_cons member _ ih =>
      rw [List.forall_mem_cons] at hchosen
      cases hnamed with
      | @cons _ entry _ _ hentry hlater =>
          have hname : entry.1 = name := String.toList_inj.1 (hentry.1.unique hchosen.1)
          have hsame : entry = (name, member.2) := Prod.ext hname hentry.2.symm
          rw [hsame, List.map_cons]
          exact (ih hlater hchosen.2).cons_cons _

/-- Members that bear one of the names are among the known ones. -/
theorem Named.sublist_known (hnamed : Named members named)
    {chosen : List (List Piece × Tree)} {name : String} (hname : name ∈ names)
    (hsub : chosen.Sublist members)
    (hchosen : ∀ member ∈ chosen, Denotes member.1 name.toList) :
    (chosen.map fun member => (name, member.2)).Sublist
      (named.filter fun member => names.contains member.1) := by
  have hfiltered := (hnamed.sublist hsub hchosen).filter fun member => names.contains member.1
  rw [List.filter_eq_self.2] at hfiltered
  · exact hfiltered
  · rintro entry hentry
    obtain ⟨member, _, rfl⟩ := List.mem_map.1 hentry
    simpa using hname

theorem zip_of_prefix (hnames : known.map Prod.fst <+: names) :
    names.zip (known.map Prod.snd) = known := by
  obtain ⟨others, rfl⟩ := hnames
  induction known with
  | nil => simp
  | cons part later ih =>
      rw [List.map_cons, List.map_cons, List.cons_append, List.zip_cons_cons, ih]

theorem open?_inOrder (hnames : known.map Prod.fst <+: names) :
    Record.open? names (.array (known.map Prod.snd)) = some ⟨true, known⟩ := by
  have hlength := hnames.length_le
  rw [List.length_map] at hlength
  rw [Record.open?, List.length_map, if_pos hlength, zip_of_prefix hnames]

theorem open?_byName (hnamed : Named members named) :
    Record.open? names (.object members) =
      if ((named.filter fun member => names.contains member.1).map Prod.fst).Nodup then
        some ⟨false, named.filter fun member => names.contains member.1⟩
      else none := by
  have hmembers : (Tree.object members).members? = some named :=
    members?_eq_some_iff.2 ⟨members, rfl, hnamed⟩
  simp only [Record.open?, hmembers, Option.bind_eq_bind, Option.bind_some]

/-- The record has the field, given by a tree of its form. -/
def Record.Has (record : Record) (field : Field) : Prop :=
  ∃ part, record.find? field.1 = some part ∧ field.2 part

/-- A record that gives the fields is opened, and has them and no other. -/
theorem RecordForm.open? (hform : RecordForm names fields tree)
    (hnodup : (fields.map Prod.fst).Nodup) :
    ∃ record, Record.open? names tree = some record ∧ (∀ field ∈ fields, record.Has field) ∧
      ∀ name ∉ fields.map Prod.fst, record.find? name = none := by
  have hfound : ∀ {record : Record} {known : List (String × Tree)}, Given fields known →
      record.fields.Perm known → (∀ field ∈ fields, record.Has field) ∧
        ∀ name ∉ fields.map Prod.fst, record.find? name = none := by
    intro record known hgiven hperm
    have hnames : (record.fields.map Prod.fst).Perm (fields.map Prod.fst) :=
      hgiven.map_fst ▸ hperm.map Prod.fst
    refine ⟨fun field hfield => ?_, fun name hname => ?_⟩
    · obtain ⟨part, hpart, hvalue⟩ := hgiven.exists_mem hfield
      exact ⟨part, (lookup_eq_some_iff_mem (hnames.nodup_iff.2 hnodup)).2 (hperm.mem_iff.2 hpart),
        hvalue⟩
    · exact lookup_eq_none_iff_not_mem.2 fun hmem => hname (hnames.mem_iff.1 hmem)
  cases hform with
  | inOrder hknown hprefix =>
      exact ⟨_, open?_inOrder hprefix, hfound hknown (List.Perm.refl _)⟩
  | byName hknown hnamed hothers =>
      have hdistinct := (hothers.map Prod.fst).nodup_iff.2 (hknown.map_fst ▸ hnodup)
      exact ⟨_, by rw [open?_byName hnamed, if_pos hdistinct], hfound hknown hothers⟩

theorem Record.Has.required? {name : String} {form : Tree → Prop} {read? : Tree → Option α}
    {value : α} (hhas : record.Has (name, form))
    (hread : ∀ {part}, form part → read? part = some value) :
    record.required? name read? = some value := by
  obtain ⟨part, hfound, hpart⟩ := hhas
  rw [Record.required?, hfound, Option.bind_some, hread hpart]

theorem Record.has_of_required? {name : String} {form : Tree → Prop} {read? : Tree → Option α}
    {value : α} (hrequired : record.required? name read? = some value)
    (hread : ∀ {part}, read? part = some value → form part) : record.Has (name, form) := by
  obtain ⟨part, hfound, hpart⟩ := Option.bind_eq_some_iff.1 hrequired
  exact ⟨part, hfound, hread hpart⟩

theorem Record.Has.optional? {name : String} {form : α → Tree → Prop} {read? : Tree → Option α}
    {value : Option α} (hhas : record.Has (name, OptionForm form value))
    (hread : ∀ {value part}, form value part → read? part = some value)
    (hnull : read? .null = none) : record.optional? name read? = some value := by
  obtain ⟨part, hfound, hpart⟩ := hhas
  rw [Record.optional?, hfound]
  refine optional?_of_form ?_ hnull hpart
  exact fun _ _ hvalue => hread hvalue

/-- A record that gives all its fields. -/
abbrev FullForm (fields : List Field) : Tree → Prop := RecordForm (fields.map Prod.fst) fields

theorem FullForm.open? (names : List String) (hform : FullForm fields tree)
    (hnames : fields.map Prod.fst = names) (hnodup : names.Nodup) :
    ∃ record, Record.open? names tree = some record ∧ fields.Forall record.Has := by
  subst hnames
  obtain ⟨record, hopen, hhas, -⟩ := RecordForm.open? hform hnodup
  exact ⟨record, hopen, List.forall_iff_forall_mem.2 hhas⟩

/-- What an opened record was opened from. -/
inductive Opened (names : List String) : Tree → Record → Prop
  | inOrder {known : List (String × Tree)} (hnames : known.map Prod.fst <+: names) :
      Opened names (.array (known.map Prod.snd)) ⟨true, known⟩
  | byName {members : List (List Piece × Tree)} {named : List (String × Tree)}
      (hnamed : Named members named)
      (hnodup : ((named.filter fun member => names.contains member.1).map Prod.fst).Nodup) :
      Opened names (.object members) ⟨false, named.filter fun member => names.contains member.1⟩

theorem opened_of_open? (hopen : Record.open? names tree = some record) :
    Opened names tree record := by
  cases tree with
  | array items =>
      rw [Record.open?] at hopen
      split at hopen
      · next hlength =>
          cases hopen
          have hitems : (names.zip items).map Prod.snd = items := List.map_snd_zip hlength
          have hprefix : (names.zip items).map Prod.fst <+: names := by
            rw [List.zip_eq_zip_take_min, List.map_fst_zip (by simp)]
            exact List.take_prefix _ _
          have hopened := Opened.inOrder hprefix
          rwa [hitems] at hopened
      · cases hopen
  | object members =>
      cases hmembers : (Tree.object members).members? with
      | none => simp [Record.open?, hmembers] at hopen
      | some named =>
          obtain ⟨_, hsame, hnamed⟩ := members?_eq_some_iff.1 hmembers
          rw [← Tree.object.inj hsame] at hnamed
          rw [open?_byName hnamed] at hopen
          split at hopen
          · next hnodup =>
              cases hopen
              exact .byName hnamed hnodup
          · cases hopen
  | null | bool _ | number _ | text _ => cases hopen

theorem Opened.nodup (hopened : Opened names tree record) (hnames : names.Nodup) :
    (record.fields.map Prod.fst).Nodup := by
  cases hopened with
  | inOrder hprefix => exact hnames.sublist hprefix.sublist
  | byName _ hnodup => exact hnodup

theorem Opened.subset (hopened : Opened names tree record) :
    record.fields.map Prod.fst ⊆ names := by
  cases hopened with
  | inOrder hprefix => exact hprefix.subset
  | byName _ _ =>
      intro name hname
      obtain ⟨member, hmember, rfl⟩ := List.mem_map.1 hname
      simpa using (List.mem_filter.1 hmember).2

/-- The record gives just the fields that it was opened with. -/
theorem Opened.recordForm (hopened : Opened names tree record)
    (hgiven : Given fields record.fields) : RecordForm names fields tree := by
  cases hopened with
  | inOrder hprefix => exact .inOrder hgiven hprefix
  | byName hnamed _ => exact .byName hgiven hnamed (List.Perm.refl _)

theorem exists_given_of_has (hhas : ∀ field ∈ fields, record.Has field) :
    ∃ known, Given fields known ∧ ∀ part ∈ known, record.find? part.1 = some part.2 := by
  induction fields with
  | nil => exact ⟨[], .nil, by simp⟩
  | cons field later ih =>
      rw [List.forall_mem_cons] at hhas
      obtain ⟨part, hfound, hvalue⟩ := hhas.1
      obtain ⟨known, hknown, hall⟩ := ih hhas.2
      exact ⟨(field.1, part) :: known, .cons ⟨rfl, hvalue⟩ hknown,
        List.forall_mem_cons.2 ⟨hfound, hall⟩⟩

/-- A record that has all its fields gives them. -/
theorem Opened.recordForm_of_has (hopened : Opened names tree record)
    (hfields : fields.map Prod.fst = names) (hnames : names.Nodup)
    (hhas : ∀ field ∈ fields, record.Has field) : RecordForm names fields tree := by
  obtain ⟨known, hgiven, hfound⟩ := exists_given_of_has hhas
  have hknown : known.map Prod.fst = names := hgiven.map_fst.trans hfields
  have hsub : known ⊆ record.fields := fun part hpart =>
    (lookup_eq_some_iff_mem (hopened.nodup hnames)).1 (hfound part hpart)
  have hfew : record.fields.length ≤ known.length := by
    have hlength := ((hopened.nodup hnames).subperm hopened.subset).length_le
    rwa [← hknown, List.length_map, List.length_map] at hlength
  have hperm : known.Perm record.fields :=
    (List.Nodup.of_map _ (hknown ▸ hnames)).subperm hsub |>.perm_of_length_le hfew
  -- In an array the names come in the declared order already, so nothing is permuted.
  cases hopened with
  | @inOrder items hprefix =>
      have hsame : items.map Prod.fst = names := by
        refine hprefix.eq_of_length ?_
        rw [← hknown, List.length_map, List.length_map]
        exact hperm.length_eq.symm
      rw [← eq_of_names (hknown.trans hsame.symm) (hknown ▸ hnames) hsub]
      exact .inOrder hgiven (hknown ▸ List.prefix_refl _)
  | byName hnamed _ => exact .byName hgiven hnamed hperm.symm

/-! ## Writing -/

/-- The members that are read where the named ones were written. -/
def membersOf (named : List (String × Tree)) : List (List Piece × Tree) :=
  named.map fun member => ((Tree.piecesOf member.1).map Piece.asWritten, member.2)

theorem named_membersOf (named : List (String × Tree)) : Named (membersOf named) named := by
  induction named with
  | nil => exact .nil
  | cons member later ih => exact .cons ⟨denotes_asWritten member.1, rfl⟩ ih

theorem spelled_member (name : String) {value written : Tree}
    (hvalue : value.Spells written.write) :
    Spelled (memberTokens (membersOf [(name, value)]))
      (writeMembers [(Tree.piecesOf name, written)]) := by
  rw [membersOf, List.map_singleton, memberTokens, writeMembers]
  exact .token (spelled_writeText name) (.token .colon hvalue)

theorem spells_object {text : List Char} (hmembers : Spelled (memberTokens members) text) :
    (Tree.object members).Spells ('\x7b' :: text ++ ['\x7d']) := by
  rw [Tree.Spells, Tree.tokens]
  exact (Spelled.token .beginObject hmembers).append (.single .endObject)

theorem writes_member {name : String} {form : Tree → Prop} (hwrites : tree.Writes form) :
    (Tree.ofMembers [(name, tree)]).Writes (MemberForm name form) := by
  obtain ⟨value, hvalue, hspells⟩ := hwrites
  exact ⟨.object (membersOf [(name, value)]), .member (denotes_asWritten name) hvalue,
    spells_object (spelled_member name hspells)⟩

/-- What is read where each part was written gives each field. -/
theorem exists_spelled_members {parts : List (String × Tree)}
    (hparts : List.Forall₂ (fun field part => part.1 = field.1 ∧ part.2.Writes field.2)
      fields parts) :
    ∃ known, Given fields known ∧ Spelled (memberTokens (membersOf known))
      (writeMembers (parts.map fun part => (Tree.piecesOf part.1, part.2))) := by
  induction hparts with
  | nil => exact ⟨[], .nil, by rw [membersOf, List.map_nil, memberTokens]; exact .nil⟩
  | @cons field part _ later hpart hlater ih =>
      obtain ⟨hname, value, hvalue, hspells⟩ := hpart
      obtain ⟨known, hgiven, htokens⟩ := ih
      refine ⟨(part.1, value) :: known, .cons ⟨hname, hvalue⟩ hgiven, ?_⟩
      have hmember := spelled_member part.1 hspells
      -- Whether a comma follows depends on what is left, on both sides alike.
      have hlength := (List.Forall₂.length_eq hgiven).symm.trans (List.Forall₂.length_eq hlater)
      cases later with
      | nil =>
          rw [List.length_eq_zero_iff.1 hlength]
          exact hmember
      | cons next others =>
          cases known with
          | nil => simp at hlength
          | cons nextPart _ =>
              rw [membersOf, List.map_singleton, memberTokens, writeMembers] at hmember
              rw [membersOf, List.map_cons, List.map_cons, memberTokens, List.map_cons,
                List.map_cons, writeMembers]
              exact hmember.append (.token .comma htokens)

/-- What is written gives each field under its name. -/
theorem writes_record {parts : List (String × Tree)}
    (hparts : List.Forall₂ (fun field part => part.1 = field.1 ∧ part.2.Writes field.2)
      fields parts) : (Tree.ofMembers parts).Writes (FullForm fields) := by
  obtain ⟨known, hgiven, htokens⟩ := exists_spelled_members hparts
  refine ⟨.object (membersOf known), .byName hgiven (named_membersOf known) ?_,
    spells_object htokens⟩
  rw [← hgiven.map_fst, List.filter_eq_self.2 fun part hpart => by simpa using ⟨_, hpart⟩]

end MemoryReclaim.Json
