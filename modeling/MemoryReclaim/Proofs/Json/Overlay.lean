import MemoryReclaim.Proofs.Json.Record

/-!
# Settings laid over defaults

A record in which every field has a default is a list of settings, each of which changes its
own part of the defaults and leaves the others.  Where each part is read as its setting says,
the record is read as the defaults with exactly the settings given applied to them.
-/

namespace MemoryReclaim.Json

variable {α σ γ : Type} {names : List String} {tree : Tree} {record : Record}
  {members : List (List Piece × Tree)} {named known : List (String × Tree)}

/-- A family of settings: the name of each, the trees that give it, and what it changes. -/
structure Overlay (σ γ : Type) where
  name : σ → String
  form : σ → Tree → Prop
  apply : σ → γ → γ

namespace Overlay

variable {overlay : Overlay σ γ} {settings : List σ} {start : γ}

def fields (overlay : Overlay σ γ) (settings : List σ) : List Field :=
  settings.map fun setting => (overlay.name setting, overlay.form setting)

/-- The defaults with the settings in place of their own. -/
def applyAll (overlay : Overlay σ γ) (settings : List σ) (start : γ) : γ :=
  settings.foldl (fun config setting => overlay.apply setting config) start

/-- A record that gives just the settings, none of them twice. -/
structure Gives (overlay : Overlay σ γ) (names : List String) (settings : List σ) (tree : Tree) :
    Prop where
  distinct : (settings.map overlay.name).Nodup
  form : RecordForm names (overlay.fields settings) tree

theorem fields_names (overlay : Overlay σ γ) (settings : List σ) :
    (overlay.fields settings).map Prod.fst = settings.map overlay.name := by
  rw [fields, List.map_map]
  rfl

/-! ## Reading the settings -/

/-- The settings of one name, and no others, decide a part of the whole; the reader finds what
they make of it in just the trees that give one of them. -/
structure Controls (overlay : Overlay σ γ) (name : String) (part : γ → α)
    (read? : Tree → Option α) (start : γ) : Prop where
  read {setting : σ} {config : γ} {tree : Tree} (hname : overlay.name setting = name)
    (huntouched : part config = part start) (hform : overlay.form setting tree) :
    read? tree = some (part (overlay.apply setting config))
  found {value : α} {tree : Tree} (hread : read? tree = some value) :
    ∃ setting, overlay.name setting = name ∧ overlay.form setting tree
  other {setting : σ} (hname : overlay.name setting ≠ name) (config : γ) :
    part (overlay.apply setting config) = part config

/-- A part that one kind of setting sets to its value, and no other kind touches. -/
theorem controls_of_own {name : String} {part : γ → α} {read? : Tree → Option α} (own : α → σ)
    (hname : ∀ value, overlay.name (own value) = name)
    (hsets : ∀ value config, part (overlay.apply (own value) config) = value)
    (hread : ∀ value tree, read? tree = some value ↔ overlay.form (own value) tree)
    (hothers : ∀ setting, (∃ value, setting = own value) ∨ overlay.name setting ≠ name ∧
      ∀ config, part (overlay.apply setting config) = part config) :
    overlay.Controls name part read? start where
  read {setting config tree} hsetting _ hform := by
    obtain ⟨value, rfl⟩ := (hothers setting).resolve_right fun hother => hother.1 hsetting
    rw [hsets]
    exact (hread value tree).2 hform
  found {value tree} hvalue := ⟨own value, hname value, (hread value tree).1 hvalue⟩
  other {setting} hsetting := by
    rcases hothers setting with ⟨value, rfl⟩ | hother
    · exact absurd (hname value) hsetting
    · exact hother.2

theorem Controls.applyAll_of_absent {name : String} {part : γ → α} {read? : Tree → Option α}
    (hcontrols : overlay.Controls name part read? start)
    (habsent : name ∉ settings.map overlay.name) (config : γ) :
    part (overlay.applyAll settings config) = part config := by
  induction settings generalizing config with
  | nil => rfl
  | cons setting later ih =>
      rw [List.map_cons, List.mem_cons, not_or] at habsent
      exact (ih habsent.2 _).trans (hcontrols.other (Ne.symm habsent.1) config)

/-- A part that no setting given decides has its default; one that a setting decides is read
from the tree of this setting. -/
theorem Controls.withDefault? {name : String} {part : γ → α} {read? : Tree → Option α}
    (hcontrols : overlay.Controls name part read? start)
    (hdistinct : (settings.map overlay.name).Nodup)
    (hhas : ∀ field ∈ overlay.fields settings, record.Has field)
    (hothers : ∀ other ∉ settings.map overlay.name, record.find? other = none) :
    record.withDefault? name (part start) read? =
      some (part (overlay.applyAll settings start)) := by
  by_cases hgiven : name ∈ settings.map overlay.name
  · obtain ⟨setting, hsetting, hname⟩ := List.mem_map.1 hgiven
    obtain ⟨earlier, later, rfl⟩ := List.append_of_mem hsetting
    obtain ⟨found, hfound, hform⟩ := hhas _ (List.mem_map.2 ⟨setting, hsetting, rfl⟩)
    rw [List.map_append, List.map_cons, hname, List.nodup_append] at hdistinct
    obtain ⟨_, hlater, hearlier⟩ := hdistinct
    -- The settings before this one leave the part alone, and so do the ones behind it.
    have huntouched : part (overlay.applyAll earlier start) = part start :=
      hcontrols.applyAll_of_absent (fun hmem => hearlier _ hmem _ List.mem_cons_self rfl) start
    rw [hname] at hfound
    rw [Record.withDefault?, hfound, applyAll, List.foldl_append, List.foldl_cons]
    refine (hcontrols.read hname huntouched hform).trans (congrArg some ?_)
    exact (hcontrols.applyAll_of_absent (List.nodup_cons.1 hlater).1 _).symm
  · rw [Record.withDefault?, hothers name hgiven, hcontrols.applyAll_of_absent hgiven]

/-- The record of some settings has them and no other field. -/
theorem Gives.open? (hgives : overlay.Gives names settings tree) :
    ∃ record, Record.open? names tree = some record ∧
      (∀ field ∈ overlay.fields settings, record.Has field) ∧
      ∀ other ∉ settings.map overlay.name, record.find? other = none := by
  have hnames := overlay.fields_names settings
  have hopen := hgives.form.open? (hnames ▸ hgives.distinct)
  rwa [hnames] at hopen

/-! ## Finding the settings -/

theorem exists_given (hsettings : ∀ part ∈ known, ∃ setting, overlay.name setting = part.1 ∧
    overlay.form setting part.2) : ∃ settings, Given (overlay.fields settings) known := by
  induction known with
  | nil => exact ⟨[], .nil⟩
  | cons part later ih =>
      rw [List.forall_mem_cons] at hsettings
      obtain ⟨setting, hname, hform⟩ := hsettings.1
      obtain ⟨settings, hgiven⟩ := ih hsettings.2
      exact ⟨setting :: settings, .cons ⟨hname.symm, hform⟩ hgiven⟩

theorem Controls.exists_setting {name : String} {part : γ → α} {read? : Tree → Option α}
    (hcontrols : overlay.Controls name part read? start) {default value : α}
    (hread : record.withDefault? name default read? = some value) (found : Tree)
    (hfound : record.find? name = some found) :
    ∃ setting, overlay.name setting = name ∧ overlay.form setting found := by
  rw [Record.withDefault?, hfound] at hread
  exact hcontrols.found hread

/-- An opened record gives some settings, where each of its fields gives one. -/
theorem exists_gives (hopened : Opened names tree record) (hnames : names.Nodup)
    (hsettings : ∀ name ∈ names, ∀ part, record.find? name = some part →
      ∃ setting, overlay.name setting = name ∧ overlay.form setting part) :
    ∃ settings, overlay.Gives names settings tree := by
  have hparts : ∀ part ∈ record.fields,
      ∃ setting, overlay.name setting = part.1 ∧ overlay.form setting part.2 := fun part hpart =>
    hsettings part.1 (hopened.subset (List.mem_map.2 ⟨part, hpart, rfl⟩)) part.2
      ((lookup_eq_some_iff_mem (hopened.nodup hnames)).2 hpart)
  obtain ⟨settings, hgiven⟩ := exists_given hparts
  refine ⟨settings, ?_, hopened.recordForm hgiven⟩
  rw [← overlay.fields_names, ← hgiven.map_fst]
  exact hopened.nodup hnames

/-- Two members bear the name, or one whose value is that of no setting. -/
inductive Misgiven (overlay : Overlay σ γ) (name : String) (members : List (List Piece × Tree)) :
    Prop
  | twice {first second : List Piece × Tree} (hmembers : [first, second].Sublist members)
      (hfirst : Denotes first.1 name.toList) (hsecond : Denotes second.1 name.toList) :
      Misgiven overlay name members
  | unreadable {member : List Piece × Tree} (hmember : member ∈ members)
      (hname : Denotes member.1 name.toList)
      (hvalue : ∀ setting, overlay.name setting = name → ¬ overlay.form setting member.2) :
      Misgiven overlay name members

theorem Misgiven.not_gives {name : String} (hmisgiven : overlay.Misgiven name members)
    (hname : name ∈ names) : ¬ overlay.Gives names settings (.object members) := by
  rintro ⟨hdistinct, hform⟩
  cases hform with
  | @byName _ named known hgiven hnamed hothers =>
      cases hmisgiven with
      | twice hmembers hfirst hsecond =>
          have hsub := hnamed.sublist_known hname hmembers (by simp [hfirst, hsecond])
          rw [← overlay.fields_names, ← hgiven.map_fst, ← (hothers.map Prod.fst).nodup_iff]
            at hdistinct
          simpa using hdistinct.sublist (hsub.map Prod.fst)
      | @unreadable member hmember hdenotes hvalue =>
          have hsub := hnamed.sublist_known hname (List.singleton_sublist.2 hmember)
            (by simpa using hdenotes)
          have hmem := hothers.mem_iff.1 (List.singleton_sublist.1 hsub)
          obtain ⟨form, hfield, hform⟩ := hgiven.exists_field hmem
          obtain ⟨setting, _, hsame⟩ := List.mem_map.1 hfield
          obtain ⟨hsetting, rfl⟩ := Prod.mk.inj hsame
          exact hvalue setting hsetting hform

end Overlay

end MemoryReclaim.Json
