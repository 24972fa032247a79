import MemoryReclaim.Proofs.Json.Record
import MemoryReclaim.Wire

/-!
# Wire forms are kept

For each type that crosses the boundary: which of its values fit the widths of their fields,
and which trees give a value.  Writing a value that fits gives a text of such a tree, and
reading any text of any such tree gives the value, so the two sides never drift apart.
-/

namespace MemoryReclaim

open MemoryReclaim.Json MemoryReclaim.Text

namespace Wire

variable {α : Type} {Fits : α → Prop} {Form : α → Tree → Prop}

/-- The reader and the writer of a type keep to the same form. -/
structure Keeps [Wire α] (Fits : α → Prop) (Form : α → Tree → Prop) : Prop where
  read {value : α} {tree : Tree} (hform : Form value tree) : Wire.read? tree = some value
  write {value : α} (hfits : Fits value) : (Wire.write value).Writes (Form value)

/-- Values that fit are read back from what is written for them, and from every other text
of their form. -/
structure RoundTrips [Wire α] (Fits : α → Prop) (Form : α → Tree → Prop) : Prop where
  of_render (value : α) (hfits : Fits value) : ofText? (render value) = some value
  of_spells (value : α) (tree : Tree) (text : String) (hform : Form value tree)
    (hspells : tree.Spells text.toList) : ofText? text = some value

theorem Keeps.roundTrips [Wire α] (hkeeps : Keeps Fits Form) : RoundTrips Fits Form where
  of_render value hfits := by
    obtain ⟨found, hform, hfound⟩ := (hkeeps.write hfits).ofText?_render
    rw [ofText?, render, hfound, Option.bind_some, hkeeps.read hform]
  of_spells value tree text hform hspells := by
    rw [ofText?, ofText?_of_spells hspells, Option.bind_some, hkeeps.read hform]

/-! ## Choices -/

/-- A value is given by its name. -/
abbrev ChoiceForm (name : α → String) (value : α) : Tree → Prop := NameForm (name value)

theorem keeps_choice {all : List α} {name : α → String}
    (hnames : ∀ value, (all.map fun value => (name value, value)).lookup (name value) =
      some value) :
    @Keeps α (Wire.choice all name) (fun _ => True) (ChoiceForm name) :=
  @Keeps.mk α (Wire.choice all name) _ _
    (fun {value _} hform => choice?_of_form hform (hnames value))
    (fun {value} _ => writes_name (name value))

theorem keeps_reason : Keeps (fun _ => True) (ChoiceForm Reason.wireName) :=
  keeps_choice fun value => by cases value <;> decide

theorem keeps_appState : Keeps (fun _ => True) (ChoiceForm AppState.wireName) :=
  keeps_choice fun value => by cases value <;> decide

theorem keeps_bundleState : Keeps (fun _ => True) (ChoiceForm BundleState.wireName) :=
  keeps_choice fun value => by cases value <;> decide

theorem keeps_bindStatus : Keeps (fun _ => True) (ChoiceForm BindStatus.wireName) :=
  keeps_choice fun value => by cases value <;> decide

theorem keeps_memoryLevel : Keeps (fun _ => True) (ChoiceForm MemoryLevel.title) :=
  keeps_choice fun value => by cases value <;> decide

theorem keeps_cycleOutcome : Keeps (fun _ => True) (ChoiceForm CycleOutcome.wireName) :=
  keeps_choice fun value => by cases value <;> decide

end Wire

/-! ## Records -/

namespace KillLevel

variable {level : KillLevel} {tree : Tree}

structure Fits (level : KillLevel) : Prop where
  buffer : fitsUInt64 level.buffer
  floor : fitsInt32 level.floor

def Form (level : KillLevel) : Tree → Prop :=
  FullForm [("buffer_kb", UInt64Form level.buffer), ("min_priority", Int32Form level.floor)]

theorem ofTree?_of_form (hform : level.Form tree) : ofTree? tree = some level := by
  obtain ⟨record, hopen, hbuffer, (hfloor : record.Has _)⟩ :=
    FullForm.open? ["buffer_kb", "min_priority"] hform rfl (by decide)
  simp only [ofTree?, hopen, hbuffer.required? uint64?_eq_some_iff.2,
    hfloor.required? int32?_eq_some_iff.2, Option.bind_eq_bind, Option.bind_some]

theorem form_of_ofTree? (hread : ofTree? tree = some level) : level.Form tree := by
  simp only [ofTree?, Option.bind_eq_bind, Option.bind_eq_some_iff, Option.some.injEq] at hread
  obtain ⟨record, hopen, buffer, hbuffer, floor, hfloor, rfl⟩ := hread
  refine (opened_of_open? hopen).recordForm_of_has rfl (by decide) ?_
  exact List.forall_mem_cons.2 ⟨Record.has_of_required? hbuffer uint64?_eq_some_iff.1,
    List.forall_mem_singleton.2 (Record.has_of_required? hfloor int32?_eq_some_iff.1)⟩

theorem writes_toTree (hfits : level.Fits) : level.toTree.Writes level.Form :=
  writes_record (.cons ⟨rfl, writes_uint64 hfits.buffer⟩
    (.cons ⟨rfl, writes_int32 hfits.floor⟩ .nil))

theorem keeps : Wire.Keeps Fits Form := ⟨ofTree?_of_form, writes_toTree⟩

end KillLevel

namespace Identity

variable {identity : Identity} {tree : Tree}

structure Fits (identity : Identity) : Prop where
  pid : fitsInt32 identity.pid
  uid : fitsInt32 identity.uid

def Form (identity : Identity) : Tree → Prop :=
  FullForm [("pid", Int32Form identity.pid), ("uid", Int32Form identity.uid),
    ("bundle_name", TextForm identity.name)]

theorem ofTree?_of_form (hform : identity.Form tree) : ofTree? tree = some identity := by
  obtain ⟨record, hopen, hpid, huid, (hname : record.Has _)⟩ :=
    FullForm.open? ["pid", "uid", "bundle_name"] hform rfl (by decide)
  simp only [ofTree?, hopen, hpid.required? int32?_eq_some_iff.2,
    huid.required? int32?_eq_some_iff.2, hname.required? text?_eq_some_iff.2,
    Option.bind_eq_bind, Option.bind_some]

theorem writes_toTree (hfits : identity.Fits) : identity.toTree.Writes identity.Form :=
  writes_record (.cons ⟨rfl, writes_int32 hfits.pid⟩ (.cons ⟨rfl, writes_int32 hfits.uid⟩
    (.cons ⟨rfl, writes_text identity.name⟩ .nil)))

theorem keeps : Wire.Keeps Fits Form := ⟨ofTree?_of_form, writes_toTree⟩

end Identity

namespace UpdateRequest

variable {request : UpdateRequest} {tree : Tree}

structure Fits (request : UpdateRequest) : Prop where
  caller : ∀ caller ∈ request.caller, caller.Fits
  target : request.target.Fits

def Form (request : UpdateRequest) : Tree → Prop :=
  FullForm [("caller", OptionForm Identity.Form request.caller),
    ("target", request.target.Form), ("reason", Wire.ChoiceForm Reason.wireName request.reason)]

theorem ofTree?_of_form (hform : request.Form tree) : ofTree? tree = some request := by
  obtain ⟨record, hopen, hcaller, htarget, (hreason : record.Has _)⟩ :=
    FullForm.open? ["caller", "target", "reason"] hform rfl (by decide)
  simp only [ofTree?, hopen, hcaller.optional? Identity.ofTree?_of_form rfl,
    htarget.required? Identity.ofTree?_of_form, hreason.required? Wire.keeps_reason.read,
    Option.bind_eq_bind, Option.bind_some]

theorem writes_toTree (hfits : request.Fits) : request.toTree.Writes request.Form :=
  writes_record (.cons ⟨rfl, writes_option fun caller hcaller =>
      Identity.writes_toTree (hfits.caller caller hcaller)⟩
    (.cons ⟨rfl, Identity.writes_toTree hfits.target⟩
      (.cons ⟨rfl, Wire.keeps_reason.write trivial⟩ .nil)))

theorem keeps : Wire.Keeps Fits Form := ⟨ofTree?_of_form, writes_toTree⟩

end UpdateRequest

namespace BundleSummary

variable {summary : BundleSummary} {tree : Tree}

structure Fits (summary : BundleSummary) : Prop where
  uid : fitsInt32 summary.uid
  priority : fitsInt32 summary.priority
  account : fitsInt32 summary.account

def Form (summary : BundleSummary) : Tree → Prop :=
  FullForm [("uid", Int32Form summary.uid), ("name", TextForm summary.name),
    ("priority", Int32Form summary.priority), ("account_id", Int32Form summary.account)]

theorem ofTree?_of_form (hform : summary.Form tree) : ofTree? tree = some summary := by
  obtain ⟨record, hopen, huid, hname, hpriority, (haccount : record.Has _)⟩ :=
    FullForm.open? ["uid", "name", "priority", "account_id"] hform rfl (by decide)
  simp only [ofTree?, hopen, huid.required? int32?_eq_some_iff.2,
    hname.required? text?_eq_some_iff.2, hpriority.required? int32?_eq_some_iff.2,
    haccount.required? int32?_eq_some_iff.2, Option.bind_eq_bind, Option.bind_some]

theorem writes_toTree (hfits : summary.Fits) : summary.toTree.Writes summary.Form :=
  writes_record (.cons ⟨rfl, writes_int32 hfits.uid⟩ (.cons ⟨rfl, writes_text summary.name⟩
    (.cons ⟨rfl, writes_int32 hfits.priority⟩ (.cons ⟨rfl, writes_int32 hfits.account⟩ .nil))))

theorem keeps : Wire.Keeps Fits Form := ⟨ofTree?_of_form, writes_toTree⟩

end BundleSummary

namespace StateReason

variable {reason : StateReason} {tree : Tree}

def Fits : StateReason → Prop
  | .startAbility => True
  | .reserved code => fitsUInt32 code

/-- A reason without a code is given by its name, the other one by a code under its name. -/
inductive Form : StateReason → Tree → Prop
  | startAbility {tree : Tree} (hname : NameForm "start_ability" tree) : Form .startAbility tree
  | reserved {code : Nat} {tree : Tree} (hcode : MemberForm "reserved" (UInt32Form code) tree) :
      Form (.reserved code) tree

theorem ofTree?_of_form (hform : reason.Form tree) : ofTree? tree = some reason := by
  cases hform with
  | startAbility hname =>
      have hchoice : choice? [("start_ability", StateReason.startAbility)] tree =
          some .startAbility := choice?_of_form hname (by decide)
      cases hname with
      | alone htext =>
          obtain ⟨_⟩ := htext
          exact hchoice
      | key hmember =>
          obtain ⟨value, honly, _⟩ := onlyMember?_of_form hmember
          rw [ofTree?, honly]
          exact hchoice
  | reserved hmember =>
      obtain ⟨value, honly, hcode⟩ := onlyMember?_of_form hmember
      rw [ofTree?, honly]
      change value.uint32?.map StateReason.reserved = _
      rw [uint32?_eq_some_iff.2 hcode, Option.map_some]

theorem writes_toTree (hfits : reason.Fits) : reason.toTree.Writes reason.Form := by
  cases reason with
  | startAbility => exact (writes_name "start_ability").imp .startAbility
  | reserved code => exact (writes_member (writes_uint32 hfits)).imp .reserved

theorem keeps : Wire.Keeps Fits Form := ⟨ofTree?_of_form, writes_toTree⟩

end StateReason

namespace ProcessStateInfo

variable {info : ProcessStateInfo} {tree : Tree}

structure Fits (info : ProcessStateInfo) : Prop where
  callerPid : fitsInt32 info.callerPid
  callerUid : fitsInt32 info.callerUid
  pid : fitsInt32 info.pid
  uid : fitsInt32 info.uid
  reason : info.reason.Fits

def Form (info : ProcessStateInfo) : Tree → Prop :=
  FullForm [("caller_pid", Int32Form info.callerPid), ("caller_uid", Int32Form info.callerUid),
    ("pid", Int32Form info.pid), ("uid", Int32Form info.uid), ("reason", info.reason.Form)]

theorem ofTree?_of_form (hform : info.Form tree) : ofTree? tree = some info := by
  obtain ⟨record, hopen, hcallerPid, hcallerUid, hpid, huid, (hreason : record.Has _)⟩ :=
    FullForm.open? ["caller_pid", "caller_uid", "pid", "uid", "reason"] hform rfl (by decide)
  simp only [ofTree?, hopen, hcallerPid.required? int32?_eq_some_iff.2,
    hcallerUid.required? int32?_eq_some_iff.2, hpid.required? int32?_eq_some_iff.2,
    huid.required? int32?_eq_some_iff.2, hreason.required? StateReason.ofTree?_of_form,
    Option.bind_eq_bind, Option.bind_some]

theorem writes_toTree (hfits : info.Fits) : info.toTree.Writes info.Form :=
  writes_record (.cons ⟨rfl, writes_int32 hfits.callerPid⟩
    (.cons ⟨rfl, writes_int32 hfits.callerUid⟩ (.cons ⟨rfl, writes_int32 hfits.pid⟩
      (.cons ⟨rfl, writes_int32 hfits.uid⟩
        (.cons ⟨rfl, StateReason.writes_toTree hfits.reason⟩ .nil)))))

theorem keeps : Wire.Keeps Fits Form := ⟨ofTree?_of_form, writes_toTree⟩

end ProcessStateInfo

namespace WindowInfo

variable {info : WindowInfo} {tree : Tree}

structure Fits (info : WindowInfo) : Prop where
  window : fitsUInt32 info.window
  pid : fitsInt32 info.pid
  uid : fitsInt32 info.uid

def Form (info : WindowInfo) : Tree → Prop :=
  FullForm [("window_id", UInt32Form info.window), ("pid", Int32Form info.pid),
    ("uid", Int32Form info.uid), ("is_visible", BoolForm info.isVisible)]

theorem ofTree?_of_form (hform : info.Form tree) : ofTree? tree = some info := by
  obtain ⟨record, hopen, hwindow, hpid, huid, (hvisible : record.Has _)⟩ :=
    FullForm.open? ["window_id", "pid", "uid", "is_visible"] hform rfl (by decide)
  simp only [ofTree?, hopen, hwindow.required? uint32?_eq_some_iff.2,
    hpid.required? int32?_eq_some_iff.2, huid.required? int32?_eq_some_iff.2,
    hvisible.required? bool?_eq_some_iff.2, Option.bind_eq_bind, Option.bind_some]

theorem writes_toTree (hfits : info.Fits) : info.toTree.Writes info.Form :=
  writes_record (.cons ⟨rfl, writes_uint32 hfits.window⟩ (.cons ⟨rfl, writes_int32 hfits.pid⟩
    (.cons ⟨rfl, writes_int32 hfits.uid⟩ (.cons ⟨rfl, writes_bool info.isVisible⟩ .nil))))

theorem keeps : Wire.Keeps Fits Form := ⟨ofTree?_of_form, writes_toTree⟩

end WindowInfo

namespace KillTarget

variable {target : KillTarget} {tree : Tree}

structure Fits (target : KillTarget) : Prop where
  minBuffer : fitsUInt64 target.minBuffer
  floor : fitsInt32 target.floor
  targetBuffer : fitsUInt64 target.targetBuffer
  level : fitsUInt32 target.level

def Form (target : KillTarget) : Tree → Prop :=
  FullForm [("min_buffer_kb", UInt64Form target.minBuffer),
    ("min_priority", Int32Form target.floor),
    ("target_buffer_kb", UInt64Form target.targetBuffer),
    ("kill_level", UInt32Form target.level)]

theorem ofTree?_of_form (hform : target.Form tree) : ofTree? tree = some target := by
  obtain ⟨record, hopen, hminBuffer, hfloor, htargetBuffer, (hlevel : record.Has _)⟩ :=
    FullForm.open? ["min_buffer_kb", "min_priority", "target_buffer_kb", "kill_level"] hform rfl
      (by decide)
  simp only [ofTree?, hopen, hminBuffer.required? uint64?_eq_some_iff.2,
    hfloor.required? int32?_eq_some_iff.2, htargetBuffer.required? uint64?_eq_some_iff.2,
    hlevel.required? uint32?_eq_some_iff.2, Option.bind_eq_bind, Option.bind_some]

theorem writes_toTree (hfits : target.Fits) : target.toTree.Writes target.Form :=
  writes_record (.cons ⟨rfl, writes_uint64 hfits.minBuffer⟩
    (.cons ⟨rfl, writes_int32 hfits.floor⟩ (.cons ⟨rfl, writes_uint64 hfits.targetBuffer⟩
      (.cons ⟨rfl, writes_uint32 hfits.level⟩ .nil))))

theorem keeps : Wire.Keeps Fits Form := ⟨ofTree?_of_form, writes_toTree⟩

end KillTarget

namespace CycleReport

variable {report : CycleReport} {tree : Tree}

structure Fits (report : CycleReport) : Prop where
  cycle : fitsUInt64 report.cycle
  available : ∀ available ∈ report.available, fitsUInt64 available
  target : ∀ target ∈ report.target, target.Fits
  kills : fitsUInt64 report.kills
  freed : fitsUInt64 report.freed

def Form (report : CycleReport) : Tree → Prop :=
  FullForm [("cycle", UInt64Form report.cycle),
    ("current_buffer_kb", OptionForm UInt64Form report.available),
    ("target", OptionForm KillTarget.Form report.target), ("kills", UInt64Form report.kills),
    ("freed_kb", UInt64Form report.freed),
    ("outcome", Wire.ChoiceForm CycleOutcome.wireName report.outcome)]

theorem ofTree?_of_form (hform : report.Form tree) : ofTree? tree = some report := by
  obtain ⟨record, hopen, hcycle, havailable, htarget, hkills, hfreed,
      (houtcome : record.Has _)⟩ :=
    FullForm.open? ["cycle", "current_buffer_kb", "target", "kills", "freed_kb", "outcome"] hform
      rfl (by decide)
  simp only [ofTree?, hopen, hcycle.required? uint64?_eq_some_iff.2,
    havailable.optional? uint64?_eq_some_iff.2 rfl,
    htarget.optional? KillTarget.ofTree?_of_form rfl, hkills.required? uint64?_eq_some_iff.2,
    hfreed.required? uint64?_eq_some_iff.2, houtcome.required? Wire.keeps_cycleOutcome.read,
    Option.bind_eq_bind, Option.bind_some]

theorem writes_toTree (hfits : report.Fits) : report.toTree.Writes report.Form :=
  writes_record (.cons ⟨rfl, writes_uint64 hfits.cycle⟩
    (.cons ⟨rfl, writes_option fun available havailable =>
        writes_uint64 (hfits.available available havailable)⟩
      (.cons ⟨rfl, writes_option fun target htarget =>
          KillTarget.writes_toTree (hfits.target target htarget)⟩
        (.cons ⟨rfl, writes_uint64 hfits.kills⟩ (.cons ⟨rfl, writes_uint64 hfits.freed⟩
          (.cons ⟨rfl, Wire.keeps_cycleOutcome.write trivial⟩ .nil))))))

theorem keeps : Wire.Keeps Fits Form := ⟨ofTree?_of_form, writes_toTree⟩

end CycleReport

namespace Wire

/-- Every type that crosses the boundary is read back from what is written for it, from an array
of its fields in the declared order, and from an object that has them in any order and among
members of other names, wherever white space stands and however the texts are escaped. -/
theorem values_survive :
    RoundTrips Identity.Fits Identity.Form ∧ RoundTrips UpdateRequest.Fits UpdateRequest.Form ∧
      RoundTrips (fun _ => True) (ChoiceForm Reason.wireName) ∧
      RoundTrips (fun _ => True) (ChoiceForm BundleState.wireName) ∧
      RoundTrips (fun _ => True) (ChoiceForm BindStatus.wireName) ∧
      RoundTrips (fun _ => True) (ChoiceForm AppState.wireName) ∧
      RoundTrips BundleSummary.Fits BundleSummary.Form ∧
      RoundTrips KillLevel.Fits KillLevel.Form ∧ RoundTrips KillTarget.Fits KillTarget.Form ∧
      RoundTrips (fun _ => True) (ChoiceForm CycleOutcome.wireName) ∧
      RoundTrips CycleReport.Fits CycleReport.Form ∧
      RoundTrips StateReason.Fits StateReason.Form ∧
      RoundTrips ProcessStateInfo.Fits ProcessStateInfo.Form ∧
      RoundTrips WindowInfo.Fits WindowInfo.Form ∧
      RoundTrips (fun _ => True) (ChoiceForm MemoryLevel.title) :=
  ⟨Identity.keeps.roundTrips, UpdateRequest.keeps.roundTrips, keeps_reason.roundTrips,
    keeps_bundleState.roundTrips, keeps_bindStatus.roundTrips, keeps_appState.roundTrips,
    BundleSummary.keeps.roundTrips, KillLevel.keeps.roundTrips, KillTarget.keeps.roundTrips,
    keeps_cycleOutcome.roundTrips, CycleReport.keeps.roundTrips, StateReason.keeps.roundTrips,
    ProcessStateInfo.keeps.roundTrips, WindowInfo.keeps.roundTrips, keeps_memoryLevel.roundTrips⟩

/-- An identity with the least number of its width and a character beyond sixteen bits, which
a text gives as two code units, with its fields out of order and among an unknown member. -/
theorem values_survive_identity :
    ofText? (render (Identity.mk (-2147483648) 1 "\"\x01😀")) =
        some (Identity.mk (-2147483648) 1 "\"\x01😀") ∧
      ofText? ("\x7b\"uid\":1,\"x\":null, \"pid\":-2147483648," ++
          "\"bundle_name\":\"\\ud83d\\ude00\"\x7d") =
        some (Identity.mk (-2147483648) 1 "😀") := by
  have hform : (Identity.mk (-2147483648) 1 "😀").Form (.object (membersOf
      [("uid", .ofInt 1), ("x", .null), ("pid", .ofInt (-2147483648)),
        ("bundle_name", .text [.unit 0xd83d, .unit 0xde00])])) :=
    .byName
      (.cons ⟨rfl, .number (Numeral.ofInt_isInteger (-2147483648)), by decide⟩
        (.cons ⟨rfl, .number (Numeral.ofInt_isInteger 1), by decide⟩
          (.cons ⟨rfl, .text (.pair ⟨by decide, by decide⟩ ⟨by decide, by decide⟩ .nil)⟩ .nil)))
      (named_membersOf _) (List.Perm.swap _ _ _)
  refine ⟨values_survive.1.of_render _ ⟨by decide, by decide⟩,
    values_survive.1.of_spells _ _ _ hform ?_⟩
  have hname : PiecesSpelled [.unit 0xd83d, .unit 0xde00] "\\ud83d\\ude00".toList :=
    .cons (spelled_writeUnit (by decide)) (.cons (spelled_writeUnit (by decide)) .nil)
  have hmembers := Spelled.token (spelled_writeText "uid") <| .token .colon <|
    .token (spelled_writeInteger 1) <| .token .comma <| .token (spelled_writeText "x") <|
    .token .colon <| .token .null <| .token .comma <| .space (show isSpace ' ' = true from rfl) <|
    .token (spelled_writeText "pid") <| .token .colon <|
    .token (spelled_writeInteger (-2147483648)) <| .token .comma <|
    .token (spelled_writeText "bundle_name") <| .token .colon <| .single (.text hname)
  exact Spelled.token .beginObject (hmembers.append (.single .endObject))

end Wire

end MemoryReclaim
