import MemoryReclaim.Proofs.Json.Overlay
import MemoryReclaim.Proofs.Wire

/-!
# Configuration documents overlay the defaults

A configuration document says some settings, each at most once.  It is read as the default
configuration with exactly these settings in place of the default ones, the settings of the
pressure monitor again among themselves.  A setting said twice, or with a value that is none
of its values, makes the whole document a fault: nothing falls back to a default silently.
-/

namespace MemoryReclaim

open MemoryReclaim.Json

variable {tree : Tree}

/-! ## Settings of the pressure monitor -/

inductive PressureSetting
  | enabled (value : Bool)
  | interval (value : Nat)
  | threshold (value : Float)

namespace PressureSetting

def names : List String := ["enabled", "poll_interval_ms", "some_avg10_threshold"]

def name : PressureSetting → String
  | .enabled _ => "enabled"
  | .interval _ => "poll_interval_ms"
  | .threshold _ => "some_avg10_threshold"

def Form : PressureSetting → Tree → Prop
  | .enabled value => BoolForm value
  | .interval value => UInt64Form value
  | .threshold value => FloatForm value

def apply : PressureSetting → PressureSettings → PressureSettings
  | .enabled value, settings => { settings with enabled := value }
  | .interval value, settings => { settings with interval := value }
  | .threshold value, settings => { settings with threshold := value }

def overlay : Overlay PressureSetting PressureSettings := ⟨name, Form, apply⟩

theorem controls_enabled :
    overlay.Controls "enabled" PressureSettings.enabled Tree.bool? .default :=
  Overlay.controls_of_own .enabled (fun _ => rfl) (fun _ _ => rfl)
    (fun _ _ => bool?_eq_some_iff) fun setting => by
      cases setting with
      | enabled value => exact .inl ⟨value, rfl⟩
      | _ => exact .inr ⟨by simp [overlay, name], fun _ => rfl⟩

theorem controls_interval :
    overlay.Controls "poll_interval_ms" PressureSettings.interval Tree.uint64? .default :=
  Overlay.controls_of_own .interval (fun _ => rfl) (fun _ _ => rfl)
    (fun _ _ => uint64?_eq_some_iff) fun setting => by
      cases setting with
      | interval value => exact .inl ⟨value, rfl⟩
      | _ => exact .inr ⟨by simp [overlay, name], fun _ => rfl⟩

theorem controls_threshold :
    overlay.Controls "some_avg10_threshold" PressureSettings.threshold Tree.float? .default :=
  Overlay.controls_of_own .threshold (fun _ => rfl) (fun _ _ => rfl)
    (fun _ _ => float?_eq_some_iff) fun setting => by
      cases setting with
      | threshold value => exact .inl ⟨value, rfl⟩
      | _ => exact .inr ⟨by simp [overlay, name], fun _ => rfl⟩

end PressureSetting

namespace PressureSettings

open PressureSetting (overlay names)

theorem ofTree?_of_gives {settings : List PressureSetting}
    (hgives : overlay.Gives names settings tree) :
    ofTree? tree = some (overlay.applyAll settings default) := by
  obtain ⟨record, hopen, hhas, hothers⟩ := hgives.open?
  rw [names] at hopen
  have hdistinct := hgives.distinct
  simp only [ofTree?, hopen,
    PressureSetting.controls_enabled.withDefault? hdistinct hhas hothers,
    PressureSetting.controls_interval.withDefault? hdistinct hhas hothers,
    PressureSetting.controls_threshold.withDefault? hdistinct hhas hothers,
    Option.bind_eq_bind, Option.bind_some]

theorem ofTree?_eq_some_iff {pressure : PressureSettings} :
    ofTree? tree = some pressure ↔
      ∃ settings, overlay.Gives names settings tree ∧
        overlay.applyAll settings default = pressure := by
  constructor
  · intro hread
    have hrecord := hread
    simp only [ofTree?, Option.bind_eq_bind, Option.bind_eq_some_iff] at hrecord
    obtain ⟨record, hopen, enabled, henabled, interval, hinterval, threshold, hthreshold, -⟩ :=
      hrecord
    have hsettings : ∀ name ∈ names, ∀ part, record.find? name = some part →
        ∃ setting, overlay.name setting = name ∧ overlay.form setting part := by
      simp only [names, List.forall_mem_cons]
      exact ⟨PressureSetting.controls_enabled.exists_setting henabled,
        PressureSetting.controls_interval.exists_setting hinterval,
        PressureSetting.controls_threshold.exists_setting hthreshold, by simp⟩
    obtain ⟨settings, hgives⟩ :=
      Overlay.exists_gives (opened_of_open? hopen) (by decide) hsettings
    exact ⟨settings, hgives, Option.some.inj ((ofTree?_of_gives hgives).symm.trans hread)⟩
  · rintro ⟨settings, hgives, rfl⟩
    exact ofTree?_of_gives hgives

end PressureSettings

/-! ## Settings -/

namespace KillLevel

theorem ofTree?_eq_some_iff {level : KillLevel} : ofTree? tree = some level ↔ level.Form tree :=
  ⟨form_of_ofTree?, ofTree?_of_form⟩

end KillLevel

/-- Floors under the names of applications; the last one given for a name counts. -/
inductive FloorsForm (floors : OrdMap String Priority) : Tree → Prop
  | members {members : List (List Piece × Tree)} {named : List (String × Tree)}
      {pairs : List (String × Priority)} (hnamed : Named members named)
      (hpairs : List.Forall₂ (fun member pair => member.1 = pair.1 ∧ Int32Form pair.2 member.2)
        named pairs)
      (hlast : ∀ name, floors.get? name = pairs.reverse.lookup name) :
      FloorsForm floors (.object members)

theorem Config.floors?_eq_some_iff {floors : OrdMap String Priority} :
    Config.floors? tree = some floors ↔ FloorsForm floors tree := by
  have hpair : ∀ (member : String × Tree) (pair : String × Priority),
      (member.2.int32?.map fun floor => (member.1, floor)) = some pair ↔
        member.1 = pair.1 ∧ Int32Form pair.2 member.2 := by
    intro member pair
    rw [Option.map_eq_some_iff, ← int32?_eq_some_iff]
    constructor
    · rintro ⟨floor, hfloor, rfl⟩
      exact ⟨rfl, hfloor⟩
    · rintro ⟨hname, hfloor⟩
      exact ⟨pair.2, hfloor, Prod.ext hname rfl⟩
  have hread : Config.floors? tree = some floors ↔ ∃ named pairs, tree.members? = some named ∧
      List.Forall₂ (fun member pair => member.1 = pair.1 ∧ Int32Form pair.2 member.2) named pairs ∧
      OrdMap.ofList pairs = floors := by
    simp only [Config.floors?, Option.bind_eq_bind, Option.bind_eq_some_iff, mapM_eq_some_iff,
      hpair, Option.some.injEq]
    constructor
    · rintro ⟨named, hnamed, pairs, hpairs, hfloors⟩
      exact ⟨named, pairs, hnamed, hpairs, hfloors⟩
    · rintro ⟨named, pairs, hnamed, hpairs, hfloors⟩
      exact ⟨named, hnamed, pairs, hpairs, hfloors⟩
  rw [hread]
  constructor
  · rintro ⟨named, pairs, hnamed, hpairs, rfl⟩
    obtain ⟨members, rfl, hmembers⟩ := members?_eq_some_iff.1 hnamed
    exact .members hmembers hpairs (OrdMap.get?_ofList pairs)
  · rintro ⟨hnamed, hpairs, hlast⟩
    refine ⟨_, _, members?_eq_some_iff.2 ⟨_, rfl, hnamed⟩, hpairs, ?_⟩
    exact OrdMap.ext_get? fun name => (OrdMap.get?_ofList _ name).trans (hlast name).symm

inductive Setting
  | killLevels (levels : List KillLevel)
  | graceWindow (value : Seconds)
  | protection (value : Seconds)
  | maxKills (value : Nat)
  | floors (value : OrdMap String Priority)
  | windowManager (uid : Uid)
  | foundation (uid : Uid)
  | cameraService (uid : Uid)
  | pressure (settings : List PressureSetting)

namespace Setting

def name : Setting → String
  | .killLevels _ => "kill_levels"
  | .graceWindow _ => "ability_start_window_secs"
  | .protection _ => "kill_protect_secs"
  | .maxKills _ => "max_kill_count_per_event"
  | .floors _ => "important_bundles"
  | .windowManager _ => "window_manager_uid"
  | .foundation _ => "foundation_uid"
  | .cameraService _ => "camera_service_uid"
  | .pressure _ => "psi"

def Form : Setting → Tree → Prop
  | .killLevels levels => ListForm KillLevel.Form levels
  | .graceWindow value | .protection value | .maxKills value => UInt64Form value
  | .floors value => FloorsForm value
  | .windowManager uid | .foundation uid | .cameraService uid => Int32Form uid
  | .pressure settings => PressureSetting.overlay.Gives PressureSetting.names settings

def apply : Setting → Config → Config
  | .killLevels levels, config => { config with killLevels := levels }
  | .graceWindow value, config => { config with graceWindow := value }
  | .protection value, config => { config with protection := value }
  | .maxKills value, config => { config with maxKills := value }
  | .floors value, config => { config with floors := value }
  | .windowManager uid, config => { config with windowManager := uid }
  | .foundation uid, config => { config with foundation := uid }
  | .cameraService uid, config => { config with cameraService := uid }
  | .pressure settings, config =>
      { config with pressure := PressureSetting.overlay.applyAll settings config.pressure }

def overlay : Overlay Setting Config := ⟨name, Form, apply⟩

theorem controls_killLevels :
    overlay.Controls "kill_levels" Config.killLevels (Tree.list? KillLevel.ofTree?) .default :=
  Overlay.controls_of_own .killLevels (fun _ => rfl) (fun _ _ => rfl)
    (fun _ _ => list?_eq_some_iff fun _ _ => KillLevel.ofTree?_eq_some_iff) fun setting => by
      cases setting with
      | killLevels levels => exact .inl ⟨levels, rfl⟩
      | _ => exact .inr ⟨by simp [overlay, name], fun _ => rfl⟩

theorem controls_graceWindow :
    overlay.Controls "ability_start_window_secs" Config.graceWindow Tree.uint64? .default :=
  Overlay.controls_of_own .graceWindow (fun _ => rfl) (fun _ _ => rfl)
    (fun _ _ => uint64?_eq_some_iff) fun setting => by
      cases setting with
      | graceWindow value => exact .inl ⟨value, rfl⟩
      | _ => exact .inr ⟨by simp [overlay, name], fun _ => rfl⟩

theorem controls_protection :
    overlay.Controls "kill_protect_secs" Config.protection Tree.uint64? .default :=
  Overlay.controls_of_own .protection (fun _ => rfl) (fun _ _ => rfl)
    (fun _ _ => uint64?_eq_some_iff) fun setting => by
      cases setting with
      | protection value => exact .inl ⟨value, rfl⟩
      | _ => exact .inr ⟨by simp [overlay, name], fun _ => rfl⟩

theorem controls_maxKills :
    overlay.Controls "max_kill_count_per_event" Config.maxKills Tree.uint64? .default :=
  Overlay.controls_of_own .maxKills (fun _ => rfl) (fun _ _ => rfl)
    (fun _ _ => uint64?_eq_some_iff) fun setting => by
      cases setting with
      | maxKills value => exact .inl ⟨value, rfl⟩
      | _ => exact .inr ⟨by simp [overlay, name], fun _ => rfl⟩

theorem controls_floors :
    overlay.Controls "important_bundles" Config.floors Config.floors? .default :=
  Overlay.controls_of_own .floors (fun _ => rfl) (fun _ _ => rfl)
    (fun _ _ => Config.floors?_eq_some_iff) fun setting => by
      cases setting with
      | floors value => exact .inl ⟨value, rfl⟩
      | _ => exact .inr ⟨by simp [overlay, name], fun _ => rfl⟩

theorem controls_windowManager :
    overlay.Controls "window_manager_uid" Config.windowManager Tree.int32? .default :=
  Overlay.controls_of_own .windowManager (fun _ => rfl) (fun _ _ => rfl)
    (fun _ _ => int32?_eq_some_iff) fun setting => by
      cases setting with
      | windowManager uid => exact .inl ⟨uid, rfl⟩
      | _ => exact .inr ⟨by simp [overlay, name], fun _ => rfl⟩

theorem controls_foundation :
    overlay.Controls "foundation_uid" Config.foundation Tree.int32? .default :=
  Overlay.controls_of_own .foundation (fun _ => rfl) (fun _ _ => rfl)
    (fun _ _ => int32?_eq_some_iff) fun setting => by
      cases setting with
      | foundation uid => exact .inl ⟨uid, rfl⟩
      | _ => exact .inr ⟨by simp [overlay, name], fun _ => rfl⟩

theorem controls_cameraService :
    overlay.Controls "camera_service_uid" Config.cameraService Tree.int32? .default :=
  Overlay.controls_of_own .cameraService (fun _ => rfl) (fun _ _ => rfl)
    (fun _ _ => int32?_eq_some_iff) fun setting => by
      cases setting with
      | cameraService uid => exact .inl ⟨uid, rfl⟩
      | _ => exact .inr ⟨by simp [overlay, name], fun _ => rfl⟩

theorem controls_pressure :
    overlay.Controls "psi" Config.pressure PressureSettings.ofTree? .default where
  read {setting config _} hname huntouched hform := by
    cases setting with
    | pressure settings =>
        refine (PressureSettings.ofTree?_of_gives hform).trans (congrArg some ?_)
        exact congrArg (PressureSetting.overlay.applyAll settings) huntouched.symm
    | _ => simp [overlay, name] at hname
  found hread := by
    obtain ⟨settings, hgives, -⟩ := PressureSettings.ofTree?_eq_some_iff.1 hread
    exact ⟨.pressure settings, rfl, hgives⟩
  other {setting} hname _ := by
    cases setting with
    | pressure _ => exact absurd rfl hname
    | _ => rfl

end Setting

/-! ## Documents -/

namespace Config

open Setting (overlay)

variable {config : Config} {settings : List Setting}

theorem ofTree?_of_gives (hgives : overlay.Gives fieldNames settings tree) :
    ofTree? tree = some (overlay.applyAll settings default) := by
  obtain ⟨record, hopen, hhas, hothers⟩ := hgives.open?
  have hdistinct := hgives.distinct
  simp only [ofTree?, hopen, Setting.controls_killLevels.withDefault? hdistinct hhas hothers,
    Setting.controls_graceWindow.withDefault? hdistinct hhas hothers,
    Setting.controls_protection.withDefault? hdistinct hhas hothers,
    Setting.controls_maxKills.withDefault? hdistinct hhas hothers,
    Setting.controls_floors.withDefault? hdistinct hhas hothers,
    Setting.controls_windowManager.withDefault? hdistinct hhas hothers,
    Setting.controls_foundation.withDefault? hdistinct hhas hothers,
    Setting.controls_cameraService.withDefault? hdistinct hhas hothers,
    Setting.controls_pressure.withDefault? hdistinct hhas hothers,
    Option.bind_eq_bind, Option.bind_some]

/-- What is read as a configuration is some settings over the defaults. -/
theorem ofTree?_eq_some_iff : ofTree? tree = some config ↔
    ∃ settings, overlay.Gives fieldNames settings tree ∧
      overlay.applyAll settings default = config := by
  constructor
  · intro hread
    have hrecord := hread
    simp only [ofTree?, Option.bind_eq_bind, Option.bind_eq_some_iff] at hrecord
    obtain ⟨record, hopen, killLevels, hkillLevels, graceWindow, hgraceWindow, protection,
      hprotection, maxKills, hmaxKills, floors, hfloors, windowManager, hwindowManager, foundation,
      hfoundation, cameraService, hcameraService, pressure, hpressure, -⟩ := hrecord
    have hsettings : ∀ name ∈ fieldNames, ∀ part, record.find? name = some part →
        ∃ setting, overlay.name setting = name ∧ overlay.form setting part := by
      simp only [fieldNames, List.forall_mem_cons]
      exact ⟨Setting.controls_killLevels.exists_setting hkillLevels,
        Setting.controls_graceWindow.exists_setting hgraceWindow,
        Setting.controls_protection.exists_setting hprotection,
        Setting.controls_maxKills.exists_setting hmaxKills,
        Setting.controls_floors.exists_setting hfloors,
        Setting.controls_windowManager.exists_setting hwindowManager,
        Setting.controls_foundation.exists_setting hfoundation,
        Setting.controls_cameraService.exists_setting hcameraService,
        Setting.controls_pressure.exists_setting hpressure, by simp⟩
    obtain ⟨settings, hgives⟩ :=
      Overlay.exists_gives (opened_of_open? hopen) (by decide) hsettings
    exact ⟨settings, hgives, Option.some.inj ((ofTree?_of_gives hgives).symm.trans hread)⟩
  · rintro ⟨settings, hgives, rfl⟩
    exact ofTree?_of_gives hgives

theorem ofText_of_spells {text : String} (hspells : tree.Spells text.toList)
    (hread : ofTree? tree = some config) : ofText text = .ok config := by
  rw [ofText, ofText?, ofText?_of_spells hspells, Option.bind_some, hread]

theorem ofText_error {text : String} (hspells : tree.Spells text.toList)
    (hrefused : ∀ settings, ¬ overlay.Gives fieldNames settings tree) :
    ∃ reason, ofText text = .error (.configuration reason) := by
  have hnone : ofTree? tree = none := by
    rw [Option.eq_none_iff_forall_ne_some]
    intro config hread
    obtain ⟨settings, hgives, -⟩ := ofTree?_eq_some_iff.1 hread
    exact hrefused settings hgives
  rw [ofText, ofText?, ofText?_of_spells hspells, Option.bind_some, hnone]
  exact ⟨_, rfl⟩

/-- A document that gives settings, none of them twice, in any order and among any other
members, is read as the defaults with just these settings in place of theirs.  One that gives a
setting twice or as none of its values, be it a setting of the pressure monitor, is a fault. -/
theorem documents_overlay_defaults (text : String) (members : List (List Piece × Tree))
    (hspells : (Tree.object members).Spells text.toList) :
    (∀ settings, overlay.Gives fieldNames settings (.object members) →
      ofText text = .ok (overlay.applyAll settings default)) ∧
    (∀ name ∈ fieldNames, overlay.Misgiven name members →
      ∃ reason, ofText text = .error (.configuration reason)) ∧
    ∀ key inner, (key, .object inner) ∈ members → Denotes key "psi".toList →
      ∀ name ∈ PressureSetting.names, PressureSetting.overlay.Misgiven name inner →
        ∃ reason, ofText text = .error (.configuration reason) := by
  have hfault : ∀ name ∈ fieldNames, overlay.Misgiven name members →
      ∃ reason, ofText text = .error (.configuration reason) := fun name hname hmisgiven =>
    ofText_error hspells fun _ => hmisgiven.not_gives hname
  refine ⟨fun settings hgives => ofText_of_spells hspells (ofTree?_of_gives hgives), hfault,
    fun key inner hmember hkey name hname hmisgiven => hfault "psi" (by decide) ?_⟩
  refine .unreadable hmember hkey fun setting hpressure hform => ?_
  cases setting with
  | pressure settings => exact hmisgiven.not_gives hname hform
  | _ => simp [overlay, Setting.name] at hpressure

/-- A document with an unknown member, one that gives a setting twice, and one that gives a
setting of the pressure monitor as a number. -/
theorem documents_overlay_defaults_protection :
    ofText ("\x7b\"x\":null,\"psi\":\x7b\"enabled\":false\x7d," ++
        "\"kill_protect_secs\": 7\x7d") =
      .ok { default with
        protection := 7
        pressure := { PressureSettings.default with enabled := false } } ∧
    (∃ reason, ofText "\x7b\"foundation_uid\":1,\"foundation_uid\":1\x7d" =
      .error (.configuration reason)) ∧
    ∃ reason, ofText "\x7b\"psi\":\x7b\"enabled\":7\x7d\x7d" = .error (.configuration reason) := by
  refine ⟨?_, ?_, ?_⟩
  · have henabled : Given (PressureSetting.overlay.fields [.enabled false])
        [("enabled", .bool false)] := .cons ⟨rfl, .bool⟩ .nil
    have hpressure : PressureSetting.overlay.Gives PressureSetting.names [.enabled false]
        (.object (membersOf [("enabled", .bool false)])) :=
      ⟨by decide, .byName henabled (named_membersOf _) (List.Perm.refl _)⟩
    have hgiven : Given (overlay.fields [.pressure [.enabled false], .protection 7])
        [("psi", .object (membersOf [("enabled", .bool false)])),
          ("kill_protect_secs", .ofInt 7)] :=
      .cons ⟨rfl, hpressure⟩
        (.cons ⟨rfl, .number (Numeral.ofInt_isInteger 7), by decide⟩ .nil)
    have hgives : overlay.Gives fieldNames [.pressure [.enabled false], .protection 7]
        (.object (membersOf [("x", .null),
          ("psi", .object (membersOf [("enabled", .bool false)])),
          ("kill_protect_secs", .ofInt 7)])) :=
      ⟨by decide, .byName hgiven (named_membersOf _) (List.Perm.refl _)⟩
    refine (documents_overlay_defaults _ _ ?_).1 _ hgives
    exact .token .beginObject <| .token (spelled_writeText "x") <| .token .colon <|
      .token .null <| .token .comma <| .token (spelled_writeText "psi") <| .token .colon <|
      .token .beginObject <| .token (spelled_writeText "enabled") <| .token .colon <|
      .token .isFalse <| .token .endObject <| .token .comma <|
      .token (spelled_writeText "kill_protect_secs") <| .token .colon <|
      .space (show isSpace ' ' = true from rfl) <| .token (spelled_writeInteger 7) <|
      .single .endObject
  · refine (documents_overlay_defaults _
      (membersOf [("foundation_uid", .ofInt 1), ("foundation_uid", .ofInt 1)]) ?_).2.1
      "foundation_uid" (by decide)
      (.twice (List.Sublist.refl _) (denotes_asWritten _) (denotes_asWritten _))
    exact .token .beginObject <| .token (spelled_writeText "foundation_uid") <| .token .colon <|
      .token (spelled_writeInteger 1) <| .token .comma <|
      .token (spelled_writeText "foundation_uid") <| .token .colon <|
      .token (spelled_writeInteger 1) <| .single .endObject
  · refine (documents_overlay_defaults _
      (membersOf [("psi", .object (membersOf [("enabled", .ofInt 7)]))]) ?_).2.2 _ _
      List.mem_cons_self (denotes_asWritten "psi") "enabled" (by decide)
      (.unreadable List.mem_cons_self (denotes_asWritten "enabled") fun setting _ hform => ?_)
    · exact .token .beginObject <| .token (spelled_writeText "psi") <| .token .colon <|
        .token .beginObject <| .token (spelled_writeText "enabled") <| .token .colon <|
        .token (spelled_writeInteger 7) <| .token .endObject <| .single .endObject
    · cases setting with
      | enabled value => cases hform
      | _ => simp_all [PressureSetting.overlay, PressureSetting.name]

end Config

end MemoryReclaim
