import Mathlib.Logic.ExistsUnique
import EtcdFleet.Settings.Layers

set_option autoImplicit false

/-!
# Which layer a setting comes from

Each setting is taken from its own variable, if the text there is valid for it, and otherwise from the file or the
defaults. The log format alone is switched off by a text that is not valid for it, even where the file has switched
it on.
-/

namespace EtcdFleet

inductive Setting
  | clusterResource
  | inspectionResource
  | clientPort
  | clusterDomain
  | caFile
  | certFile
  | keyFile
  | logLevel
  | logPath
  | rotation
  | jsonFormat
  deriving DecidableEq

namespace Setting

abbrev Value : Setting → Type
  | clusterResource | inspectionResource => ResourceKind
  | clientPort => UInt16
  | clusterDomain | logLevel => String
  | caFile | certFile | keyFile | logPath => Option String
  | rotation => Rotation
  | jsonFormat => Bool

def value : (setting : Setting) → Settings → setting.Value
  | clusterResource, settings => settings.clusterResource
  | inspectionResource, settings => settings.inspectionResource
  | clientPort, settings => settings.endpoints.clientPort
  | clusterDomain, settings => settings.endpoints.clusterDomain
  | caFile, settings => settings.probe.caFile
  | certFile, settings => settings.probe.certFile
  | keyFile, settings => settings.probe.keyFile
  | logLevel, settings => settings.logging.level
  | logPath, settings => settings.logging.filePath
  | rotation, settings => settings.logging.rotation
  | jsonFormat, settings => settings.logging.jsonFormat

def variableName? : Setting → Option String
  | clusterResource | inspectionResource | rotation => none
  | clientPort => some "KSTONE_CLIENT_PORT"
  | clusterDomain => some "KSTONE_CLUSTER_DOMAIN"
  | caFile => some "KSTONE_PROBE_CA_FILE"
  | certFile => some "KSTONE_PROBE_CERT_FILE"
  | keyFile => some "KSTONE_PROBE_KEY_FILE"
  | logLevel => some "KSTONE_LOG_LEVEL"
  | logPath => some "KSTONE_LOG_PATH"
  | jsonFormat => some "KSTONE_LOG_JSON"

def ofText? : (setting : Setting) → String → Option setting.Value
  | clusterResource, _ | inspectionResource, _ | rotation, _ => none
  | clientPort, text => Settings.port? text
  | clusterDomain, text | logLevel, text => some text
  | caFile, text | certFile, text | keyFile, text | logPath, text => some (some text)
  | jsonFormat, text => Text.truth? text

def text? (environment : StringMap) (setting : Setting) : Option String :=
  setting.variableName?.bind environment.find?

/-- The value of the variable, if it is set to a text that is valid for the setting. -/
def told? (environment : StringMap) (setting : Setting) : Option setting.Value :=
  (setting.text? environment).bind setting.ofText?

/-- The variable is set to a text that is not valid for the setting. -/
def Garbled (environment : StringMap) (setting : Setting) : Prop :=
  ∃ text, setting.text? environment = some text ∧ setting.ofText? text = none

/-- What becomes of a value below the environment when the variable is garbled. -/
def whenGarbled : (setting : Setting) → setting.Value → setting.Value
  | jsonFormat, _ => false
  | _, lower => lower

end Setting

namespace Settings

/-- The first place that holds anything holds a file whose text says these settings. -/
def SaidByFile (environment : StringMap) (files : Places) (settings : Settings) : Prop :=
  ∃ before path after text, places environment = before ++ path :: after ∧
    (∀ earlier ∈ before, files earlier = none) ∧ files path = some (.file text.toUTF8) ∧
    ofTomlText? text = some settings

/-- The settings under those of the environment: what the file says, or else the defaults. -/
def Below (environment : StringMap) (files : Places) (settings : Settings) : Prop :=
  SaidByFile environment files settings ∨
    (¬ ∃ said, SaidByFile environment files said) ∧ settings = initial

variable {environment : StringMap} {files : Places} {settings a b : Settings} {setting : Setting}
  {path name text : String} {stored : Stored}

/-! ## The file -/

theorem fromUTF8?_eq_some_iff {bytes : ByteArray} :
    String.fromUTF8? bytes = some text ↔ bytes = text.toUTF8 := by
  constructor
  · intro h
    unfold String.fromUTF8? at h
    split at h
    · obtain rfl := Option.some.inj h
      rfl
    · cases h
  · rintro rfl
    exact dif_pos text.isValidUTF8

theorem findFile?_eq_findSome? (files : Places) (paths : List String) :
    findFile? files paths = paths.findSome? fun path => (files path).map (path, ·) := by
  induction paths with
  | nil => rfl
  | cons path rest ih =>
    rw [findFile?, List.findSome?_cons, ih]
    cases files path <;> rfl

theorem findFile?_eq_some_iff {paths : List String} : findFile? files paths = some (path, stored) ↔
    ∃ before after, paths = before ++ path :: after ∧ (∀ earlier ∈ before, files earlier = none) ∧
      files path = some stored := by
  rw [findFile?_eq_findSome?, List.findSome?_eq_some_iff]
  constructor
  · rintro ⟨before, found, after, hpaths, hfound, hbefore⟩
    obtain ⟨held, hheld, heq⟩ := Option.map_eq_some_iff.1 hfound
    obtain ⟨rfl, rfl⟩ := Prod.mk.inj heq
    exact ⟨before, after, hpaths, fun earlier h => Option.map_eq_none_iff.1 (hbefore earlier h), hheld⟩
  · rintro ⟨before, after, hpaths, hbefore, hstored⟩
    refine ⟨before, path, after, hpaths, ?_, fun earlier h => Option.map_eq_none_iff.2 (hbefore earlier h)⟩
    rw [hstored]
    rfl

theorem fromFile_eq_ok_iff : fromFile path (some stored) = .ok settings ↔
    ∃ text : String, stored = .file text.toUTF8 ∧ ofTomlText? text = some settings := by
  cases stored with
  | directory => simp [fromFile]
  | file bytes =>
    rw [fromFile]
    constructor
    · intro h
      split at h
      · cases h
      · rename_i text hbytes
        split at h
        · cases h
        · rename_i read hread
          obtain rfl := Except.ok.inj h
          exact ⟨text, congrArg Stored.file (fromUTF8?_eq_some_iff.1 hbytes), hread⟩
    · rintro ⟨text, hbytes, hread⟩
      rw [fromUTF8?_eq_some_iff.2 (Stored.file.inj hbytes)]
      dsimp only
      rw [hread]

theorem saidByFile_iff (hfound : findFile? files (places environment) = some (path, stored)) :
    SaidByFile environment files settings ↔ fromFile path (some stored) = .ok settings := by
  rw [fromFile_eq_ok_iff]
  constructor
  · rintro ⟨before, other, after, text, hplaces, hbefore, hother, htext⟩
    rw [findFile?_eq_some_iff.2 ⟨before, after, hplaces, hbefore, hother⟩, Option.some_inj] at hfound
    obtain ⟨rfl, rfl⟩ := Prod.mk.inj hfound
    exact ⟨text, rfl, htext⟩
  · rintro ⟨text, rfl, htext⟩
    obtain ⟨before, after, hplaces, hbefore, hpath⟩ := findFile?_eq_some_iff.1 hfound
    exact ⟨before, path, after, text, hplaces, hbefore, hpath, htext⟩

theorem not_saidByFile_of_none (hnone : findFile? files (places environment) = none) :
    ¬ SaidByFile environment files settings := by
  rintro ⟨before, path, after, text, hplaces, hbefore, hpath, _⟩
  rw [findFile?_eq_some_iff.2 ⟨before, after, hplaces, hbefore, hpath⟩] at hnone
  cases hnone

theorem below_iff : Below environment files settings ↔
    settings = (belowEnvironment environment files).1 := by
  rw [Below, belowEnvironment]
  cases hfound : findFile? files (places environment) with
  | none => simp [not_saidByFile_of_none hfound]
  | some found =>
    obtain ⟨path, stored⟩ := found
    simp only [saidByFile_iff hfound]
    cases fromFile path (some stored) <;> simp [eq_comm]

/-! ## The environment -/

theorem ext_value (h : ∀ setting : Setting, setting.value a = setting.value b) : a = b := by
  obtain ⟨_, _, ⟨_, _⟩, ⟨_, _, _⟩, ⟨_, _, _, _⟩⟩ := a
  obtain ⟨_, _, ⟨_, _⟩, ⟨_, _, _⟩, ⟨_, _, _, _⟩⟩ := b
  obtain rfl := h .clusterResource
  obtain rfl := h .inspectionResource
  obtain rfl := h .clientPort
  obtain rfl := h .clusterDomain
  obtain rfl := h .caFile
  obtain rfl := h .certFile
  obtain rfl := h .keyFile
  obtain rfl := h .logLevel
  obtain rfl := h .logPath
  obtain rfl := h .rotation
  obtain rfl := h .jsonFormat
  rfl

theorem value_override (environment : StringMap) (settings : Settings) (setting : Setting) :
    setting.value (settings.override environment) =
      match setting.text? environment with
      | none => setting.value settings
      | some text => (setting.ofText? text).getD (setting.whenGarbled (setting.value settings)) := by
  cases setting with
  | clusterResource | inspectionResource | rotation => rfl
  | clientPort | clusterDomain | caFile | certFile | keyFile | logLevel | logPath | jsonFormat =>
    simp only [Setting.text?, Setting.variableName?, Option.bind_some, Setting.value, override]
    generalize environment.find? _ = held
    cases held <;> rfl

theorem whenGarbled_eq_iff : setting.whenGarbled (setting.value settings) = setting.value settings ↔
    ¬ (setting = .jsonFormat ∧ settings.logging.jsonFormat = true) := by
  cases setting <;> simp [Setting.whenGarbled, Setting.value]

theorem value_override_eq_iff : setting.value (settings.override environment) =
      (setting.told? environment).getD (setting.value settings) ↔
    ¬ (setting = .jsonFormat ∧ settings.logging.jsonFormat = true ∧ setting.Garbled environment) := by
  rw [value_override, Setting.told?, Setting.Garbled]
  cases setting.text? environment with
  | none => simp
  | some text =>
    cases hread : setting.ofText? text with
    | none => simp [hread, whenGarbled_eq_iff]
    | some told => simp [hread]

theorem jsonFormat_override_of_garbled (h : Setting.jsonFormat.Garbled environment) :
    (settings.override environment).logging.jsonFormat = false := by
  obtain ⟨text, htext, hread⟩ := h
  have hvalue := value_override environment settings .jsonFormat
  rw [htext] at hvalue
  dsimp only at hvalue
  rw [hread] at hvalue
  exact hvalue

/-! ## One more variable -/

theorem text?_insert_of_ne (h : setting.variableName? ≠ some name) :
    setting.text? (environment.insert name text) = setting.text? environment := by
  rw [Setting.text?, Setting.text?]
  cases hvariable : setting.variableName? with
  | none => rfl
  | some other =>
    have hne : other ≠ name := fun heq => h (heq ▸ hvariable)
    exact environment.find?_insert_of_ne text hne

theorem belowEnvironment_insert_of_ne (h : name ≠ "KSTONE_CONFIG") (text : String) :
    belowEnvironment (environment.insert name text) files = belowEnvironment environment files := by
  rw [belowEnvironment, places, environment.find?_insert_of_ne text (Ne.symm h), ← places, belowEnvironment]

theorem value_override_insert_of_ne (h : setting.variableName? ≠ some name) :
    setting.value (settings.override (environment.insert name text)) =
      setting.value (settings.override environment) := by
  rw [value_override, value_override, text?_insert_of_ne h]

theorem override_insert_of_invalid (hnew : environment.find? name = none)
    (h : ∀ setting : Setting, setting.variableName? = some name →
      setting.ofText? text = none ∧ setting ≠ .jsonFormat) :
    settings.override (environment.insert name text) = settings.override environment := by
  apply ext_value
  intro setting
  by_cases hvariable : setting.variableName? = some name
  · obtain ⟨hread, hformat⟩ := h setting hvariable
    have hold : setting.text? environment = none := by rw [Setting.text?, hvariable]; exact hnew
    have hgiven : setting.text? (environment.insert name text) = some text := by
      rw [Setting.text?, hvariable]
      exact environment.find?_insert_self name text
    rw [value_override, value_override, hold, hgiven]
    dsimp only
    rw [hread]
    exact whenGarbled_eq_iff.2 fun hboth => hformat hboth.1
  · exact value_override_insert_of_ne hvariable

/-- Every setting comes from the first layer that tells it, but for a log format that the file switches on and a
garbled variable switches off. -/
theorem settings_resolved_in_layers (environment : StringMap) (files : Places) :
    (∃! lower, Below environment files lower) ∧
    (∀ lower, Below environment files lower →
      (∀ setting : Setting,
        setting.value (load environment files).1 =
            (setting.told? environment).getD (setting.value lower) ↔
          ¬ (setting = .jsonFormat ∧ lower.logging.jsonFormat = true ∧ setting.Garbled environment)) ∧
      (Setting.jsonFormat.Garbled environment → (load environment files).1.logging.jsonFormat = false)) ∧
    (∀ name text, name ≠ "KSTONE_CONFIG" →
      ∀ setting : Setting, setting.variableName? ≠ some name →
        setting.value (load (environment.insert name text) files).1 =
          setting.value (load environment files).1) ∧
    ∀ name text, name ≠ "KSTONE_CONFIG" → environment.find? name = none →
      (∀ setting : Setting, setting.variableName? = some name →
        setting.ofText? text = none ∧ setting ≠ .jsonFormat) →
      load (environment.insert name text) files = load environment files := by
  refine ⟨⟨_, below_iff.2 rfl, fun _ => below_iff.1⟩, ?_, ?_, ?_⟩
  · intro lower hlower
    obtain rfl := below_iff.1 hlower
    exact ⟨fun _ => value_override_eq_iff, jsonFormat_override_of_garbled⟩
  · intro name text hname setting hvariable
    rw [load, load, belowEnvironment_insert_of_ne hname]
    exact value_override_insert_of_ne hvariable
  · intro name text hname hnew hinvalid
    rw [load, load, belowEnvironment_insert_of_ne hname]
    exact congrArg (·, _) (override_insert_of_invalid hnew hinvalid)

def fleetFile (text : String) : Places := fun path =>
  if path = "fleet.toml" then some (.file text.toUTF8) else none

/-- A variable, a file that says some of the settings, and defaults for the others; a port with a blank behind it is
as good as none. -/
theorem settings_resolved_in_layers_partly_filled :
    let environment :=
      (NameMap.empty.insert "KSTONE_CONFIG" "fleet.toml").insert "KSTONE_LOG_LEVEL" "debug"
    let files := fleetFile "[endpoints]\nclient_port = 4001\n\n[logging]\nlevel = \"warn\"\n"
    let lower : Settings :=
      { initial with
        endpoints := ⟨4001, "cluster.local"⟩
        logging := ⟨"warn", none, .daily, false⟩ }
    Below environment files lower ∧ environment.find? "KSTONE_CLIENT_PORT" = none ∧
      Setting.logLevel.value (load environment files).1 = "debug" ∧
      Setting.clientPort.value (load environment files).1 = (4001 : UInt16) ∧
      Setting.rotation.value (load environment files).1 = Rotation.daily ∧
      Setting.logLevel.value (load (environment.insert "KSTONE_LOG_JSON" "true") files).1 = "debug" ∧
      load (environment.insert "KSTONE_CLIENT_PORT" "4002 ") files = load environment files := by
  intro environment files lower
  have hlower : Below environment files lower := below_iff.2 (by decide +kernel)
  have hnew : environment.find? "KSTONE_CLIENT_PORT" = none := by decide
  obtain ⟨_, hlayers, hown, hinvalid⟩ := settings_resolved_in_layers environment files
  obtain ⟨hvalue, _⟩ := hlayers lower hlower
  have hother (setting : Setting) (hne : setting ≠ .jsonFormat) :=
    (hvalue setting).2 fun h => hne h.1
  have hlevel := hother .logLevel (by decide)
  have hblank : ∀ setting : Setting, setting.variableName? = some "KSTONE_CLIENT_PORT" →
      setting.ofText? "4002 " = none ∧ setting ≠ .jsonFormat := by
    intro setting hname
    cases setting with
    | clientPort => exact ⟨by decide, by decide⟩
    | _ => exact absurd hname (by decide)
  refine ⟨hlower, hnew, hlevel, hother .clientPort (by decide), hother .rotation (by decide), ?_, ?_⟩
  · exact (hown "KSTONE_LOG_JSON" "true" (by decide) .logLevel (by decide)).trans hlevel
  · exact hinvalid "KSTONE_CLIENT_PORT" "4002 " (by decide) hnew hblank

/-- The variable says nothing of the format, and yet what the file says of it is lost. -/
theorem exists_format_lost_to_garbled_variable :
    let environment :=
      (NameMap.empty.insert "KSTONE_CONFIG" "fleet.toml").insert "KSTONE_LOG_JSON" "TRUE"
    let files := fleetFile "[logging]\njson_format = true\n"
    ∃ lower, Below environment files lower ∧ Setting.jsonFormat.told? environment = none ∧
      Setting.jsonFormat.value lower = true ∧
      Setting.jsonFormat.value (load environment files).1 ≠
        (Setting.jsonFormat.told? environment).getD (Setting.jsonFormat.value lower) := by
  intro environment files
  exact ⟨_, below_iff.2 rfl, by decide, by decide +kernel, by decide +kernel⟩

end Settings
end EtcdFleet
