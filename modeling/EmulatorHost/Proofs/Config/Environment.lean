import EmulatorHost.Config
import EmulatorHost.Proofs.Path

/-!
# What the environment changes

Every setting but one has a variable of its own, and the environment changes a setting through that
variable alone: by what its text says for the setting, if the variable is set, not blank, and says
anything (`get_applyEnv`). Everything else follows from this equation, setting by setting. The paths
that follow from the root of the development kit are those without a setting of their own.
-/

namespace EmulatorHost.Config

inductive Setting where
  | listenAddr
  | adbServerAddr
  | adbPath
  | sdkRoot
  | avdHome
  | systemImageDir
  | consolePort
  | emulatorPorts
  | gpuMode
  | syslogSocket
  | deviceWaitSeconds
  | startsAdbServer
deriving DecidableEq

namespace Setting

def Content : Setting → Type
  | consolePort => UInt16
  | deviceWaitSeconds => Option UInt64
  | startsAdbServer => Bool
  | _ => String

def get (config : Config) : (setting : Setting) → setting.Content
  | listenAddr => config.listenAddr
  | adbServerAddr => config.adbServerAddr
  | adbPath => config.adbPath
  | sdkRoot => config.sdkRoot
  | avdHome => config.avdHome
  | systemImageDir => config.systemImageDir
  | consolePort => config.consolePort
  | emulatorPorts => config.emulatorPorts
  | gpuMode => config.gpuMode
  | syslogSocket => config.syslogSocket
  | deviceWaitSeconds => config.deviceWaitSeconds
  | startsAdbServer => config.startsAdbServer

def key? : Setting → Option String
  | listenAddr => some "DROIDAGENT_ADDR"
  | adbServerAddr => some "DROIDAGENT_ADB_SERVER"
  | adbPath => some "DROIDAGENT_ADB_PATH"
  | sdkRoot => some "ANDROID_SDK_ROOT"
  | avdHome => some "ANDROID_AVD_HOME"
  | systemImageDir => some "DROIDAGENT_SYSTEM_IMAGE"
  | consolePort => some "DROIDAGENT_CONSOLE_PORT"
  | emulatorPorts => none
  | gpuMode => some "DROIDAGENT_GPU_MODE"
  | syslogSocket => some "DROIDAGENT_SYSLOG_SOCKET"
  | deviceWaitSeconds => some "DROIDAGENT_DEVICE_WAIT_SECS"
  | startsAdbServer => some "DROIDAGENT_START_ADB"

/-- What a text says for a setting, if anything. Only numbers can fail to be said. -/
def read? : (setting : Setting) → String → Option setting.Content
  | consolePort, text => port? text
  | deviceWaitSeconds, text => (seconds? text).map some
  | startsAdbServer, text => some (isAffirmative text)
  | listenAddr, text | adbServerAddr, text | adbPath, text | sdkRoot, text | avdHome, text
  | systemImageDir, text | emulatorPorts, text | gpuMode, text | syslogSocket, text => some text

def told? (env : Environment) (setting : Setting) : Option setting.Content :=
  (setting.key?.bind env.nonBlank?).bind setting.read?

variable {config config' : Config} {env env' : Environment} {setting : Setting} {key : String}

/-- The settings are all there is to a configuration. -/
theorem ext_get (hall : ∀ setting, get config setting = get config' setting) : config = config' := by
  cases config
  cases config'
  congr
  · exact hall listenAddr
  · exact hall adbServerAddr
  · exact hall adbPath
  · exact hall sdkRoot
  · exact hall avdHome
  · exact hall systemImageDir
  · exact hall consolePort
  · exact hall emulatorPorts
  · exact hall gpuMode
  · exact hall syslogSocket
  · exact hall deviceWaitSeconds
  · exact hall startsAdbServer

/-- The root of the development kit shares its variable with no other setting. -/
theorem eq_sdkRoot_of_key? (hkey : setting.key? = some "ANDROID_SDK_ROOT") : setting = sdkRoot := by
  cases setting with
  | sdkRoot =>
      rfl
  | _ =>
      exact absurd hkey (by decide)

/-- A setting is what the environment says, and what it was before where that says nothing. -/
theorem get_applyEnv (config : Config) (env : Environment) (setting : Setting) :
    get (config.applyEnv env) setting = (told? env setting).getD (get config setting) := by
  cases setting with
  | consolePort | emulatorPorts =>
      rfl
  | deviceWaitSeconds =>
      -- The wait may be unset itself, so what was said before is kept inside the option.
      have hgives : ∀ text? : Option String, (text?.bind seconds?).or config.deviceWaitSeconds =
          (text?.bind fun text => (seconds? text).map some).getD config.deviceWaitSeconds := by
        rintro (_ | text)
        · rfl
        · show (seconds? text).or config.deviceWaitSeconds =
            ((seconds? text).map some).getD config.deviceWaitSeconds
          cases seconds? text <;> rfl
      exact hgives _
  | startsAdbServer =>
      exact congrArg (Option.getD · config.startsAdbServer) Option.map_eq_bind
  | _ =>
      exact congrArg (Option.getD · _) (Option.bind_fun_some _).symm

/-! ## What a variable says -/

theorem told?_of_key? (hkey : setting.key? = some key) :
    told? env setting = (env.nonBlank? key).bind setting.read? := by
  simp [told?, hkey]

theorem told?_of_set {text : String} (hkey : setting.key? = some key) (hset : env key = some text) :
    told? env setting = if Text.isBlankText text then none else setting.read? text := by
  have hvalue : env.nonBlank? key = if Text.isBlankText text then none else some text := by
    rw [Environment.nonBlank?, hset, Option.filter_some]
    cases Text.isBlankText text <;> rfl
  rw [told?_of_key? hkey, hvalue]
  cases Text.isBlankText text <;> rfl

/-- A variable says nothing if it is unset or blank, or holds no number where one is needed. -/
theorem told?_of_inert (hkey : setting.key? = some key)
    (hinert : env key = none ∨ ∃ text, env key = some text ∧
      ((∀ c ∈ text.toList, Text.isBlank c = true) ∨ setting.read? text = none)) :
    told? env setting = none := by
  rcases hinert with hunset | ⟨text, hset, hblank | hunread⟩
  · simp [told?_of_key? hkey, Environment.nonBlank?, hunset]
  · have hall : Text.isBlankText text = true := List.all_eq_true.mpr hblank
    rw [told?_of_set hkey hset, if_pos hall]
  · rw [told?_of_set hkey hset, hunread, ite_self]

theorem told?_of_plain {text : String} (hkey : setting.key? = some key) (hset : env key = some text)
    (hplain : ∃ c ∈ text.toList, Text.isBlank c = false) :
    told? env setting = setting.read? text := by
  have hall : Text.isBlankText text = false := List.all_eq_false.mpr (by simpa using hplain)
  rw [told?_of_set hkey hset, hall]
  rfl

/-- What is said for a setting is said by its own variable. -/
theorem told?_congr (hown : ∀ key ∈ setting.key?, env key = env' key) :
    told? env setting = told? env' setting := by
  cases hkey : setting.key? with
  | none =>
      simp [told?, hkey]
  | some key =>
      rw [told?_of_key? hkey, told?_of_key? hkey, Environment.nonBlank?, Environment.nonBlank?,
        hown key hkey]

end Setting

/-! ## Paths below the root of the development kit -/

inductive Location where
  -- The paths that lie below the root of the development kit, unless a setting of their own places
  -- them elsewhere.
  | adb
  | emulator
  | avdHome
  | systemImage

namespace Location

/-- The setting of its own, which is empty where there is none. -/
def own (config : Config) : Location → String
  | adb => config.adbPath
  | emulator => ""
  | avdHome => config.avdHome
  | systemImage => config.systemImageDir

def path (home : Option String) (config : Config) : Location → String
  | adb => config.adbBinary home
  | emulator => config.emulatorBinary home
  | avdHome => config.avdHomePath home
  | systemImage => config.systemImagePath home

def names : Location → List String
  | adb => ["platform-tools", "adb"]
  | emulator => ["emulator", "emulator"]
  | avdHome => ["home"]
  | systemImage => ["system-image"]

variable {home : Option String} {config config' : Config} {location : Location}

theorem path_eq (home : Option String) (config : Config) (location : Location) :
    location.path home config = config.underRoot home (location.own config) location.names := by
  cases location <;> rfl

theorem path_of_own (hown : location.own config ≠ "") :
    location.path home config = Path.expandUser home (location.own config) := by
  have hsome : (location.own config).isEmpty = false := by
    simpa using hown
  rw [path_eq, underRoot, hsome]
  rfl

theorem isPlain_names : ∀ name ∈ location.names, Path.IsPlain name.toList := by
  cases location <;> decide

/-- A path without a setting of its own lies below the root. -/
theorem components_path (hown : location.own config = "") :
    Path.components (location.path home config).toList =
      Path.components (config.sdkRootPath home).toList ++
        location.names.map fun name => Path.Component.name name.toList := by
  rw [path_eq, hown]
  exact Path.components_foldl_join isPlain_names (config.sdkRootPath home)

/-- The setting of its own is a setting other than the root. -/
theorem own_congr (hsame : ∀ setting : Setting, setting ≠ .sdkRoot →
    setting.get config = setting.get config') : location.own config = location.own config' := by
  cases location with
  | adb =>
      exact hsame .adbPath nofun
  | emulator =>
      rfl
  | avdHome =>
      exact hsame .avdHome nofun
  | systemImage =>
      exact hsame .systemImageDir nofun

end Location

/-- The environment changes each setting by the variable that is its own, and not at all where that
is unset or blank, or holds no number where one is needed; what it has changed once, it leaves
as it is. So another root of the development kit moves the paths below it to the new root, and
leaves all other settings and paths where they are. -/
theorem changes_by_own_variable (config : Config) (env : Environment) :
    (∀ (setting : Setting) (config' : Config) (env' : Environment),
        setting.get config' = setting.get config → (∀ key ∈ setting.key?, env' key = env key) →
        setting.get (config'.applyEnv env') = setting.get (config.applyEnv env)) ∧
      (config.applyEnv env).emulatorPorts = config.emulatorPorts ∧
      (∀ (setting : Setting) (key : String), setting.key? = some key →
        (env key = none ∨ ∃ text, env key = some text ∧
          ((∀ c ∈ text.toList, Text.isBlank c = true) ∨ setting.read? text = none)) →
        setting.get (config.applyEnv env) = setting.get config) ∧
      (∀ (setting : Setting) (key text : String) (content : setting.Content),
        setting.key? = some key → env key = some text →
        (∃ c ∈ text.toList, Text.isBlank c = false) → setting.read? text = some content →
        setting.get (config.applyEnv env) = content) ∧
      (config.applyEnv env).applyEnv env = config.applyEnv env ∧
      ∀ (env' : Environment) (home : Option String),
        (∀ key, key ≠ "ANDROID_SDK_ROOT" → env' key = env key) →
        (∀ setting : Setting, setting ≠ .sdkRoot →
          setting.get (config.applyEnv env') = setting.get (config.applyEnv env)) ∧
        ∀ location : Location,
          (location.own (config.applyEnv env') ≠ "" →
            location.path home (config.applyEnv env') =
              location.path home (config.applyEnv env)) ∧
          (location.own (config.applyEnv env') = "" →
            Path.components (location.path home (config.applyEnv env')).toList =
              Path.components ((config.applyEnv env').sdkRootPath home).toList ++
                location.names.map fun name => Path.Component.name name.toList) := by
  have hlocal : ∀ (setting : Setting) (config' : Config) (env' : Environment),
      setting.get config' = setting.get config → (∀ key ∈ setting.key?, env' key = env key) →
      setting.get (config'.applyEnv env') = setting.get (config.applyEnv env) := by
    intro setting config' env' hold hown
    rw [Setting.get_applyEnv, Setting.get_applyEnv, hold, Setting.told?_congr hown]
  refine ⟨hlocal, rfl, ?_, ?_, ?_, ?_⟩
  · intro setting key hkey hinert
    rw [Setting.get_applyEnv, Setting.told?_of_inert hkey hinert, Option.getD_none]
  · intro setting key text content hkey hset hplain hread
    rw [Setting.get_applyEnv, Setting.told?_of_plain hkey hset hplain, hread, Option.getD_some]
  · -- The second time, each setting is told what it holds already.
    refine Setting.ext_get fun setting => ?_
    rw [Setting.get_applyEnv, Setting.get_applyEnv]
    cases Setting.told? env setting <;> rfl
  · intro env' home hothers
    have hsame : ∀ setting : Setting, setting ≠ .sdkRoot →
        setting.get (config.applyEnv env') = setting.get (config.applyEnv env) := by
      intro setting hsetting
      refine hlocal setting config env' rfl fun key hkey => hothers key ?_
      rintro rfl
      exact hsetting (Setting.eq_sdkRoot_of_key? hkey)
    refine ⟨hsame, fun location => ⟨fun hown => ?_, Location.components_path⟩⟩
    have hstays : location.own (config.applyEnv env') = location.own (config.applyEnv env) :=
      Location.own_congr hsame
    rw [Location.path_of_own hown, hstays, Location.path_of_own (hstays ▸ hown)]

/-- An environment with a path for the daemon's binary, a port that is none, and a blank. -/
def kit (root : String) : Environment := fun key =>
  [("ANDROID_SDK_ROOT", root), ("DROIDAGENT_ADB_PATH", "~/adb"),
    ("DROIDAGENT_CONSOLE_PORT", "65536"), ("DROIDAGENT_GPU_MODE", " \t")].lookup key

/-- Of the paths under two roots, that of the daemon's binary is the same, and that of the virtual
devices has moved. -/
theorem changes_by_own_variable_otherRoot :
    (default.applyEnv (kit "/a")).consolePort = 8554 ∧
      (default.applyEnv (kit "/a")).gpuMode = "swiftshader_indirect" ∧
      (default.applyEnv (kit "/a")).adbPath = "~/adb" ∧
      (default.applyEnv (kit "~/b")).adbBinary (some "/h") =
        (default.applyEnv (kit "/a")).adbBinary (some "/h") ∧
      Path.components ((default.applyEnv (kit "~/b")).avdHomePath (some "/h")).toList =
        [.root, .name "h".toList, .name "b".toList, .name "home".toList] := by
  rcases changes_by_own_variable default (kit "/a") with ⟨-, -, hinert, htold, -, hroot⟩
  have hport := hinert .consolePort "DROIDAGENT_CONSOLE_PORT" rfl
    (Or.inr ⟨"65536", rfl, Or.inr (by decide)⟩)
  have hblank : ∀ c ∈ " \t".toList, Text.isBlank c = true := List.all_eq_true.mp (by decide)
  have hgpu := hinert .gpuMode "DROIDAGENT_GPU_MODE" rfl (Or.inr ⟨" \t", rfl, Or.inl hblank⟩)
  have hadb := htold .adbPath "DROIDAGENT_ADB_PATH" "~/adb" "~/adb" rfl rfl
    ⟨'a', by decide, by decide⟩ rfl
  have hothers : ∀ key, key ≠ "ANDROID_SDK_ROOT" → kit "~/b" key = kit "/a" key := by
    intro key hkey
    have hother : (key == "ANDROID_SDK_ROOT") = false := beq_eq_false_iff_ne.mpr hkey
    simp only [kit, List.lookup_cons, hother]
  rcases hroot (kit "~/b") (some "/h") hothers with ⟨-, hpaths⟩
  have hstays := (hpaths .adb).1 (by decide)
  have hmoves := (hpaths .avdHome).2 (by decide)
  have hplace : Path.components ((default.applyEnv (kit "~/b")).sdkRootPath (some "/h")).toList =
      [.root, .name "h".toList, .name "b".toList] := by
    decide
  rw [hplace] at hmoves
  exact ⟨hport, hgpu, hadb, hstays, hmoves⟩

end EmulatorHost.Config
