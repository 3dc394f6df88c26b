import EmulatorHost.Config
import EmulatorHost.Files
import EmulatorHost.JsonText.Printer
import EmulatorHost.JsonText.Reader

/-!
# The settings file

A JSON object with the settings by name, or an array with the first of them in order. Names that
are no settings are passed over; a setting that is given twice, or with a value of another kind,
makes the whole file invalid. An invalid file, like a missing one, means the defaults.
-/

namespace EmulatorHost.Config

open JsonText (Value Body)

def names : List String :=
  ["listen_addr", "adb_server_addr", "adb_path", "sdk_root", "avd_home", "system_image_dir",
    "console_port", "emulator_ports", "gpu_mode", "syslog_socket", "device_wait_timeout_secs",
    "start_adb_server"]

def portOf? (value : Value) : Option UInt16 :=
  (value.natural?.filter (· ≤ 0xffff)).map UInt16.ofNat

def secondsOf? (value : Value) : Option (Option UInt64) :=
  match value with
  | .null => some none
  | _ => (value.natural?.filter (· ≤ 0xffffffffffffffff)).map (some ∘ UInt64.ofNat)

/-- Gives a setting a value; nothing if the value is of another kind. -/
def set? (config : Config) (name : String) (value : Value) : Option Config :=
  match name with
  | "listen_addr" => value.text?.map fun listenAddr => { config with listenAddr }
  | "adb_server_addr" => value.text?.map fun adbServerAddr => { config with adbServerAddr }
  | "adb_path" => value.text?.map fun adbPath => { config with adbPath }
  | "sdk_root" => value.text?.map fun sdkRoot => { config with sdkRoot }
  | "avd_home" => value.text?.map fun avdHome => { config with avdHome }
  | "system_image_dir" => value.text?.map fun systemImageDir => { config with systemImageDir }
  | "console_port" => (portOf? value).map fun consolePort => { config with consolePort }
  | "emulator_ports" => value.text?.map fun emulatorPorts => { config with emulatorPorts }
  | "gpu_mode" => value.text?.map fun gpuMode => { config with gpuMode }
  | "syslog_socket" => value.text?.map fun syslogSocket => { config with syslogSocket }
  | "device_wait_timeout_secs" =>
    (secondsOf? value).map fun deviceWaitSeconds => { config with deviceWaitSeconds }
  | "start_adb_server" => value.bool?.map fun startsAdbServer => { config with startsAdbServer }
  | _ => some config

/-- Takes the members of an object one by one, given the settings that have had their value. -/
def ofMembers? (seen : List String) (config : Config) : List (Body × Value) → Option Config
  | [] => some config
  | (body, value) :: rest => do
    let name ← body.text?
    if seen.contains name then none
    else
      let config ← config.set? name value
      -- A name that is no setting may come any number of times.
      ofMembers? (if names.contains name then name :: seen else seen) config rest

/-- Takes the items of an array for the settings in order; there may be fewer items than settings,
but not more. -/
def ofItems? (config : Config) : List String → List Value → Option Config
  | _, [] => some config
  | [], _ :: _ => none
  | name :: names, value :: values => do
    let config ← config.set? name value
    ofItems? config names values

def ofValue? : Value → Option Config
  | .object members => ofMembers? [] default members
  | .array items => ofItems? default names items
  | _ => none

def ofBytes? (content : Bytes) : Option Config := do
  let text ← Utf8.decode? content
  ofValue? (← JsonText.parse? text)

def loadFile (files : Files) (path : String) : Config :=
  match files.read path with
  | .ok content => (ofBytes? content).getD default
  | .error _ => default

/-- The settings in the file that the environment names, and in the environment itself. -/
def load (files : Files) (home : Option String) (env : Environment) : Config :=
  (loadFile files (filePath home env)).applyEnv env

def toValue (config : Config) : Value :=
  .ofMembers [
    ("listen_addr", .ofText config.listenAddr),
    ("adb_server_addr", .ofText config.adbServerAddr),
    ("adb_path", .ofText config.adbPath),
    ("sdk_root", .ofText config.sdkRoot),
    ("avd_home", .ofText config.avdHome),
    ("system_image_dir", .ofText config.systemImageDir),
    ("console_port", .ofNat config.consolePort.toNat),
    ("emulator_ports", .ofText config.emulatorPorts),
    ("gpu_mode", .ofText config.gpuMode),
    ("syslog_socket", .ofText config.syslogSocket),
    ("device_wait_timeout_secs",
      match config.deviceWaitSeconds with
      | some seconds => .ofNat seconds.toNat
      | none => .null),
    ("start_adb_server", .bool config.startsAdbServer)]

def render (config : Config) : String :=
  config.toValue.render .compact

end EmulatorHost.Config
