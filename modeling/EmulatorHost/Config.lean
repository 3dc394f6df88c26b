import EmulatorHost.Path
import EmulatorHost.Text.Blank
import EmulatorHost.Text.Numeral

/-!
# Settings of the host

The settings, their defaults, what the environment changes in them, and the paths that follow from
them. Each setting that the environment can change has a variable of its own; a variable that is
missing or blank, or that holds no number where one is needed, changes nothing.
-/

namespace EmulatorHost

abbrev Environment := String → Option String

namespace Environment

def nonBlank? (env : Environment) (key : String) : Option String :=
  (env key).filter fun value => !Text.isBlankText value

end Environment

/-- The settings. An empty path follows from the root of the development kit. -/
structure Config where
  listenAddr : String := "0.0.0.0:8080"
  adbServerAddr : String := "127.0.0.1:5037"
  adbPath : String := ""
  sdkRoot : String := "/android"
  avdHome : String := ""
  systemImageDir : String := ""
  consolePort : UInt16 := 8554
  emulatorPorts : String := "5556,5557"
  gpuMode : String := "swiftshader_indirect"
  syslogSocket : String := "/tmp/sys-shell.sock"
  deviceWaitSeconds : Option UInt64 := none
  startsAdbServer : Bool := true
deriving DecidableEq, Repr, Inhabited

namespace Config

def default : Config := {}

def port? (text : String) : Option UInt16 :=
  (Numeral.upTo? 0xffff 10 text).map UInt16.ofNat

def seconds? (text : String) : Option UInt64 :=
  (Numeral.upTo? 0xffffffffffffffff 10 text).map UInt64.ofNat

/-- Only three words say no. -/
def isAffirmative (text : String) : Bool :=
  !(text == "0" || text == "false" || text == "no")

def applyEnv (config : Config) (env : Environment) : Config where
  listenAddr := (env.nonBlank? "DROIDAGENT_ADDR").getD config.listenAddr
  adbServerAddr := (env.nonBlank? "DROIDAGENT_ADB_SERVER").getD config.adbServerAddr
  adbPath := (env.nonBlank? "DROIDAGENT_ADB_PATH").getD config.adbPath
  sdkRoot := (env.nonBlank? "ANDROID_SDK_ROOT").getD config.sdkRoot
  avdHome := (env.nonBlank? "ANDROID_AVD_HOME").getD config.avdHome
  systemImageDir := (env.nonBlank? "DROIDAGENT_SYSTEM_IMAGE").getD config.systemImageDir
  consolePort := ((env.nonBlank? "DROIDAGENT_CONSOLE_PORT").bind port?).getD config.consolePort
  emulatorPorts := config.emulatorPorts
  gpuMode := (env.nonBlank? "DROIDAGENT_GPU_MODE").getD config.gpuMode
  syslogSocket := (env.nonBlank? "DROIDAGENT_SYSLOG_SOCKET").getD config.syslogSocket
  deviceWaitSeconds :=
    ((env.nonBlank? "DROIDAGENT_DEVICE_WAIT_SECS").bind seconds?).or config.deviceWaitSeconds
  startsAdbServer :=
    ((env.nonBlank? "DROIDAGENT_START_ADB").map isAffirmative).getD config.startsAdbServer

def sdkRootPath (home : Option String) (config : Config) : String :=
  Path.expandUser home config.sdkRoot

/-- A path of its own, or one below the root of the development kit. -/
def underRoot (home : Option String) (config : Config) (own : String) (names : List String) :
    String :=
  if own.isEmpty then names.foldl Path.join (config.sdkRootPath home)
  else Path.expandUser home own

def adbBinary (home : Option String) (config : Config) : String :=
  config.underRoot home config.adbPath ["platform-tools", "adb"]

def emulatorBinary (home : Option String) (config : Config) : String :=
  config.underRoot home "" ["emulator", "emulator"]

def avdHomePath (home : Option String) (config : Config) : String :=
  config.underRoot home config.avdHome ["home"]

def systemImagePath (home : Option String) (config : Config) : String :=
  config.underRoot home config.systemImageDir ["system-image"]

def deviceWaitMillis (config : Config) : Option Nat :=
  config.deviceWaitSeconds.map fun seconds => seconds.toNat * 1000

def defaultClientAddr : String := "127.0.0.1:8080"

/-- The address in a variable, blank or not, or a default. -/
def envAddr (env : Environment) (key otherwise : String) : String :=
  (env key).getD otherwise

def clientAddr (env : Environment) : String :=
  envAddr env "DROIDAGENT_ADDR" defaultClientAddr

def dataDir (home : Option String) : String :=
  match home with
  | some dir => Path.join dir ".local/share/droidagent"
  | none => "/tmp/droidagent"

def filePath (home : Option String) (env : Environment) : String :=
  match env.nonBlank? "DROIDAGENT_CONFIG" with
  | some path => Path.expandUser home path
  | none => Path.join (dataDir home) "agent.json"

end Config

end EmulatorHost
