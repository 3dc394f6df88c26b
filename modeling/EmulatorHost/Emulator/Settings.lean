import EmulatorHost.Avd
import EmulatorHost.Config
import EmulatorHost.ProgramStart

/-!
# How the emulator is launched

The places and flags that every launch shares, and the arguments and variables that follow from
them.
-/

namespace EmulatorHost.Emulator

structure Settings where
  binary : String
  sdkRoot : String
  avdHome : String
  systemImageDir : String
  ports : String
  consolePort : UInt16
  gpuMode : String
  syslogSocket : String
  deviceWaitMillis : Option Nat
  adbAddr : String
deriving DecidableEq, Repr, Inhabited

namespace Settings

def ofConfig (home : Option String) (config : Config) : Settings where
  binary := config.emulatorBinary home
  sdkRoot := config.sdkRootPath home
  avdHome := config.avdHomePath home
  systemImageDir := config.systemImagePath home
  ports := config.emulatorPorts
  consolePort := config.consolePort
  gpuMode := config.gpuMode
  syslogSocket := config.syslogSocket
  deviceWaitMillis := config.deviceWaitMillis
  adbAddr := config.adbServerAddr

def consoleAddr (settings : Settings) : String :=
  "127.0.0.1:" ++ toString settings.consolePort.toNat

def argsWith (settings : Settings) (port : String) : List String :=
  ["-avd", Avd.name, "-ports", settings.ports, "-grpc", port, "-no-window", "-skip-adb-auth",
    "-no-snapshot-save", "-wipe-data", "-shell-serial", "unix:" ++ settings.syslogSocket, "-gpu",
    settings.gpuMode, "-qemu", "-append", "panic=1"]

def args (settings : Settings) : List String :=
  settings.argsWith (toString settings.consolePort.toNat)

def environment (settings : Settings) : List (String × String) :=
  [("ANDROID_AVD_HOME", settings.avdHome), ("ANDROID_SDK_ROOT", settings.sdkRoot)]

def programStart (settings : Settings) : ProgramStart :=
  ⟨settings.binary, settings.args, settings.environment⟩

end Settings

end EmulatorHost.Emulator
