import EmulatorHost.Emulator.Error
import EmulatorHost.Files
import EmulatorHost.Properties

/-!
# The virtual device

The one virtual device that the emulator is launched with: its hardware, the files that describe it,
and how they are written.
-/

namespace EmulatorHost

structure HardwareProfile where
  ramSizeMb : UInt32
  coreCount : UInt32
  lcdDensity : UInt32
  lcdWidth : UInt32
  lcdHeight : UInt32
deriving DecidableEq, Repr, Inhabited

namespace Avd

def name : String := "Custom"

/-- The property of the system image that tells its instruction set. -/
def abiKey : String := "ro.product.cpu.abi"

def readImageAbi (files : Files) (imageDir : String) : Except Emulator.Error String :=
  let path := Path.join imageDir "build.prop"
  match files.readText path with
  | .error cause => .error (.io path cause)
  | .ok text =>
    match Properties.find? text abiKey with
    | some abi => .ok abi
    | none => .error (.config (abiKey ++ " missing"))

def cpuArchitecture (abi : String) : Except Emulator.Error String :=
  if abi == "x86_64" then .ok "x86_64"
  else if abi == "arm64-v8a" then .ok "arm64"
  else .error (.config ("unknown abi " ++ abi))

def identity : List (String × String) :=
  [("AvdId", name), ("avd.ini.displayname", name), ("avd.ini.encoding", "UTF-8")]

/-- The settings that are the same for every device. -/
def fixedHardware : List (String × String) :=
  [("disk.dataPartition.size", "512MB"), ("fastboot.forceColdBoot", "no"),
    ("hw.accelerometer", "yes"), ("hw.audioInput", "yes"), ("hw.battery", "yes"),
    ("hw.camera.back", "emulated"), ("hw.camera.front", "emulated"), ("hw.dPad", "no"),
    ("hw.device.manufacturer", "Google"), ("hw.gps", "yes"), ("hw.gpu.enabled", "yes"),
    ("hw.gpu.mode", "auto"), ("hw.initialOrientation", "Portrait"), ("hw.keyboard", "yes"),
    ("hw.mainKeys", "no"), ("hw.sensors.orientation", "yes"), ("hw.sensors.proximity", "yes"),
    ("hw.trackBall", "no"), ("runtime.network.latency", "none"), ("runtime.network.speed", "full")]

def withSeparator (dir : String) : String :=
  if dir.toList.getLast? == some '/' then dir else dir ++ "/"

/-- The settings of the device for an instruction set that some processor runs. -/
def configEntries (profile : HardwareProfile) (abi imageDir : String) :
    Except Emulator.Error (List (String × String)) := do
  let architecture ← cpuArchitecture abi
  return identity ++
    [("hw.ramSize", toString profile.ramSizeMb.toNat),
      ("hw.cpu.ncore", toString profile.coreCount.toNat)] ++
    fixedHardware ++
    [("hw.lcd.density", toString profile.lcdDensity.toNat),
      ("hw.lcd.width", toString profile.lcdWidth.toNat),
      ("hw.lcd.height", toString profile.lcdHeight.toNat),
      ("abi.type", abi), ("hw.cpu.arch", architecture),
      ("image.sysdir.1", withSeparator imageDir)]

def render (entries : List (String × String)) : String :=
  String.join (entries.map fun (key, value) => key ++ "=" ++ value ++ "\n")

def writeFile (files : Files) (path text : String) : Except Emulator.Error Files :=
  match files.write path (Bytes.ofString text) Files.newFileMode with
  | .ok files => .ok files
  | .error cause => .error (.io path cause)

def directory (avdHome : String) : String :=
  Path.join avdHome (name ++ ".avd")

/-- The file that points to the device's directory. -/
def pointerFile (avdHome : String) : String :=
  Path.join avdHome (name ++ ".ini")

def configFile (avdHome : String) : String :=
  Path.join (directory avdHome) "config.ini"

def makeDirectory (files : Files) (avdHome : String) : Except Emulator.Error Unit × Files :=
  let (outcome, files) := files.makeDirectories (directory avdHome)
  (outcome.mapError (.io (directory avdHome)), files)

/-- Writes the device: its directory, the pointer to it, and its settings. Answers the device's
directory, and the files as they are then, also after a failure half way. -/
def write (files : Files) (avdHome imageDir : String) (profile : HardwareProfile) :
    Except Emulator.Error String × Files :=
  match readImageAbi files imageDir with
  | .error error => (.error error, files)
  | .ok abi =>
    match configEntries profile abi imageDir with
    | .error error => (.error error, files)
    | .ok entries =>
      match makeDirectory files avdHome with
      | (.error error, files) => (.error error, files)
      | (.ok (), files) =>
        match writeFile files (pointerFile avdHome) ("path=" ++ directory avdHome) with
        | .error error => (.error error, files)
        | .ok files =>
          match writeFile files (configFile avdHome) (render entries) with
          | .error error => (.error error, files)
          | .ok files => (.ok (directory avdHome), files)

end Avd

end EmulatorHost
