import EmulatorHost.Console
import EmulatorHost.Emulator.ErrorBlock
import EmulatorHost.Emulator.ExitReport
import EmulatorHost.Emulator.Settings

/-!
# Supervising an emulator

A launch writes the virtual device and spawns the emulator. Meanwhile the console is asked until it
answers, the device is awaited, and the process is waited for; what becomes of them is reported. A
startup that fails kills the process, and its failure is then what the end is reported with.
-/

namespace EmulatorHost.Emulator

inductive Life where
  | alive
  -- It has ended, and this is not reported yet.
  | ended (outcome : Except SystemError WaitStatus)
  -- Its end has been reported.
  | gone
deriving Repr, Inhabited

inductive Report where
  -- The console is up, and the device is there.
  | started
  -- The process is gone, cleanly or with an error.
  | exited (error : Option String)
  | frame (frame : Display.Frame)
deriving DecidableEq, Repr, Inhabited

structure Supervisor where
  life : Life
  hasConsole : Bool
  -- A forced stop was requested.
  isForced : Bool
  startupFailure : Option String
  -- The last error block that the emulator printed.
  lastError : String
deriving Repr, Inhabited

namespace Supervisor

def launch (settings : Settings) (profile : HardwareProfile) (files : Files) :
    Except Error Supervisor × Files :=
  match Avd.write files settings.avdHome settings.systemImageDir profile with
  | (.error error, files) => (.error error, files)
  | (.ok _, files) =>
    match settings.programStart.check files with
    | .error cause => (.error (.spawn cause), files)
    | .ok () => (.ok ⟨.alive, false, false, none, ""⟩, files)

/-- The process prints to its two outputs; only the error blocks in it matter. -/
def prints (supervisor : Supervisor) (out err : Bytes) : Supervisor :=
  { supervisor with lastError := mergeOutput out err }

/-- The process ends, unless it has ended before. -/
def ends (supervisor : Supervisor) (outcome : Except SystemError WaitStatus) : Supervisor :=
  match supervisor.life with
  | .alive => { supervisor with life := .ended outcome }
  | _ => supervisor

/-- Kills the process group. There is none any more once the end has been reported. -/
def kill (supervisor : Supervisor) : Except Error Unit × Supervisor :=
  match supervisor.life with
  | .gone => (.error (.signal .noProcess), supervisor)
  | _ => (.ok (), supervisor.ends (.ok (.ofSignal WaitStatus.killSignal)))

def failStartup (supervisor : Supervisor) (error : Error) : Supervisor :=
  { supervisor with startupFailure := some error.message }.kill.2

/-- The console answers, or not. As long as it is unavailable it is asked again. -/
def consoleAnswers (supervisor : Supervisor) (answer : Except Status Unit) : Supervisor :=
  match answer with
  | .ok () => { supervisor with hasConsole := true }
  | .error status =>
    if status.code == .unavailable then supervisor else supervisor.failStartup (.console status)

/-- Waiting for the device, and for its full rights if they were asked for, comes to an end. -/
def deviceAnswers (supervisor : Supervisor) (answer : Except Adb.Error Unit) :
    Option Report × Supervisor :=
  match answer with
  | .ok () => (some .started, supervisor)
  | .error error => (none, supervisor.failStartup (.adb error))

def reportEnd (supervisor : Supervisor) : Option Report × Supervisor :=
  match supervisor.life with
  | .ended outcome =>
    (some (.exited (exitReport outcome supervisor.isForced supervisor.startupFailure
        supervisor.lastError)),
      { supervisor with life := .gone })
  | _ => (none, supervisor)

def askConsole (supervisor : Supervisor) (answer : Except Status Unit) : Except Error Unit :=
  if supervisor.hasConsole then answer.mapError .console else .error .notReady

def stop (supervisor : Supervisor) (force : Bool) (answer : Except Status Unit) :
    Except Error Unit × Supervisor :=
  if force then { supervisor with isForced := true }.kill
  else (supervisor.askConsole answer, supervisor)

end Supervisor

end EmulatorHost.Emulator
