import EmulatorHost.Adb.Error
import EmulatorHost.Status

/-!
# Failures of the emulator

What can go wrong while an emulator is set up, launched, steered and stopped.
-/

namespace EmulatorHost.Emulator

inductive Error where
  -- The settings describe no emulator.
  | config (detail : String)
  -- A file could not be read or written.
  | io (path : String) (cause : SystemError)
  -- The binary could not be started.
  | spawn (cause : SystemError)
  -- The console is not connected yet.
  | notReady
  -- The console refused a call.
  | console (status : Status)
  | adb (cause : Adb.Error)
  -- The process group could not be signalled.
  | signal (cause : SystemError)
  -- The shared memory for frames could not be set up.
  | sharedMemory (cause : SystemError)
deriving DecidableEq, Repr, Inhabited

def Error.message : Error → String
  | config detail => "invalid emulator config: " ++ detail
  | io path cause => path ++ ": " ++ cause.message
  | spawn cause => "failed to spawn emulator: " ++ cause.message
  | notReady => "emulator not ready"
  | console status => "console request failed: " ++ status.message
  | adb cause => cause.message
  | signal cause => "failed to signal emulator: " ++ cause.message
  | sharedMemory cause => "shared memory setup failed: " ++ cause.message

end EmulatorHost.Emulator
